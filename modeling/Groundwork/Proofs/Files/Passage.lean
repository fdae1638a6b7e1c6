import Groundwork.Proofs.Files.Directories

/-!
Ways on which directories may be missing. As long as no file lies on the way of a path and its names are
short enough, the directories that are missing can be made, also if the way leads up in between.
-/

namespace Groundwork.Files

open Path

variable {files after : Files} {root path : Path} {top start : Location} {steps : List String}

-----------------------------------------------------------------------------------------
-- Ways without a file
-----------------------------------------------------------------------------------------

theorem prefix_append_cases {before first second : List String} (within : before <+: first ++ second)
    : before <+: first ∨ ∃ more, before = first ++ more ∧ more <+: second := by
  obtain ⟨rest, whole⟩ := within
  rcases List.append_eq_append_iff.mp whole with ⟨extra, longer, -⟩ | ⟨extra, longer, tail⟩
  · exact .inl ⟨extra, longer.symm⟩
  · exact .inr ⟨extra, longer, rest, tail.symm⟩

theorem concat_prefix_append_cases {before first second : List String} {last : String}
    (within : before ++ [last] <+: first ++ second)
    : before ++ [last] <+: first ∨ last ∈ second := by
  rcases prefix_append_cases within with within | ⟨more, longer, within⟩
  · exact .inl within
  · rcases List.eq_nil_or_concat more with rfl | ⟨more, other, rfl⟩
    · exact .inl (by simp [longer])
    · rw [List.concat_eq_append, ← List.append_assoc] at longer
      obtain ⟨-, same⟩ := List.append_inj' longer rfl
      exact .inr (within.subset (by simp [(List.cons.inj same).1]))

/-- Names that lead below a location without a file on their way, all of them short enough. -/
structure Clear (files : Files) (from_ : Location) (names : List String) : Prop where
  short : ∀ name ∈ names, name.utf8ByteSize ≤ nameLimit
  free : ∀ before content executable, before <+: names
    → files.node? (from_ ++ before) ≠ some (.file content executable)

theorem Clear.tail {from_ : Location} {name : String} {rest : List String}
    (clear : files.Clear from_ (name :: rest))
    : files.Clear (from_ ++ [name]) rest := by
  refine ⟨fun other member => clear.short other (List.mem_cons_of_mem _ member), ?_⟩
  intro before content executable within
  rw [← List.append_cons]
  exact clear.free (name :: before) content executable (List.cons_prefix_cons.mpr ⟨rfl, within⟩)

/-- Steps from a directory with no file on their way and no name that is too long, which lead up from
directories to directories.
-/
structure Passable (files : Files) (start : Location) (steps : List String) : Prop where
  open_ : files.node? start = some .directory
  short : ∀ name ∈ steps, IsName name → name.utf8ByteSize ≤ nameLimit
  free : ∀ before content executable, before <+: steps →
    files.node? (follow start before) ≠ some (.file content executable)
  up : ∀ before, before ++ [".."] <+: steps → files.node? (follow start before) = some .directory →
    files.node? (follow start before).dropLast = some .directory

namespace Passable

theorem init {more : List String} (way : files.Passable start (steps ++ more))
    : files.Passable start steps :=
  have wider {before : List String} (within : before <+: steps) : before <+: steps ++ more :=
    within.trans (List.prefix_append ..)
  ⟨way.open_, fun name member => way.short name (List.mem_append_left _ member),
    fun before content executable within => way.free before content executable (wider within),
    fun before within => way.up before (wider within)⟩

theorem later (first : List String) (way : files.Passable start (first ++ steps))
    (open_ : files.node? (follow start first) = some .directory)
    : files.Passable (follow start first) steps := by
  refine ⟨open_, fun name member => way.short name (List.mem_append_right _ member), ?_, ?_⟩
  · intro before content executable within
    rw [← follow_append]
    exact way.free _ content executable ((List.prefix_append_right_inj first).mpr within)
  · intro before within
    rw [← follow_append]
    refine way.up (first ++ before) ?_
    rw [List.append_assoc]
    exact (List.prefix_append_right_inj first).mpr within

/-- Steps that do not lead up may be added if their names are clear. -/
theorem append {more : List String} (way : files.Passable start steps) (down : ".." ∉ more)
    (clear : files.Clear (follow start steps) (namesOf more))
    : files.Passable start (steps ++ more) := by
  refine ⟨way.open_, fun name member plain => ?_, fun before content executable within => ?_,
    fun before within => ?_⟩
  · rcases List.mem_append.mp member with member | member
    · exact way.short name member plain
    · exact clear.short name (List.mem_filter.mpr ⟨member, by simp [plain.counts]⟩)
  · rcases prefix_append_cases within with within | ⟨extra, rfl, rest, rfl⟩
    · exact way.free before content executable within
    · rw [follow_append, follow_names fun found => down (List.mem_append_left _ found)]
      exact clear.free _ content executable (by simp)
  · rcases concat_prefix_append_cases within with within | member
    · exact way.up before within
    · exact absurd member down

theorem append_idle {idle : List String} (way : files.Passable start steps) (ends : AllIdle idle)
    : files.Passable start (steps ++ idle) := by
  refine way.append (fun found => absurd (ends _ found) (by decide)) ?_
  rw [namesOf_idle ends]
  refine ⟨by simp, fun before content executable within => ?_⟩
  rw [List.prefix_nil.mp within, List.append_nil]
  exact way.free steps content executable List.prefix_rfl

/-- The first step leads from the directory to another one, or to a name that is free. -/
theorem step {segment : String} {rest : List String} (way : files.Passable start (segment :: rest))
    : files.node? (advance start segment) = some .directory
        ∧ (∀ more, files.walk start (segment :: more) = files.walk (advance start segment) more)
      ∨ IsName segment ∧ segment.utf8ByteSize ≤ nameLimit
        ∧ files.node? (start ++ [segment]) = none := by
  cases idle : isIdle segment with
  | true =>
      rw [advance_idle idle]
      exact .inl ⟨way.open_, walk_idle way.open_ idle⟩
  | false =>
      by_cases up : segment = ".."
      · subst up
        exact .inl ⟨way.up [] (by simp) way.open_, walk_up way.open_⟩
      · have plain : IsName segment := ⟨idle, up⟩
        have short := way.short segment List.mem_cons_self plain
        have free := way.free [segment]
        rw [follow_cons, follow_nil, advance_name plain] at free
        rw [advance_name plain]
        cases found : files.node? (start ++ [segment]) with
        | none => exact .inr ⟨plain, short, rfl⟩
        | some node =>
            cases node with
            | file content executable => exact absurd found (free content executable (by simp))
            | directory =>
                exact .inl ⟨rfl, fun more => by rw [walk_name way.open_ plain short]; simp [found]⟩

/-- The steps lead to a directory, or some directory is missing before any further step; by induction on
them.
-/
theorem walk (way : files.Passable start steps)
    : files.walk start steps = .ok (.taken (follow start steps) .directory)
      ∨ ∀ last, isIdle last = false → files.walk start (steps ++ [last]) = .error .notFound := by
  induction steps generalizing start with
  | nil => exact .inl (walk_nil way.open_)
  | cons segment rest ih =>
      rcases way.step with ⟨open_, leads⟩ | ⟨plain, short, missing⟩
      · rw [leads, follow_cons]
        refine (ih (way.later [segment] open_)).imp_right fun blocked last counts => ?_
        rw [List.cons_append, leads]
        exact blocked last counts
      · refine .inr fun last counts => ?_
        have filled : last.isEmpty = false := (Bool.or_eq_false_iff.mp counts).1
        rw [List.cons_append, walk_name way.open_ plain short]
        simp [missing, filled]

/-- What is on the way stays free of files when directories are made, each of them in a directory. -/
theorem grows {made : Location → Prop} (way : files.Passable start steps)
    (grows : Grows files after made)
    (within : ∀ place name, files.node? (place ++ [name]) = none →
      (after.node? (place ++ [name])).isSome → after.node? place = some .directory)
    : after.Passable start steps := by
  refine ⟨grows.keeps.directories _ way.open_, way.short, ?_, ?_⟩
  · intro before content executable inside found
    rcases grows.node (follow start before) with same | ⟨-, open_, -⟩
    · exact way.free before content executable inside (same ▸ found)
    · exact absurd (found.symm.trans open_) (by simp)
  · intro before inside open_
    rcases grows.node (follow start before) with same | ⟨missing, -, -⟩
    · exact grows.keeps.directories _ (way.up before inside (same ▸ open_))
    · rcases List.eq_nil_or_concat (follow start before) with top | ⟨place, name, split⟩
      · rw [top]
        rfl
      · rw [List.concat_eq_append] at split
        rw [split] at missing open_ ⊢
        rw [List.dropLast_concat]
        exact within place name missing (by simp [open_])

end Passable

/-- Steps that lead to a directory are passable. -/
theorem passable_of_walk {location : Location}
    (leads : files.walk start steps = .ok (.taken location .directory))
    : files.Passable start steps := by
  refine ⟨walk_through leads (List.nil_append steps).symm, walk_short_of_mem leads, ?_, ?_⟩
  · rintro before content executable ⟨rest, whole⟩
    simp [walk_through leads whole.symm]
  · rintro before ⟨rest, whole⟩ -
    have open_ := walk_through leads whole.symm
    rw [follow_append] at open_
    exact open_

-----------------------------------------------------------------------------------------
-- Making directories on such ways
-----------------------------------------------------------------------------------------

theorem refusal?_eq_none
    : refusal? path = none
      ↔ (∀ segment ∈ path.segments, ∀ c ∈ segment.toList, c.toNat ≠ 0)
        ∧ path.isEmpty = false
        ∧ path.toString.utf8ByteSize < pathLimit := by
  constructor
  · intro fits
    unfold refusal? at fits
    split at fits
    · cases fits
    · next whole =>
      split at fits
      · cases fits
      · next some =>
        split at fits
        · cases fits
        · next short =>
          exact ⟨by simpa using whole, by simpa using some, Nat.lt_of_not_le short⟩
  · rintro ⟨whole, some, short⟩
    have clean : path.segments.any (fun s => s.toList.any (fun c => c.toNat == 0)) = false := by
      simpa using whole
    simp [refusal?, clean, some, short]

/-- A parent of a path that is followed is followed too, if it has any text. -/
theorem refusal?_parent? {parent : Path} (found : path.parent? = some parent)
    (fits : refusal? path = none)
    : parent.isEmpty = true ∨ refusal? parent = none := by
  cases empty : parent.isEmpty with
  | true => exact .inl rfl
  | false =>
      obtain ⟨whole, -, short⟩ := refusal?_eq_none.mp fits
      refine .inr (refusal?_eq_none.mpr ⟨?_, empty, Nat.lt_of_le_of_lt (size_parent? found) short⟩)
      intro segment member
      rcases segments_parent? found segment member with rfl | among
      · simp
      · exact whole segment among

/-- A path with any component is followed if it is, unless it is empty. -/
theorem refusal?_of_filled (filled : path.components.isEmpty = false)
    (fits : path.isEmpty = true ∨ refusal? path = none)
    : refusal? path = none := by
  refine fits.resolve_left fun empty => ?_
  obtain ⟨head, tail⟩ : path.head = "" ∧ path.tail = [] := by simpa [isEmpty] using empty
  simp [components, headComponents, head, tail] at filled

/-- The steps of a path lead to a directory. -/
def Opens (files : Files) (path : Path) : Prop :=
  files.walk (files.start path) path.steps = .ok (.taken (files.locate path) .directory)

theorem Passable.opens (way : files.Passable (files.start path) path.steps) (idle : AllIdle path.steps)
    : files.Opens path := by
  rw [Opens, Files.locate, follow_idle idle]
  exact walk_allIdle way.open_ idle

/-- A path that can be followed to a directory cannot be made one. -/
theorem Opens.makeDirectory (opens : files.Opens path) (fits : refusal? path = none)
    : files.makeDirectory path = .error .exists ∧ files.isDirectory path = true := by
  have leads : files.place path = .ok (.taken (files.locate path) .directory) :=
    place_of_fits fits ▸ opens
  exact ⟨by simp [Files.makeDirectory, bind, Except.bind, leads], by simp [isDirectory, leads]⟩

/-- A path opens if its steps do up to idle ones at their end. -/
theorem opens_of_core {core idle : List String} (split : path.steps = core ++ idle)
    (ends : AllIdle idle)
    (leads : files.walk (files.start path) core
      = .ok (.taken (follow (files.start path) core) .directory))
    : files.Opens path := by
  rw [Opens, Files.locate, split, walk_append leads, follow_append, follow_idle ends]
  exact walk_allIdle (walk_taken leads).2 ends

/-- A path that another one goes on from opens if that one does. -/
theorem Opens.of_under {more : List String} (under : path.Under root more) (opens : files.Opens path)
    : files.Opens root := by
  obtain ⟨same, core, idle, split, ends, steps⟩ := under
  have started : files.start path = files.start root := by simp [Files.start, same]
  rw [Opens, started, steps] at opens
  exact opens_of_core split ends (walk_of_append opens)

/-- A path that another one goes on from opens if that one leads somewhere by its last name. -/
theorem opens_of_place {init : List String} {name : String} (under : path.Under root (init ++ [name]))
    (plain : IsName name) {place : Place} (leads : files.place path = .ok place)
    : files.Opens root := by
  obtain ⟨same, core, idle, split, ends, steps⟩ := under
  have started : files.start path = files.start root := by simp [Files.start, same]
  rw [place_of_fits (fits_of_place leads), started, steps, ← List.append_assoc] at leads
  obtain ⟨before, parent, last, whole, walks, -⟩ := walksTo_of_name plain leads
  obtain ⟨rfl, -⟩ := List.append_inj' whole rfl
  exact opens_of_core split ends (walk_of_append walks)

/-- Directories that are there need not be made. -/
theorem Opens.makeDirectories (opens : files.Opens path)
    (fits : path.isEmpty = true ∨ refusal? path = none)
    : files.makeDirectories path = (files, .ok ()) := by
  cases filled : path.components.isEmpty with
  | true => simp [Files.makeDirectories, makeDirectoriesFrom, filled]
  | false =>
      obtain ⟨tried, found⟩ := opens.makeDirectory (refusal?_of_filled filled fits)
      rw [makeDirectories_of_error filled tried (by simp), found]
      rfl

/-- Directories that are made lie in directories. -/
theorem within_of_makeDirectoriesFrom (files : Files) (fuel : Nat) (path : Path)
    : ∀ place name, files.node? (place ++ [name]) = none →
        ((files.makeDirectoriesFrom fuel path).1.node? (place ++ [name])).isSome →
        (files.makeDirectoriesFrom fuel path).1.node? place = some .directory := by
  refine makeDirectoriesFrom_induction
    (motive := fun tree => ∀ place name, files.node? (place ++ [name]) = none →
      (tree.node? (place ++ [name])).isSome → tree.node? place = some .directory)
    (fun place name missing found => by simp [missing] at found) ?_ fuel path
  intro tree path after inside made place name missing found
  obtain ⟨admits, new, rfl⟩ := admits_of_makeDirectory made
  refine (keeps_setNode admits.free .directory).directories place ?_
  rw [node?_setNode (ne_nil_of_free admits.free)] at found
  split at found
  · next here =>
      obtain ⟨parent, last, split, open_⟩ := admits.within new
      obtain ⟨rfl, -⟩ := List.append_inj' (here.trans split) rfl
      exact open_
  · exact inside place name missing found

theorem Passable.makeDirectoriesFrom_grows (way : files.Passable start steps) (fuel : Nat)
    (path : Path)
    : (files.makeDirectoriesFrom fuel path).1.Passable start steps :=
  way.grows (Files.makeDirectoriesFrom_grows fuel path) (within_of_makeDirectoriesFrom files fuel path)

/-- The last directory on a way is made in the one before it, unless it is there already. -/
theorem Passable.makeDirectory {init : List String} {last : String}
    (way : files.Passable (files.start path) path.steps) (fits : refusal? path = none)
    (split : path.steps = init ++ [last])
    (leads : files.walk (files.start path) init
      = .ok (.taken (follow (files.start path) init) .directory))
    : (∃ made, files.makeDirectory path = .ok made ∧ made.Opens path) ∨ files.Opens path := by
  have walks : files.walk (files.start path) path.steps
      = files.walk (follow (files.start path) init) [last] := by
    rw [split, walk_append leads]
  have locate : files.locate path = advance (follow (files.start path) init) last := by
    rw [Files.locate, split, follow_append, follow_cons, follow_nil]
  rw [split] at way
  rcases (way.later init (walk_taken leads).2).step with ⟨open_, step⟩ | ⟨plain, short, missing⟩
  · refine .inr ?_
    rw [Opens, walks, step, locate]
    exact walk_nil open_
  · left
    have place : files.place path = .ok (.free (follow (files.start path) init) last false) := by
      rw [place_of_fits fits, walks, walk_name (walk_taken leads).2 plain short]
      simp [missing]
    refine ⟨_, by simp [Files.makeDirectory, bind, Except.bind, place]; rfl, ?_⟩
    have kept : Keeps files (files.setNode (follow (files.start path) init ++ [last]) .directory) :=
      keeps_setNode (by simp [missing]) _
    rw [Opens, kept.start, kept.locate, split, walk_append (walk_mono leads kept.directories), locate,
      advance_name plain, walk_name (kept.directories _ (walk_taken leads).2) plain short,
      node?_setNode (by simp), if_pos rfl]
    exact walk_nil (by rw [node?_setNode (by simp), if_pos rfl])

/-- A path whose last step counts has a parent, whose way is part of its own, and which has fewer segments
unless none of its steps counts. Where the parent opens, the steps before the last lead to a directory.
-/
theorem Passable.parent? {init : List String} {last : String}
    (way : files.Passable (files.start path) path.steps) (split : path.steps = init ++ [last])
    (counts : isIdle last = false)
    : ∃ parent,
        path.parent? = some parent
        ∧ files.Passable (files.start parent) parent.steps
        ∧ (parent.tail.length < path.tail.length ∨ AllIdle parent.steps)
        ∧ ∀ tree : Files, tree.Opens parent →
            tree.walk (tree.start path) init
              = .ok (.taken (follow (tree.start path) init) .directory) := by
  obtain ⟨parent, found, absolute, core, gone, rest, rfl, goneIdle, steps, restIdle⟩ :=
    parent?_of_steps split counts (by simp [AllIdle])
  have started (tree : Files) : tree.start parent = tree.start path := by
    simp [Files.start, absolute]
  refine ⟨parent, found, ?_, ?_, fun tree opens => ?_⟩
  · rw [started, steps]
    exact (split ▸ way).init.init.append_idle restIdle
  · rcases parent?_shape found with ⟨rfl, -⟩ | ⟨rfl, -⟩ | ⟨⟨cut, longer, more⟩, -⟩
    · exact .inr (by simp [AllIdle, Path.steps, isAbsolute, segments, isIdle])
    · exact .inr (by simp [AllIdle, Path.steps, isAbsolute, isIdle])
    · have := List.length_pos_iff.mpr more
      rw [longer, List.length_append]
      exact .inl (by omega)
  · rw [Opens, started, steps] at opens
    have inner := walk_of_append opens
    rw [walk_append inner, walk_allIdle (walk_taken inner).2 goneIdle, follow_append,
      follow_idle goneIdle]

/-- A path without components has no step that counts. -/
theorem allIdle_of_components (none : path.components.isEmpty = true) : AllIdle path.steps := by
  obtain ⟨head, tail⟩ : path.head = "" ∧ path.tail = [] := by
    have first := (List.append_eq_nil_iff.mp (List.isEmpty_iff.mp none)).1
    unfold headComponents at first
    split at first
    · split at first <;> simp_all
    · split at first <;> cases first
  simp [AllIdle, steps, isAbsolute, segments, head, tail, isIdle]

/-- Directories can be made on a way without a file, if enough fuel is left for those that are missing;
by induction on the fuel, going up to the first that is there.
-/
theorem Passable.makeDirectoriesFrom (way : files.Passable (files.start path) path.steps)
    (fits : path.isEmpty = true ∨ refusal? path = none)
    (ends : AllIdle path.steps ∨ ∃ init last, path.steps = init ++ [last] ∧ isIdle last = false)
    (fuel : Nat) (enough : path.tail.length + 2 ≤ fuel ∨ AllIdle path.steps ∧ 0 < fuel)
    : (files.makeDirectoriesFrom fuel path).2 = .ok ()
      ∧ (files.makeDirectoriesFrom fuel path).1.Opens path := by
  induction fuel generalizing path with
  | zero => omega
  | succ fuel ih =>
      rw [Files.makeDirectoriesFrom]
      cases filled : path.components.isEmpty with
      | true => exact ⟨rfl, way.opens (allIdle_of_components filled)⟩
      | false =>
          have fits := refusal?_of_filled filled fits
          simp only [Bool.false_eq_true, if_false]
          rcases ends with idle | ⟨init, last, split, counts⟩
          · have opens := way.opens idle
            obtain ⟨tried, found⟩ := opens.makeDirectory fits
            simp only [tried, found, if_true]
            exact ⟨trivial, opens⟩
          · rcases (split ▸ way).init.walk with leads | blocked
            · rcases way.makeDirectory fits split leads with ⟨made, tried, opens⟩ | opens
              · simp only [tried]
                exact ⟨trivial, opens⟩
              · obtain ⟨tried, found⟩ := opens.makeDirectory fits
                simp only [tried, found, if_true]
                exact ⟨trivial, opens⟩
            · -- A directory above is missing, so the parent is made before the path is tried again.
              have tried : files.makeDirectory path = .error .notFound := by
                simp [Files.makeDirectory, bind, Except.bind, place_of_fits fits, split,
                  blocked last counts]
              obtain ⟨parent, found, parentWay, shorter, leads⟩ := way.parent? split counts
              have enough : path.tail.length + 1 ≤ fuel := by
                rcases enough with enough | ⟨idle, -⟩
                · omega
                · exact absurd (idle last (by simp [split])) (by simp [counts])
              obtain ⟨done, opens⟩ := ih parentWay (refusal?_parent? found fits) (steps_parent? found)
                (shorter.imp (by omega) fun idle => ⟨idle, by omega⟩)
              have kept := (@Files.makeDirectoriesFrom_grows files fuel parent).keeps
              have way' := way.makeDirectoriesFrom_grows fuel parent
              simp only [tried, found]
              rcases ran : files.makeDirectoriesFrom fuel parent with ⟨tree, result⟩
              rw [ran] at done opens kept way'
              simp only at done
              subst done
              rw [← kept.start path] at way'
              rcases way'.makeDirectory fits split (leads tree opens) with
                ⟨made, tried, opens⟩ | opens
              · simp only [tried]
                exact ⟨trivial, opens⟩
              · obtain ⟨tried, found⟩ := opens.makeDirectory fits
                simp only [tried, found, if_true]
                exact ⟨trivial, opens⟩

/-- Directories for a path can be made if no file lies on the way of its parent. -/
theorem Passable.makeDirectories {parent : Path} (parents : path.parent? = some parent)
    (fits : refusal? path = none) (way : files.Passable (files.start parent) parent.steps)
    : (files.makeDirectories parent).2 = .ok () ∧ (files.makeDirectories parent).1.Opens parent :=
  way.makeDirectoriesFrom (refusal?_parent? parents fits) (steps_parent? parents) _
    (.inl (Nat.le_refl _))

-----------------------------------------------------------------------------------------
-- Ways below a root
-----------------------------------------------------------------------------------------

theorem Grounded.directory_above (ground : files.Grounded root top) {place : Location}
    (below : top <+: place) (more : Location)
    (open_ : files.node? (place ++ more) = some .directory)
    : files.node? place = some .directory := by
  cases more with
  | nil => simpa using open_
  | cons name rest => exact ground.above below _ (List.cons_ne_nil _ _) (by rw [open_]; rfl)

/-- Segments lead to a directory that is at the location of their names; by induction on them. -/
theorem Grounded.walk_open (ground : files.Grounded root top) {segments : List String}
    {from_ : Location} (below : top <+: from_) (down : ".." ∉ segments)
    (short : ∀ name ∈ namesOf segments, name.utf8ByteSize ≤ nameLimit)
    (open_ : files.node? (from_ ++ namesOf segments) = some .directory)
    : files.walk from_ segments = .ok (.taken (from_ ++ namesOf segments) .directory) := by
  induction segments generalizing from_ with
  | nil => simpa [namesOf] using walk_nil (by simpa [namesOf] using open_)
  | cons segment rest ih =>
      have later : ".." ∉ rest := fun found => down (List.mem_cons_of_mem _ found)
      have here := ground.directory_above below _ open_
      cases counts : isIdle segment with
      | true =>
          have names : namesOf (segment :: rest) = namesOf rest := by simp [namesOf, counts]
          rw [names] at open_ short ⊢
          rw [walk_idle here counts, ih below later short open_]
      | false =>
          have plain : IsName segment := ⟨counts, fun same => down (by simp [same])⟩
          rw [plain.namesOf_cons] at open_ short ⊢
          rw [List.append_cons] at open_ ⊢
          have inner : top <+: from_ ++ [segment] := below.trans (List.prefix_append ..)
          have next := ground.directory_above inner _ open_
          rw [walk_name here plain (short _ List.mem_cons_self), if_pos (by simp [next])]
          exact ih inner later (fun name member => short name (List.mem_cons_of_mem _ member)) open_

/-- The way of a path under another is passable if that one's is and the names after it are clear. -/
theorem Passable.under (way : files.Passable (files.start root) root.steps) {more : List String}
    (under : path.Under root more) (down : ".." ∉ more)
    (clear : files.Clear (files.locate root) (namesOf more))
    : files.Passable (files.start path) path.steps := by
  obtain ⟨same, core, idle, split, ends, steps⟩ := under
  have started : files.start path = files.start root := by simp [Files.start, same]
  rw [Files.locate, split, follow_append, follow_idle ends] at clear
  rw [started, steps]
  exact (split ▸ way).init.append down clear

/-- Directories for a path under a root can be made if no file lies on the way from there. -/
theorem Grounded.makeDirectories_ok (ground : files.Grounded root top) {parent : Path}
    (parents : path.parent? = some parent) (fits : refusal? path = none) {above : List String}
    (under : parent.Under root above) (down : ".." ∉ above) (clear : files.Clear top (namesOf above))
    : (files.makeDirectories parent).2 = .ok ()
      ∧ (files.makeDirectories parent).1.node? (top ++ namesOf above) = some .directory := by
  have way := passable_of_walk ground.walks
  rw [(place_taken ground.leads).1] at clear
  obtain ⟨made, opens⟩ := Passable.makeDirectories parents fits (way.under under down clear)
  refine ⟨made, ?_⟩
  rw [← (ground.makeDirectories parent).2.locate_under under down]
  exact (walk_taken opens).2

/-- The way to a path that can hold a file is clear, and its last name is short enough. -/
theorem Reaches.clear (ground : files.Grounded root top) {names : List String} {name : String}
    (reach : files.Reaches root top path (top ++ (names ++ [name])))
    : files.Clear top names
      ∧ name.utf8ByteSize ≤ nameLimit
      ∧ files.node? (top ++ names) = some .directory := by
  obtain ⟨more, -, down, before, parent, last, rfl, walks, split, plain, short⟩ := reach.walks
  have beforeDown : ".." ∉ before := fun found => down (List.mem_append_left _ found)
  obtain ⟨at_, open_⟩ := walk_taken walks
  rw [follow_names beforeDown] at at_
  subst at_
  rw [← List.append_assoc] at split
  obtain ⟨inner, same⟩ := List.append_inj' split rfl
  obtain rfl := List.append_cancel_left inner
  obtain rfl := (List.cons.inj same).1
  refine ⟨⟨walk_short beforeDown walks, ?_⟩, short, open_⟩
  rintro front content executable ⟨rest, split⟩ found
  rw [← split, ← List.append_assoc] at open_
  have := ground.directory_above (List.prefix_append ..) rest open_
  exact absurd (found.symm.trans this) (by simp)

/-- A path that ends in a name can hold a file if what lies above its location is a directory. -/
theorem Grounded.reaches_last (ground : files.Grounded root top) (fits : refusal? path = none)
    {init : List String} {name : String} (under : path.Under root (init ++ [name]))
    (down : ".." ∉ init) (plain : IsName name)
    (short : ∀ other ∈ namesOf init, other.utf8ByteSize ≤ nameLimit)
    (last : name.utf8ByteSize ≤ nameLimit)
    (open_ : files.node? (top ++ namesOf init) = some .directory)
    : files.Reaches root top path (top ++ (namesOf init ++ [name])) := by
  refine ⟨fits, _, under, ?_, init, _, name, rfl, ground.walk_open List.prefix_rfl down short open_, ?_,
    plain, last⟩
  · simp [down, Ne.symm plain.down]
  · rw [List.append_assoc]

/-- A path that can hold a file in one tree can do so in every tree where something is at its location.
-/
theorem Reaches.of_found {tree : Files} (reach : files.Reaches root top path location)
    (other : tree.Grounded root top) (found : (tree.node? location).isSome)
    : tree.Reaches root top path location := by
  obtain ⟨more, under, down, before, parent, last, rfl, walks, rfl, plain, short⟩ := reach.walks
  have beforeDown : ".." ∉ before := fun found => down (List.mem_append_left _ found)
  obtain ⟨at_, -⟩ := walk_taken walks
  rw [follow_names beforeDown] at at_
  subst at_
  have open_ := other.above (List.prefix_append ..) [last] (List.cons_ne_nil _ _) found
  rw [List.append_assoc]
  exact other.reaches_last reach.fits under beforeDown plain (walk_short beforeDown walks) short open_

/-- Segments on whose way a file lies lead to nothing, and not for want of a node; by induction on
them.
-/
theorem Grounded.walk_blocked (ground : files.Grounded root top) {segments : List String}
    {from_ : Location} (below : top <+: from_) (down : ".." ∉ segments) {way more : List String}
    (names : namesOf segments = way ++ more) (some : more ≠ []) {content : ByteArray}
    {executable : Bool} (found : files.node? (from_ ++ way) = .some (.file content executable))
    : ∃ fault, files.walk from_ segments = .error fault ∧ fault ≠ .notFound := by
  induction segments generalizing from_ way with
  | nil =>
      obtain ⟨-, none⟩ := List.append_eq_nil_iff.mp names.symm
      exact absurd none some
  | cons segment rest ih =>
      have later : ".." ∉ rest := fun found => down (List.mem_cons_of_mem _ found)
      cases way with
      | nil =>
          rw [List.append_nil] at found
          exact ⟨.notDirectory, by simp [Files.walk, found], by simp⟩
      | cons first way =>
          have here : files.node? from_ = .some .directory :=
            ground.above below _ (List.cons_ne_nil _ _) (by rw [found]; rfl)
          cases idle : isIdle segment with
          | true =>
              have same : namesOf (segment :: rest) = namesOf rest := by simp [namesOf, idle]
              rw [walk_idle here idle]
              exact ih below later (same ▸ names) found
          | false =>
              have plain : IsName segment := ⟨idle, fun same => down (by simp [same])⟩
              rw [plain.namesOf_cons] at names
              obtain ⟨rfl, inside⟩ := List.cons.inj names
              rw [List.append_cons] at found
              have inner : top <+: from_ ++ [segment] := below.trans (List.prefix_append ..)
              by_cases short : segment.utf8ByteSize ≤ nameLimit
              · have next : (files.node? (from_ ++ [segment])).isSome := by
                  cases way with
                  | nil => simpa using congrArg Option.isSome found
                  | cons second way =>
                      simp [ground.above inner _ (List.cons_ne_nil second way) (by rw [found]; rfl)]
                rw [walk_name here plain short, if_pos next]
                exact ih inner later inside found
              · exact ⟨.nameTooLong, by simp [Files.walk, here, idle, plain.down, Nat.lt_of_not_le short],
                  by simp⟩

-----------------------------------------------------------------------------------------
-- Whole trees
-----------------------------------------------------------------------------------------

/-- Every node lies in a directory. -/
def IsTree (files : Files) : Prop :=
  ∀ place name, (files.node? (place ++ [name])).isSome → files.node? place = some .directory

namespace IsTree

variable (tree : files.IsTree)
include tree

theorem grounded_top : files.Grounded ⟨"", [""]⟩ [] := ⟨rfl, fun place name _ => tree place name⟩

theorem grounded (fits : refusal? root = none) (opens : files.Opens root)
    : files.Grounded root (files.locate root) :=
  ⟨place_of_fits fits ▸ opens, fun place name _ => tree place name⟩

theorem makeDirectories (path : Path) : (files.makeDirectories path).1.IsTree := fun place name =>
  (tree.grounded_top.makeDirectories path).2.tree place name List.nil_prefix

/-- A path that never leads up opens if a directory is at its location. -/
theorem opens (down : ".." ∉ path.steps)
    (short : ∀ name ∈ namesOf path.steps, name.utf8ByteSize ≤ nameLimit)
    (open_ : files.node? (files.locate path) = some .directory)
    : files.Opens path := by
  rw [Files.locate, follow_names down] at open_
  rw [Opens, Files.locate, follow_names down]
  exact tree.grounded_top.walk_open List.nil_prefix down short open_

/-- A way without a file is passable if its names are short enough. -/
theorem passable (open_ : files.node? start = some .directory)
    (short : ∀ name ∈ steps, IsName name → name.utf8ByteSize ≤ nameLimit)
    (free : ∀ before content executable, before <+: steps →
      files.node? (follow start before) ≠ some (.file content executable))
    : files.Passable start steps := by
  refine ⟨open_, short, free, fun before _ open_ => ?_⟩
  rcases List.eq_nil_or_concat (follow start before) with here | ⟨place, name, here⟩
  · rw [here]
    rfl
  · rw [List.concat_eq_append] at here
    rw [here] at open_ ⊢
    rw [List.dropLast_concat]
    exact tree place name (by rw [open_]; rfl)

end IsTree

end Groundwork.Files
