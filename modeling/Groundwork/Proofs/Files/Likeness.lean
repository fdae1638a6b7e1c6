import Groundwork.Proofs.Files.Passage

/-!
Trees in which a path is read with the same result: on its way one of them may have directories
where the other has nothing, and files of the same content. Paths that name the same, part by part: if
one of them leads to a file, another one leads to it too, or stops at it because of what is spelled after
its name.
-/

namespace Groundwork

open Files Path

variable {files tree : Files} {root path : Path} {top from_ : Location}

/-- The content of the file that a path leads to. -/
def Place.content : Place → Except FileFault ByteArray
  | .taken _ (.file content _) => .ok content
  | .taken _ .directory => .error .isDirectory
  | .free .. => .error .notFound

namespace Files

theorem read_eq (files : Files) (path : Path)
    : files.read path = (files.place path).bind Place.content := by
  simp only [Files.read, bind, Except.bind]
  cases files.place path with
  | error fault => rfl
  | ok place => cases place with
    | taken location node => cases node <;> rfl
    | free parent name slash => rfl

/-- A location where a tree is like another one: nothing is different there, or there is a directory
instead of nothing, or a file with the same content.
-/
def LikeAt (before after : Files) (place : Location) : Prop :=
  after.node? place = before.node? place
  ∨ before.node? place = none ∧ after.node? place = some .directory
  ∨ ∃ content executable now,
      before.node? place = some (.file content executable)
      ∧ after.node? place = some (.file content now)

/-- A file is where one with the same content was. -/
theorem LikeAt.file {place : Location} (like : LikeAt files tree place) {content : ByteArray}
    {now : Bool} (found : tree.node? place = some (.file content now))
    : ∃ executable, files.node? place = some (.file content executable) := by
  rcases like with same | ⟨-, open_⟩ | ⟨_, executable, _, was, is⟩
  · exact ⟨now, same ▸ found⟩
  · exact absurd (found.symm.trans open_) (by simp)
  · cases found.symm.trans is
    exact ⟨executable, was⟩

theorem LikeAt.directory {place : Location} (like : LikeAt files tree place)
    (open_ : files.node? place = some .directory)
    : tree.node? place = some .directory := by
  rcases like with same | ⟨missing, -⟩ | ⟨_, _, _, was, -⟩
  · rw [same, open_]
  · exact absurd (open_.symm.trans missing) (by simp)
  · exact absurd (open_.symm.trans was) (by simp)

theorem LikeAt.trans {other : Files} {place : Location} (first : LikeAt files tree place)
    (second : LikeAt tree other place)
    : LikeAt files other place := by
  rcases second with same | ⟨missing, open_⟩ | ⟨content, executable, now, was, is⟩
  · rwa [LikeAt, same]
  · rcases first with same | ⟨-, open_'⟩ | ⟨_, _, _, -, is'⟩
    · exact .inr (.inl ⟨same ▸ missing, open_⟩)
    · exact absurd (open_'.symm.trans missing) (by simp)
    · exact absurd (is'.symm.trans missing) (by simp)
  · obtain ⟨before, there⟩ := first.file was
    exact .inr (.inr ⟨content, before, now, there, is⟩)

/-- Nothing is read where nothing is, if nothing else is wrong on the way; by induction on the
segments.
-/
theorem content_walk_missing {segments : List String} (down : ".." ∉ segments)
    (clear : files.Clear from_ (namesOf segments))
    (missing : files.node? (from_ ++ namesOf segments) = none)
    : (files.walk from_ segments).bind Place.content = .error .notFound := by
  induction segments generalizing from_ with
  | nil =>
      have none : files.node? from_ = none := by simpa [namesOf] using missing
      simp [Files.walk, none, Except.bind]
  | cons segment rest ih =>
      have later : ".." ∉ rest := fun found => down (List.mem_cons_of_mem _ found)
      cases here : files.node? from_ with
      | none => simp [Files.walk, here, Except.bind]
      | some node =>
          cases node with
          | file content executable =>
              exact absurd (by simpa using here) (clear.free [] content executable List.nil_prefix)
          | directory =>
              cases idle : isIdle segment with
              | true =>
                  have names : namesOf (segment :: rest) = namesOf rest := by simp [namesOf, idle]
                  rw [names] at clear missing
                  rw [walk_idle here idle, ih later clear missing]
              | false =>
                  have plain : IsName segment := ⟨idle, fun same => down (by simp [same])⟩
                  rw [plain.namesOf_cons] at clear missing
                  rw [walk_name here plain (clear.short _ List.mem_cons_self)]
                  rw [List.append_cons] at missing
                  split
                  · exact ih later clear.tail missing
                  · split <;> rfl

/-- Trees that are alike along names that lead below a location. If one of them has nothing at the
end, so has the other, and no name is too long to tell.
-/
structure LikeAlong (before after : Files) (from_ : Location) (names : List String) : Prop where
  like : ∀ way, way <+: names → LikeAt before after (from_ ++ way)
  missing : before.node? (from_ ++ names) = none → after.node? (from_ ++ names) = none
  short : before.node? (from_ ++ names) = none → ∀ name ∈ names, name.utf8ByteSize ≤ nameLimit

namespace LikeAlong

variable {names rest : List String} {name : String}

/-- A tree may change to one that is alike along the names, if nothing comes to be at the end. -/
theorem trans {other : Files} (along : LikeAlong files tree from_ names)
    (like : ∀ way, way <+: names → LikeAt tree other (from_ ++ way))
    (missing : tree.node? (from_ ++ names) = none → other.node? (from_ ++ names) = none)
    : LikeAlong files other from_ names :=
  ⟨fun way within => (along.like way within).trans (like way within),
    fun none => missing (along.missing none), along.short⟩

theorem here (along : LikeAlong files tree from_ names) : LikeAt files tree from_ := by
  simpa using along.like [] List.nil_prefix

theorem tail (along : LikeAlong files tree from_ (name :: rest))
    : LikeAlong files tree (from_ ++ [name]) rest := by
  refine ⟨fun way within => ?_, ?_, ?_⟩
  · rw [← List.append_cons]
    exact along.like _ (List.cons_prefix_cons.mpr ⟨rfl, within⟩)
  · rw [← List.append_cons]
    exact along.missing
  · rw [← List.append_cons]
    exact fun none other member => along.short none other (List.mem_cons_of_mem _ member)

/-- Where the first tree has nothing, the second has directories on the way, and then nothing. -/
theorem clear (along : LikeAlong files tree from_ names) (ground : files.Grounded root top)
    (below : top <+: from_) (none : files.node? from_ = none)
    : tree.Clear from_ names ∧ tree.node? (from_ ++ names) = .none := by
  have gone (way : List String) : files.node? (from_ ++ way) = .none := by
    cases found : files.node? (from_ ++ way) with
    | none => rfl
    | some node =>
        cases way with
        | nil => simp [none] at found
        | cons name more =>
            have open_ := ground.above below _ (List.cons_ne_nil name more) (by simp [found])
            exact absurd (open_.symm.trans none) (by simp)
  refine ⟨⟨along.short (gone _), fun way content executable within found => ?_⟩,
    along.missing (gone _)⟩
  obtain ⟨_, was⟩ := (along.like way within).file found
  exact absurd (was.symm.trans (gone way)) (by simp)

end LikeAlong

/-- Segments are followed to the same content in trees that are alike along their names; by induction
on the segments, up to the first that one of the trees has nothing for.
-/
theorem content_walk_congr (ground : files.Grounded root top) {segments : List String}
    (below : top <+: from_) (down : ".." ∉ segments)
    (along : LikeAlong files tree from_ (namesOf segments))
    : (tree.walk from_ segments).bind Place.content
      = (files.walk from_ segments).bind Place.content := by
  induction segments generalizing from_ with
  | nil =>
      have missing := along.missing
      simp only [namesOf, List.filter_nil, List.append_nil] at missing
      rcases along.here with same | ⟨none, open_⟩ | ⟨content, executable, now, was, is⟩
      · simp only [Files.walk, same]
      · exact absurd (open_.symm.trans (missing none)) (by simp)
      · simp [Files.walk, was, is, Except.bind, Place.content]
  | cons segment rest ih =>
      have later : ".." ∉ rest := fun found => down (List.mem_cons_of_mem _ found)
      cases here : files.node? from_ with
      | none =>
          obtain ⟨clear, missing⟩ := along.clear ground below here
          rw [content_walk_missing down clear missing]
          simp [Files.walk, here, Except.bind]
      | some node =>
          cases node with
          | file content executable =>
              have there : ∃ now, tree.node? from_ = some (.file content now) := by
                rcases along.here with same | ⟨none, -⟩ | ⟨_, _, now, was, is⟩
                · exact ⟨executable, same.trans here⟩
                · simp [none] at here
                · cases here.symm.trans was
                  exact ⟨now, is⟩
              obtain ⟨now, there⟩ := there
              simp [Files.walk, here, there]
          | directory =>
              have there := along.here.directory here
              cases idle : isIdle segment with
              | true =>
                  have names : namesOf (segment :: rest) = namesOf rest := by simp [namesOf, idle]
                  rw [names] at along
                  rw [walk_idle here idle, walk_idle there idle, ih below later along]
              | false =>
                  have plain : IsName segment := ⟨idle, fun same => down (by simp [same])⟩
                  rw [plain.namesOf_cons] at along
                  have inner : top <+: from_ ++ [segment] := below.trans (List.prefix_append ..)
                  by_cases short : segment.utf8ByteSize ≤ nameLimit
                  · rw [walk_name here plain short, walk_name there plain short]
                    cases next : files.node? (from_ ++ [segment]) with
                    | some node =>
                        have isThere : (tree.node? (from_ ++ [segment])).isSome := by
                          rcases along.tail.here with same | ⟨none, -⟩ | ⟨_, _, _, -, is⟩
                          · simp [same, next]
                          · simp [none] at next
                          · simp [is]
                        simp only [Option.isSome_some, isThere, if_true]
                        exact ih inner later along.tail
                    | none =>
                        obtain ⟨clear, missing⟩ := along.tail.clear ground inner next
                        have ends := content_walk_missing later clear missing
                        simp only [Option.isSome_none, Bool.false_eq_true, if_false]
                        split <;> split <;> first | rfl | exact ends
                  · simp [Files.walk, here, there, idle, plain.down, Nat.lt_of_not_le short]

/-- A path below a root is read with the same result in trees that are alike along its names. -/
theorem read_congr (ground : files.Grounded root top) (other : tree.Grounded root top)
    {more : List String} (under : path.Under root more) (down : ".." ∉ more)
    (along : LikeAlong files tree top (namesOf more))
    : tree.read path = files.read path := by
  rw [read_eq, read_eq]
  cases refused : refusal? path with
  | some fault => simp [place_eq, refused]
  | none =>
      rw [ground.place_under under refused, other.place_under under refused]
      exact content_walk_congr ground List.prefix_rfl down along

variable {other : Path} {start location : Location} {content : ByteArray} {executable : Bool}

-----------------------------------------------------------------------------------------
-- Steps that have the same names
-----------------------------------------------------------------------------------------

/-- A path is absolute if the root is what it names first. -/
theorem isAbsolute_iff (path : Path)
    : path.isAbsolute = true ↔ path.components.head? = some .root := by
  have named (segment : String) : component segment ≠ .root := by
    rw [component]
    split <;> simp
  by_cases none : path.head = ""
  · by_cases short : path.tail = []
    · simp [isAbsolute, components, headComponents, none, short]
    · simp [isAbsolute, components, headComponents, none, short]
  · by_cases dot : path.head = "."
    · simp [isAbsolute, components, headComponents, dot]
    · simp [isAbsolute, components, headComponents, none, dot, named]

theorem names_steps_join (root path : Path)
    : namesOf (root.join path).steps
      = if path.isAbsolute then path.names else namesOf root.steps ++ path.names := by
  cases absolute : path.isAbsolute with
  | true =>
      have none : path.head = "" := by
        simp only [isAbsolute, Bool.and_eq_true, String.isEmpty_iff] at absolute
        exact absolute.1
      simp [join, absolute, steps_of_absolute absolute, names, segments, none, namesOf, isIdle]
  | false =>
      obtain ⟨-, core, idle, split, ends, steps⟩ := @join_under root _ absolute
      simp [steps, split, namesOf_idle ends, names]

/-- Paths that name the same are followed from the same location along the same names. -/
theorem steps_join_congr (root : Path) (same : path.components = other.components)
    : (root.join path).isAbsolute = (root.join other).isAbsolute
      ∧ namesOf (root.join path).steps = namesOf (root.join other).steps := by
  have absolute : path.isAbsolute = other.isAbsolute :=
    Bool.eq_iff_iff.mpr (by rw [isAbsolute_iff, isAbsolute_iff, same])
  constructor
  · cases starts : path.isAbsolute with
    | true => simp [join, starts, absolute ▸ starts]
    | false =>
        rw [(join_under starts).start, (join_under (absolute ▸ starts)).start]
  · rw [names_steps_join, names_steps_join, absolute, names_congr same]

/-- A walk to a file follows some name, if it follows anything. -/
theorem namesOf_ne_nil_of_file {segment : String} {rest : List String}
    (leads : files.walk start (segment :: rest) = .ok (.taken location (.file content executable)))
    : namesOf (segment :: rest) ≠ [] := by
  intro none
  have idle : AllIdle (segment :: rest) := by
    simpa [AllIdle, namesOf] using none
  rw [walk_allIdle (directory_of_walk leads) idle] at leads
  cases leads

/-- Steps along the same names as a walk to a file lead there too, unless they go on past the file; by
induction on the steps.
-/
theorem walk_of_sameNames {first second : List String}
    (leads : files.walk start first = .ok (.taken location (.file content executable)))
    (same : namesOf second = namesOf first)
    : files.walk start second = .ok (.taken location (.file content executable))
      ∨ files.walk start second = .error .notDirectory := by
  induction second generalizing start first with
  | nil =>
      cases first with
      | nil => exact .inl leads
      | cons segment rest => exact absurd same.symm (namesOf_ne_nil_of_file leads)
  | cons segment rest ih =>
      cases idle : isIdle segment with
      | true =>
          have later : namesOf rest = namesOf first := by
            rw [← same]
            simp [namesOf, idle]
          cases first with
          | nil =>
              obtain ⟨rfl, found⟩ := walk_taken leads
              exact .inr (by simp [Files.walk, found])
          | cons =>
              rw [walk_idle (directory_of_walk leads) idle]
              exact ih leads later
      | false =>
          have split : namesOf first = segment :: namesOf rest := by
            rw [← same]
            simp [namesOf, idle]
          obtain ⟨before, after, rfl, skipped, -, later⟩ := List.filter_eq_cons_iff.mp split
          have idles : AllIdle before := by simpa [AllIdle] using skipped
          have open_ : files.node? start = some .directory := by
            cases before <;> exact directory_of_walk leads
          rw [walk_append (walk_allIdle open_ idles)] at leads
          cases walk_step leads with
          | idle counts => exact absurd (counts.symm.trans idle) (by simp)
          | up up onward =>
              rw [up, walk_up open_]
              exact ih onward later.symm
          | name plain short found onward =>
              rw [walk_name open_ plain short, if_pos (by simp [found])]
              exact ih onward later.symm
          | free plain short missing slashes here => cases here

-----------------------------------------------------------------------------------------
-- Reading files
-----------------------------------------------------------------------------------------

/-- A path that is read leads to a file with that content. -/
theorem place_of_read (reads : files.read path = .ok content)
    : ∃ location executable, files.place path = .ok (.taken location (.file content executable)) := by
  rw [read_eq] at reads
  cases leads : files.place path with
  | error fault =>
      rw [leads] at reads
      cases reads
  | ok place =>
      rw [leads] at reads
      cases place with
      | free parent name slash => cases reads
      | taken location node =>
          cases node with
          | directory => cases reads
          | file held executable =>
              cases reads
              exact ⟨location, executable, rfl⟩

/-- A path that names the same as one of a file is read with the same content, or is not read, but never
for want of a file.
-/
theorem read_respelled (same : path.components = other.components)
    (reads : files.read (root.join path) = .ok content)
    : files.read (root.join other) = .ok content
      ∨ ∃ fault, files.read (root.join other) = .error fault ∧ fault ≠ .notFound := by
  obtain ⟨location, executable, leads⟩ := place_of_read reads
  obtain ⟨absolute, names⟩ := steps_join_congr root same
  rw [place_of_fits (fits_of_place leads), Files.start, absolute] at leads
  rw [read_eq]
  cases refused : refusal? (root.join other) with
  | some fault =>
      refine .inr ⟨fault, by rw [place_eq, refused]; rfl, ?_⟩
      rintro rfl
      -- A path that is empty follows nothing, and a file is not found by following nothing.
      obtain ⟨none, short⟩ : (root.join other).head = "" ∧ (root.join other).tail = [] := by
        simpa [isEmpty] using isEmpty_of_refusal? refused
      have relative : (root.join other).isAbsolute = false := by simp [isAbsolute, short]
      rw [steps_of_relative relative, steps_of_relative (absolute.trans relative)] at names
      rw [steps_of_relative (absolute.trans relative)] at leads
      refine namesOf_ne_nil_of_file leads (names.trans ?_)
      simp [segments, none, short, namesOf, isIdle]
  | none =>
      rw [place_of_fits refused]
      rcases walk_of_sameNames leads names.symm with found | blocked
      · exact .inl (by rw [Files.start, found]; rfl)
      · exact .inr ⟨.notDirectory, by rw [Files.start, blocked]; rfl, by simp⟩

end Files

end Groundwork
