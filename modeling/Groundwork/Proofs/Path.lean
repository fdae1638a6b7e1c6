import Groundwork.Path

/-!
Paths as lists of steps: which steps joining, leaving out the last name and naming a file beside
another one give. Idle steps at an end do not count.
-/

namespace Groundwork.Path

-----------------------------------------------------------------------------------------
-- Segments, steps and names
-----------------------------------------------------------------------------------------

def segments (path : Path) : List String := path.head :: path.tail

/-- The segments that are followed from the top, or from the base if the path is relative. -/
def steps (path : Path) : List String := if path.isAbsolute then path.tail else path.segments

/-- The segments that are not idle. -/
def namesOf (segments : List String) : List String := segments.filter (fun s => !isIdle s)

def names (path : Path) : List String := namesOf path.segments

/-- Segments that lead nowhere else. -/
def AllIdle (segments : List String) : Prop := ∀ segment ∈ segments, isIdle segment = true

/-- A segment that names something in a directory. -/
structure IsName (segment : String) : Prop where
  counts : isIdle segment = false
  down : segment ≠ ".."

/-- A text spells the path, so that no segment has a slash in it. -/
def IsSpelled (path : Path) : Prop := ∃ text, ofString text = path

/-- The steps of a path are those of another one, up to idle ones at its end, and then some more.
-/
structure Under (path root : Path) (more : List String) : Prop where
  start : path.isAbsolute = root.isAbsolute
  steps : ∃ core idle, root.steps = core ++ idle ∧ AllIdle idle ∧ path.steps = core ++ more

@[simp]
theorem namesOf_nil : namesOf [] = [] := rfl

@[simp]
theorem namesOf_append (first second : List String)
    : namesOf (first ++ second) = namesOf first ++ namesOf second :=
  List.filter_append ..

theorem namesOf_idle {segments : List String} (idle : AllIdle segments) : namesOf segments = [] :=
  List.filter_eq_nil_iff.mpr fun segment member => by simp [idle segment member]

theorem IsName.namesOf_cons {name : String} (plain : IsName name) (rest : List String)
    : namesOf (name :: rest) = name :: namesOf rest := by
  simp [namesOf, plain.counts]

/-- A text of more than two characters names something. -/
theorem isName_of_length {name : String} (long : 2 < name.toList.length) : IsName name := by
  constructor
  · simp only [isIdle, Bool.or_eq_false_iff, String.isEmpty_eq_false_iff, beq_eq_false_iff_ne]
    constructor <;> rintro rfl <;> exact absurd long (by decide)
  · rintro rfl
    exact absurd long (by decide)

theorem AllIdle.append {first second : List String} (left : AllIdle first) (right : AllIdle second)
    : AllIdle (first ++ second) := by
  intro segment member
  rcases List.mem_append.mp member with member | member
  · exact left segment member
  · exact right segment member

theorem AllIdle.left {first second : List String} (idle : AllIdle (first ++ second))
    : AllIdle first :=
  fun segment member => idle segment (List.mem_append_left _ member)

theorem AllIdle.right {first second : List String} (idle : AllIdle (first ++ second))
    : AllIdle second :=
  fun segment member => idle segment (List.mem_append_right _ member)

theorem steps_of_absolute {path : Path} (absolute : path.isAbsolute = true)
    : path.steps = path.tail := by
  simp [steps, absolute]

theorem steps_of_relative {path : Path} (relative : path.isAbsolute = false)
    : path.steps = path.segments := by
  simp [steps, relative]

/-- A list ends in idle segments, before which it is empty or has one that counts; by induction from
the end, where the last segment is idle or is the one.
-/
theorem idleEnd_cases (segments : List String)
    : AllIdle segments
      ∨ ∃ init last idle,
          segments = init ++ last :: idle ∧ isIdle last = false ∧ AllIdle idle := by
  induction segments with
  | nil => exact .inl (by simp [AllIdle])
  | cons segment rest ih =>
      rcases ih with all | ⟨init, last, idle, rfl, counts, ends⟩
      · cases now : isIdle segment with
        | true => exact .inl (by simpa [AllIdle, now] using all)
        | false => exact .inr ⟨[], segment, rest, rfl, now, all⟩
      · exact .inr ⟨segment :: init, last, idle, rfl, counts, ends⟩

theorem dropIdle_of_idle {tail : List String} (idle : AllIdle tail) : dropIdle tail = [] := by
  simp only [dropIdle, List.reverse_eq_nil_iff]
  have gone : (tail.reverse ++ []).dropWhile isIdle = [].dropWhile isIdle :=
    List.dropWhile_append_of_pos (by simpa [AllIdle] using idle)
  simpa using gone

theorem dropIdle_append {init idle : List String} {last : String}
    (counts : isIdle last = false) (ends : AllIdle idle)
    : dropIdle (init ++ last :: idle) = init ++ [last] := by
  have gone : (idle.reverse ++ last :: init.reverse).dropWhile isIdle
      = (last :: init.reverse).dropWhile isIdle :=
    List.dropWhile_append_of_pos (by simpa [AllIdle] using ends)
  simp [dropIdle, gone, counts]

/-- A list splits in one way at its last segment that counts, as dropping its idle end shows. -/
theorem split_unique {left right leftIdle rightIdle : List String} {first second : String}
    (same : left ++ first :: leftIdle = right ++ second :: rightIdle)
    (counts : isIdle first = false) (ends : AllIdle leftIdle)
    (counts' : isIdle second = false) (ends' : AllIdle rightIdle)
    : left = right ∧ first = second := by
  have dropped := congrArg dropIdle same
  rw [dropIdle_append counts ends, dropIdle_append counts' ends'] at dropped
  obtain ⟨init, last⟩ := List.append_inj' dropped rfl
  exact ⟨init, (List.cons.inj last).1⟩

/-- What is dropped at an end is idle. -/
theorem dropIdle_split (tail : List String)
    : ∃ idle, tail = dropIdle tail ++ idle ∧ AllIdle idle := by
  rcases idleEnd_cases tail with all | ⟨init, last, idle, rfl, counts, ends⟩
  · exact ⟨tail, by simp [dropIdle_of_idle all], all⟩
  · exact ⟨idle, by simp [dropIdle_append counts ends], ends⟩

-----------------------------------------------------------------------------------------
-- Joining
-----------------------------------------------------------------------------------------

/-- Joining a relative path puts its segments after the steps of the base; by cases on whether the
base is empty or ends in a slash.
-/
theorem join_under {base path : Path} (relative : path.isAbsolute = false)
    : (base.join path).Under base path.segments := by
  cases empty : base.isEmpty with
  | true =>
      have joined : base.join path = path := by simp [join, relative, empty]
      obtain ⟨none, short⟩ : base.head = "" ∧ base.tail = [] := by simpa [isEmpty] using empty
      have based : base.isAbsolute = false := by simp [isAbsolute, short]
      rw [joined]
      refine ⟨relative.trans based.symm, [], [""], ?_, by simp [AllIdle, isIdle], ?_⟩
      · simp [steps_of_relative based, segments, none, short]
      · simp [steps_of_relative relative]
  | false =>
      obtain ⟨before, idle, split, ends, joined⟩ : ∃ before idle,
          base.tail = before ++ idle ∧ AllIdle idle
          ∧ base.join path = ⟨base.head, before ++ path.segments⟩ := by
        by_cases slash : base.tail.getLast? = some ""
        · obtain ⟨before, split⟩ := List.getLast?_eq_some_iff.mp slash
          exact ⟨before, [""], split, by simp [AllIdle, isIdle],
            by simp [join, relative, empty, split, segments]⟩
        · exact ⟨base.tail, [], by simp, by simp [AllIdle],
            by simp [join, relative, empty, slash, segments]⟩
      have same : (base.join path).isAbsolute = base.isAbsolute := by
        cases none : base.head.isEmpty with
        | false => simp [joined, isAbsolute, none]
        | true =>
            have long : base.tail.isEmpty = false := by simpa [isEmpty, none] using empty
            simp [joined, isAbsolute, none, long, segments]
      cases based : base.isAbsolute with
      | true =>
          refine ⟨same, before, idle, by simp [steps_of_absolute based, split], ends, ?_⟩
          rw [steps_of_absolute (same.trans based), joined]
      | false =>
          refine ⟨same, base.head :: before, idle, ?_, ends, ?_⟩
          · simp [steps_of_relative based, segments, split]
          · rw [steps_of_relative (same.trans based)]
            simp [joined, segments]

-----------------------------------------------------------------------------------------
-- Parents and file names
-----------------------------------------------------------------------------------------

/-- A segment list that dropping its idle end leaves as it is. -/
theorem dropIdle_ends (tail : List String)
    : dropIdle tail = [] ∨ ∃ init last, dropIdle tail = init ++ [last] ∧ isIdle last = false := by
  rcases idleEnd_cases tail with all | ⟨init, last, idle, rfl, counts, ends⟩
  · exact .inl (dropIdle_of_idle all)
  · exact .inr ⟨init, last, dropIdle_append counts ends, counts⟩

/-- The parent of a path is the empty path, the top, or the path cut off before one of its segments
and its idle end.
-/
theorem parent?_shape {path parent : Path} (found : path.parent? = some parent)
    : parent = ⟨"", []⟩ ∧ path.head ≠ ""
      ∨ parent = ⟨"", [""]⟩ ∧ path.head = "" ∧ path.tail ≠ []
      ∨ (∃ cut, path.tail = parent.tail ++ cut ∧ cut ≠ [])
        ∧ parent.head = path.head
        ∧ (parent.head = "" → parent.tail ≠ [])
        ∧ (parent.tail = [] ∨ ∃ init last, parent.tail = init ++ [last] ∧ isIdle last = false) := by
  simp only [parent?] at found
  obtain ⟨idle, kept, -⟩ := dropIdle_split path.tail
  split at found
  · split at found
    · cases found
    · next some => exact .inl ⟨by cases found; rfl, by simpa using some⟩
  · next long =>
    have long : dropIdle path.tail ≠ [] := by simpa using long
    have filled : path.tail ≠ [] := fun none => long (by simp [none, dropIdle])
    split at found
    · next top =>
        simp only [Bool.and_eq_true, List.isEmpty_iff, String.isEmpty_iff] at top
        exact .inr (.inl ⟨by cases found; rfl, top.2, filled⟩)
    · next below =>
        cases found
        simp only [Bool.and_eq_true, List.isEmpty_iff, String.isEmpty_iff, not_and] at below
        obtain ⟨gone, again, -⟩ := dropIdle_split (dropIdle path.tail).dropLast
        refine .inr (.inr ⟨⟨gone ++ [(dropIdle path.tail).getLast long] ++ idle, ?_, by simp⟩, rfl,
          fun none short => below short none, dropIdle_ends _⟩)
        rw [← List.append_assoc, ← List.append_assoc, ← again, List.dropLast_concat_getLast, ← kept]

/-- The steps of a parent are those before the last step that counts, up to idle ones at the end; by
cases on whether that step is the first segment.
-/
theorem parent?_of_steps {path : Path} {before idle : List String} {last : String}
    (split : path.steps = before ++ last :: idle) (counts : isIdle last = false) (ends : AllIdle idle)
    : ∃ parent,
        path.parent? = some parent
        ∧ parent.isAbsolute = path.isAbsolute
        ∧ ∃ core gone rest,
            before = core ++ gone ∧ AllIdle gone ∧ parent.steps = core ++ rest ∧ AllIdle rest := by
  cases absolute : path.isAbsolute with
  | true =>
      rw [steps_of_absolute absolute] at split
      have none : path.head = "" := by simpa [isAbsolute, split] using absolute
      have dropped : dropIdle path.tail = before ++ [last] := by rw [split, dropIdle_append counts ends]
      obtain ⟨gone, kept, idled⟩ := dropIdle_split before
      cases short : (dropIdle before).isEmpty with
      | true =>
          rw [List.isEmpty_iff.mp short] at kept
          exact ⟨⟨"", [""]⟩, by simp [parent?, dropped, none, short], rfl, [], gone, [""], kept, idled,
            rfl, by simp [AllIdle, isIdle]⟩
      | false =>
          have still : (Path.mk path.head (dropIdle before)).isAbsolute = true := by
            simp [isAbsolute, none, short]
          exact ⟨⟨path.head, dropIdle before⟩, by simp [parent?, dropped, short], still,
            dropIdle before, gone, [], kept, idled, by simp [steps_of_absolute still],
            by simp [AllIdle]⟩
  | false =>
      rw [steps_of_relative absolute, segments] at split
      cases before with
      | nil =>
          obtain ⟨rfl, rfl⟩ := List.cons.inj split
          have some : path.head.isEmpty = false := by simpa [isIdle] using (Bool.or_eq_false_iff.mp counts).1
          exact ⟨⟨"", []⟩, by simp [parent?, dropIdle_of_idle ends, some], rfl, [], [], [""], rfl,
            by simp [AllIdle], rfl, by simp [AllIdle, isIdle]⟩
      | cons first before =>
          rw [List.cons_append] at split
          obtain ⟨rfl, tail⟩ := List.cons.inj split
          have some : path.head.isEmpty = false := by
            cases none : path.head.isEmpty with
            | false => rfl
            | true => simp [isAbsolute, none, tail] at absolute
          have dropped : dropIdle path.tail = before ++ [last] := by
            rw [tail, dropIdle_append counts ends]
          have still : (Path.mk path.head (dropIdle before)).isAbsolute = false := by
            simp [isAbsolute, some]
          obtain ⟨gone, kept, idled⟩ := dropIdle_split before
          exact ⟨⟨path.head, dropIdle before⟩, by simp [parent?, dropped, some], still,
            path.head :: dropIdle before, gone, [], by rw [List.cons_append, ← kept], idled,
            by simp [steps_of_relative still, segments], by simp [AllIdle]⟩

/-- The last name of a path comes last among its steps but for idle ones; by cases on whether it is the
first segment.
-/
theorem steps_of_fileName? {path : Path} {name : String} (named : path.fileName? = some name)
    : IsName name ∧ ∃ before idle, path.steps = before ++ name :: idle ∧ AllIdle idle := by
  have last : path.components.getLast? = some (.name name) := by
    unfold fileName? at named
    split at named <;> simp_all
  have componentName {segment : String} (found : component segment = .name name)
      : segment = name ∧ segment ≠ ".." := by
    unfold component at found
    split at found
    · cases found
    · next down => exact ⟨by cases found; rfl, by simpa using down⟩
  rcases idleEnd_cases path.tail with all | ⟨init, final, idle, split, counts, ends⟩
  · have only : path.headComponents.getLast? = some (.name name) := by
      have none : path.tail.filter (fun s => !isIdle s) = [] := namesOf_idle all
      simpa [components, none] using last
    obtain ⟨some, dotless, found⟩
        : path.head.isEmpty = false ∧ path.head ≠ "." ∧ component path.head = .name name := by
      unfold headComponents at only
      split at only
      · split at only <;> simp at only
      · split at only
        · simp at only
        · next some dot => exact ⟨by simpa using some, by simpa using dot, by simpa using only⟩
    obtain ⟨rfl, down⟩ := componentName found
    have relative : path.isAbsolute = false := by simp [isAbsolute, some]
    exact ⟨⟨by simp [isIdle, some, dotless], down⟩, [], path.tail,
      by simp [steps_of_relative relative, segments], all⟩
  · obtain ⟨rfl, down⟩ : final = name ∧ final ≠ ".." := by
      have none : idle.filter (fun s => !isIdle s) = [] := namesOf_idle ends
      exact componentName (by simpa [components, split, counts, none] using last)
    refine ⟨⟨counts, down⟩, ?_⟩
    cases absolute : path.isAbsolute with
    | true => exact ⟨init, idle, by rw [steps_of_absolute absolute, split], ends⟩
    | false =>
        exact ⟨path.head :: init, idle, by simp [steps_of_relative absolute, segments, split], ends⟩

/-- A path with a last name has a parent, whose steps are those before the name. -/
theorem parent?_of_fileName? {path : Path} {name : String} (named : path.fileName? = some name)
    : IsName name
      ∧ ∃ parent before idle,
          path.parent? = some parent
          ∧ path.steps = before ++ name :: idle
          ∧ AllIdle idle
          ∧ parent.isAbsolute = path.isAbsolute
          ∧ ∃ core gone rest,
              before = core ++ gone ∧ AllIdle gone ∧ parent.steps = core ++ rest ∧ AllIdle rest := by
  obtain ⟨plain, before, idle, split, ends⟩ := steps_of_fileName? named
  obtain ⟨parent, found, absolute, parts⟩ := parent?_of_steps split plain.counts ends
  exact ⟨plain, parent, before, idle, found, split, ends, absolute, parts⟩

-----------------------------------------------------------------------------------------
-- Paths under a root
-----------------------------------------------------------------------------------------

/-- The last step that is a name gives the file name; by cases on whether it is the first segment.
-/
theorem fileName?_of_steps {path : Path} {before idle : List String} {name : String}
    (split : path.steps = before ++ name :: idle) (plain : IsName name) (ends : AllIdle idle)
    : path.fileName? = some name := by
  have named : component name = .name name := by simp [component, plain.down]
  have none : idle.filter (fun s => !isIdle s) = [] := namesOf_idle ends
  have ofTail {init : List String} (tail : path.tail = init ++ name :: idle)
      : path.fileName? = some name := by
    simp [fileName?, components, tail, plain.counts, none, named]
  cases absolute : path.isAbsolute with
  | true => exact ofTail (steps_of_absolute absolute ▸ split)
  | false =>
      rw [steps_of_relative absolute, segments] at split
      cases before with
      | cons first rest => exact ofTail (List.cons.inj split).2
      | nil =>
          obtain ⟨head, tail⟩ := List.cons.inj split
          have counts := plain.counts
          simp only [isIdle, Bool.or_eq_false_iff, beq_eq_false_iff_ne] at counts
          simp [fileName?, components, headComponents, head, tail, none, counts, named]

/-- Going on under a path that goes on under a root is going on under the root, up to idle steps
before; by comparing where the steps of both end.
-/
theorem Under.trans {path middle root : Path} {before more : List String}
    (below : path.Under middle more) (under : middle.Under root before)
    : ∃ first, path.Under root (first ++ more)
        ∧ namesOf first = namesOf before
        ∧ (".." ∉ before → ".." ∉ first) := by
  obtain ⟨start, core, idle, split, ends, steps⟩ := below
  obtain ⟨rootStart, rootCore, rootIdle, rootSplit, rootEnds, middleSteps⟩ := under
  rcases List.append_eq_append_iff.mp (split.symm.trans middleSteps) with
    ⟨extra, longer, idles⟩ | ⟨extra, longer, rest⟩
  · refine ⟨[], ⟨start.trans rootStart, core, extra ++ rootIdle, ?_, ?_, by simpa using steps⟩, ?_,
      by simp⟩
    · rw [rootSplit, longer, List.append_assoc]
    · exact (idles ▸ ends).left.append rootEnds
    · exact (namesOf_idle (idles ▸ ends).right).symm
  · refine ⟨extra, ⟨start.trans rootStart, rootCore, rootIdle, rootSplit, rootEnds, ?_⟩, ?_, ?_⟩
    · rw [steps, longer, List.append_assoc]
    · simp [rest, namesOf_idle ends]
    · exact fun down found => down (rest ▸ List.mem_append_left _ found)

/-- A path with names under a root has a file name, its last one, and a parent with the others
under the root.
-/
theorem Under.parent? {path root : Path} {more : List String} (under : path.Under root more)
    (named : namesOf more ≠ []) (down : ".." ∉ more)
    : ∃ parent name above,
        path.fileName? = some name
        ∧ path.parent? = some parent
        ∧ parent.Under root above
        ∧ namesOf more = namesOf above ++ [name]
        ∧ ".." ∉ above
        ∧ IsName name := by
  obtain ⟨start, core, idle, rootSplit, ends, steps⟩ := under
  rcases idleEnd_cases more with all | ⟨init, name, rest, rfl, counts, restEnds⟩
  · exact absurd (namesOf_idle all) named
  have plain : IsName name := ⟨counts, fun found => down (by simp [found])⟩
  have stepped : path.steps = (core ++ init) ++ name :: rest := by rw [steps, List.append_assoc]
  have found : path.fileName? = some name := fileName?_of_steps stepped plain restEnds
  obtain ⟨_, parent, before, idle', parents, split, ends', parentStart, kept, gone, fill, cut,
    goneIdle, parentSteps, fillIdle⟩ := parent?_of_fileName? found
  have joined : (core ++ init) ++ name :: rest = before ++ name :: idle' := by
    rw [List.append_assoc, ← steps, split]
  obtain ⟨rfl, -⟩ := split_unique joined counts restEnds counts ends'
  have names : namesOf (init ++ name :: rest) = namesOf init ++ [name] := by
    simp [plain.namesOf_cons, namesOf_idle restEnds]
  have initDown : ".." ∉ init := fun found => down (List.mem_append_left _ found)
  rcases List.append_eq_append_iff.mp cut with ⟨extra, longer, tail⟩ | ⟨extra, shorter, tail⟩
  · have fillDown : ".." ∉ extra ++ fill := by
      intro found
      rcases List.mem_append.mp found with found | found
      · exact initDown (tail ▸ List.mem_append_left _ found)
      · exact absurd (fillIdle _ found) (by decide)
    refine ⟨parent, name, extra ++ fill, found, parents, ⟨parentStart.trans start, core, idle,
      rootSplit, ends, by rw [parentSteps, longer, List.append_assoc]⟩, ?_, fillDown, plain⟩
    rw [names, tail]
    simp [namesOf_idle goneIdle, namesOf_idle fillIdle]
  · have fillDown : ".." ∉ fill := fun found => absurd (fillIdle _ found) (by decide)
    refine ⟨parent, name, fill, found, parents, ⟨parentStart.trans start, kept, extra ++ idle,
      by rw [rootSplit, shorter, List.append_assoc], (tail ▸ goneIdle).left.append ends,
      parentSteps⟩, ?_, fillDown, plain⟩
    rw [names, namesOf_idle (tail ▸ goneIdle).right, namesOf_idle fillIdle]

/-- A text without slashes spells a single segment; by induction on its characters. -/
theorem splitSlashes_of_no_slash {text : List Char} (whole : '/' ∉ text)
    : splitSlashes text = (text, []) := by
  induction text with
  | nil => rfl
  | cons c rest ih =>
      obtain ⟨other, later⟩ : '/' ≠ c ∧ '/' ∉ rest := by simpa using whole
      simp [splitSlashes, ih later, Ne.symm other]

theorem ofString_of_no_slash {name : String} (whole : '/' ∉ name.toList)
    : ofString name = ⟨name, []⟩ := by
  simp [ofString, splitSlashes_of_no_slash whole]

/-- The parts between slashes have no slash in them; by induction on the characters. -/
theorem splitSlashes_no_slash (text : List Char)
    : ∀ part ∈ (splitSlashes text).1 :: (splitSlashes text).2, '/' ∉ part := by
  induction text with
  | nil => simp [splitSlashes]
  | cons c rest ih =>
      obtain ⟨first, others⟩ := List.forall_mem_cons.mp ih
      by_cases slash : c = '/'
      · simpa [splitSlashes, slash] using ⟨first, others⟩
      · simpa [splitSlashes, slash, Ne.symm slash] using ⟨first, others⟩

/-- No segment of a path that a text spells has a slash in it. -/
theorem IsSpelled.no_slash {path : Path} (spelled : path.IsSpelled)
    : ∀ segment ∈ path.segments, '/' ∉ segment.toList := by
  obtain ⟨text, rfl⟩ := spelled
  intro segment member
  have parts := splitSlashes_no_slash text.toList
  simp only [segments, ofString, List.mem_cons, List.mem_map] at member
  rcases member with rfl | ⟨part, among, rfl⟩
  · simpa using parts _ List.mem_cons_self
  · simpa using parts _ (List.mem_cons_of_mem _ among)

/-- A path with another last name goes on under a root up to that name. -/
theorem Under.withFileName {path root : Path} {more : List String} {fresh : String}
    (under : path.Under root more) (named : namesOf more ≠ []) (down : ".." ∉ more)
    (whole : '/' ∉ fresh.toList)
    : ∃ above name,
        (path.withFileName fresh).Under root (above ++ [fresh])
        ∧ namesOf more = namesOf above ++ [name]
        ∧ ".." ∉ above := by
  obtain ⟨parent, name, above, found, parents, parentUnder, names, aboveDown, -⟩ :=
    under.parent? named down
  have renamed : path.withFileName fresh = parent.join ⟨fresh, []⟩ := by
    simp [Path.withFileName, found, parents, ofString_of_no_slash whole]
  have beside : (parent.join ⟨fresh, []⟩).Under parent [fresh] := join_under (by simp [isAbsolute])
  obtain ⟨first, below, sameNames, firstDown⟩ := beside.trans parentUnder
  exact ⟨first, name, renamed ▸ below, by rw [names, sameNames], firstDown aboveDown⟩

/-- The last part between slashes ends with what has no slash in it; by induction on the characters
before.
-/
theorem splitSlashes_append (text : List Char) {ending : List Char} (whole : '/' ∉ ending)
    : ∃ init last,
        (splitSlashes (text ++ ending)).1 :: (splitSlashes (text ++ ending)).2
          = init ++ [last ++ ending] := by
  induction text with
  | nil => exact ⟨[], [], by simp [splitSlashes_of_no_slash whole]⟩
  | cons c text ih =>
      obtain ⟨init, last, parts⟩ := ih
      by_cases slash : c = '/'
      · exact ⟨[] :: init, last, by simp [splitSlashes, slash, parts]⟩
      · cases init with
        | nil =>
            obtain ⟨head, tail⟩ := List.cons.inj parts
            exact ⟨[], c :: last, by simp [splitSlashes, slash, head, tail]⟩
        | cons first more =>
            obtain ⟨head, tail⟩ := List.cons.inj parts
            exact ⟨(c :: first) :: more, last, by simp [splitSlashes, slash, head, tail]⟩

/-- A path with another last name ends with what that name ends with, if no slash is in there. -/
theorem steps_withFileName (path : Path) {fresh : String} {first : Char} {middle ending : List Char}
    (text : fresh.toList = first :: middle ++ ending) (plain : first ≠ '/') (whole : '/' ∉ ending)
    : ∃ core last, (path.withFileName fresh).steps = core ++ [last] ∧ ending <:+ last.toList := by
  have relative : (ofString fresh).isAbsolute = false := by
    have other : (first == '/') = false := beq_false_of_ne plain
    simp [ofString, text, splitSlashes, other, isAbsolute]
  obtain ⟨base, renamed⟩ : ∃ base : Path, path.withFileName fresh = base.join (ofString fresh) := by
    unfold withFileName
    split
    · exact ⟨_, rfl⟩
    · exact ⟨_, rfl⟩
  obtain ⟨core, -, -, -, steps⟩ := (@join_under base _ relative).steps
  obtain ⟨init, last, parts⟩ := splitSlashes_append (first :: middle) whole
  have segments : (ofString fresh).segments = (init ++ [last ++ ending]).map String.ofList := by
    rw [← parts, Path.segments, ofString, text]
    rfl
  refine ⟨core ++ init.map String.ofList, String.ofList (last ++ ending), ?_, ?_⟩
  · rw [renamed, steps, segments]
    simp
  · simp

/-- A path with another extension has the steps of the path but for the last name and what is idle
after it; by cases on whether the last name is the first segment.
-/
theorem steps_withExtension {path : Path} {name : String} (named : path.fileName? = some name)
    (ext : String)
    : (path.withExtension ext).isAbsolute = path.isAbsolute
      ∧ ∃ before idle,
          path.steps = before ++ name :: idle
          ∧ AllIdle idle
          ∧ (path.withExtension ext).steps = before ++ [stem name ++ "." ++ ext] := by
  obtain ⟨plain, before, idle, split, ends⟩ := steps_of_fileName? named
  simp only [withExtension, named]
  rcases idleEnd_cases path.tail with all | ⟨init, final, rest, cut, counts, restEnds⟩
  · have short : dropIdle path.tail = [] := dropIdle_of_idle all
    have relative : path.isAbsolute = false := by
      cases absolute : path.isAbsolute with
      | false => rfl
      | true =>
          rw [steps_of_absolute absolute] at split
          have member : name ∈ path.tail := by simp [split]
          exact absurd (all name member) (by simp [plain.counts])
    rw [steps_of_relative relative, segments] at split ⊢
    cases before with
    | cons first more =>
        have member : name ∈ path.tail := by simp [(List.cons.inj split).2]
        exact absurd (all name member) (by simp [plain.counts])
    | nil =>
        refine ⟨by rw [relative]; simp [short, isAbsolute], [], idle, split, ends, ?_⟩
        simp [short, steps, isAbsolute, segments]
  · have dropped : dropIdle path.tail = init ++ [final] := by rw [cut, dropIdle_append counts restEnds]
    have long (last : String) (more : List String) : (init ++ last :: more).isEmpty = false := by
      cases init <;> rfl
    have absolute : (Path.mk path.head (init ++ [stem name ++ "." ++ ext])).isAbsolute
        = path.isAbsolute := by
      rw [isAbsolute, isAbsolute, cut, long, long]
    simp only [dropped, long, Bool.false_eq_true, if_false, List.dropLast_concat]
    refine ⟨absolute, ?_⟩
    cases start : path.isAbsolute with
    | true =>
        have whole := split
        rw [steps_of_absolute start, cut] at whole
        obtain ⟨rfl, rfl, rfl⟩ : init = before ∧ final = name ∧ rest = idle := by
          obtain ⟨first, second⟩ := split_unique whole counts restEnds plain.counts ends
          subst first second
          exact ⟨rfl, rfl, by simpa using whole⟩
        exact ⟨init, rest, split, ends, by rw [steps_of_absolute (absolute.trans start)]⟩
    | false =>
        have whole := split
        rw [steps_of_relative start, segments, cut, ← List.cons_append] at whole
        obtain ⟨first, -⟩ := split_unique whole counts restEnds plain.counts ends
        exact ⟨before, idle, split, ends, by
          rw [steps_of_relative (absolute.trans start), segments, ← List.cons_append, first]⟩

-----------------------------------------------------------------------------------------
-- Names and components
-----------------------------------------------------------------------------------------

/-- The segment that a component stands for, unless it is one that only starts a path. -/
def segment? : PathComponent → Option String
  | .root | .here => none
  | .up => some ".."
  | .name text => some text

/-- What a path names tells its names. -/
theorem names_eq_components (path : Path) : path.names = path.components.filterMap segment? := by
  have single (segment : String) : segment? (component segment) = some segment := by
    unfold component
    split
    · next up => simp [segment?, beq_iff_eq.mp up]
    · rfl
  have all (segments : List String)
      : (segments.map component).filterMap segment? = segments := by
    have both : segment? ∘ component = some := funext single
    rw [List.filterMap_map, both, List.filterMap_some]
  rw [components, List.filterMap_append, all, names, segments, namesOf, List.filter_cons]
  have tail : ∀ counted : List String, (path.headComponents.filterMap segment? ++ counted)
      = (if (!isIdle path.head) = true then path.head :: counted else counted) := by
    intro counted
    unfold headComponents isIdle
    by_cases none : path.head = ""
    · by_cases short : path.tail = [] <;> simp [none, short, segment?]
    · by_cases dot : path.head = "."
      · simp [dot, segment?]
      · simp [none, dot, single]
  exact (tail _).symm

/-- Paths that name the same have the same names. -/
theorem names_congr {path other : Path} (same : path.components = other.components)
    : path.names = other.names := by
  rw [names_eq_components, names_eq_components, same]

/-- Components are the same if they have the same rank and text; by cases on both. -/
theorem eq_of_rank {first second : PathComponent} (rank : first.rank = second.rank)
    (text : first.text = second.text)
    : first = second := by
  cases first <;> cases second <;> simp_all [PathComponent.rank, PathComponent.text]

instance : Trans (fun first second : PathComponent => first < second)
    (fun first second : PathComponent => first < second)
    (fun first second : PathComponent => first < second) where
  trans before after := by
    rcases before with lower | ⟨same, before⟩ <;> rcases after with lower' | ⟨same', after⟩
    · exact .inl (Nat.lt_trans lower lower')
    · exact .inl (same' ▸ lower)
    · exact .inl (same ▸ lower')
    · exact .inr ⟨same.trans same', String.lt_trans before after⟩

instance : Std.Irrefl fun first second : PathComponent => first < second where
  irrefl component before := by
    rcases before with lower | ⟨-, before⟩
    · exact Nat.lt_irrefl _ lower
    · exact String.lt_irrefl _ before

instance : Std.Trichotomous fun first second : PathComponent => first < second where
  trichotomous first second notBefore notAfter := by
    have rank : first.rank = second.rank :=
      Nat.le_antisymm (Nat.le_of_not_lt fun lower => notAfter (.inl lower))
        (Nat.le_of_not_lt fun lower => notBefore (.inl lower))
    have text : first.text = second.text :=
      String.le_antisymm (fun before => notAfter (.inr ⟨rank.symm, before⟩))
        (fun before => notBefore (.inr ⟨rank, before⟩))
    exact eq_of_rank rank text

instance : Std.Trichotomous fun first second : List PathComponent => first < second where
  trichotomous _ _ notBefore notAfter := List.le_antisymm notAfter notBefore

-----------------------------------------------------------------------------------------
-- What a parent has of its path
-----------------------------------------------------------------------------------------

/-- The bytes that segments and the slashes before them take. -/
def sizeAfter : List String → Nat
  | [] => 0
  | segment :: rest => segment.utf8ByteSize + 1 + sizeAfter rest

theorem sizeAfter_append (first second : List String)
    : sizeAfter (first ++ second) = sizeAfter first + sizeAfter second := by
  induction first with
  | nil => simp [sizeAfter]
  | cons segment rest ih =>
      simp only [List.cons_append, sizeAfter, ih]
      omega

/-- The bytes of a path's text are those of its segments and of the slashes between them; by
induction on the segments after the first.
-/
theorem size_toString (path : Path)
    : path.toString.utf8ByteSize = path.head.utf8ByteSize + sizeAfter path.tail := by
  obtain ⟨head, tail⟩ := path
  simp only [toString]
  induction tail generalizing head with
  | nil => simp [sizeAfter]
  | cons segment rest ih =>
      have slash : "/".utf8ByteSize = 1 := by decide
      rw [String.intercalate_cons_cons, String.utf8ByteSize_append, String.utf8ByteSize_append, ih,
        sizeAfter, slash]
      omega

/-- The text of a parent is not longer than that of the path. -/
theorem size_parent? {path parent : Path} (found : path.parent? = some parent)
    : parent.toString.utf8ByteSize ≤ path.toString.utf8ByteSize := by
  rw [size_toString, size_toString]
  rcases parent?_shape found with ⟨rfl, -⟩ | ⟨rfl, -, long⟩ | ⟨⟨cut, split, -⟩, same, -⟩
  · simp [sizeAfter]
  · obtain ⟨segment, rest, split⟩ := List.exists_cons_of_ne_nil long
    have slash : "".utf8ByteSize = 0 := by decide
    rw [split]
    simp only [sizeAfter, slash]
    omega
  · rw [split, same, sizeAfter_append]
    omega

/-- The segments of a parent are segments of the path, or empty. -/
theorem segments_parent? {path parent : Path} (found : path.parent? = some parent)
    : ∀ segment ∈ parent.segments, segment = "" ∨ segment ∈ path.segments := by
  rcases parent?_shape found with ⟨rfl, -⟩ | ⟨rfl, -⟩ | ⟨⟨cut, split, -⟩, same, -⟩
  · simp [segments]
  · simp [segments]
  · intro segment member
    simp only [segments, same, split, List.mem_cons, List.mem_append] at member ⊢
    exact .inr (member.imp_right .inl)

/-- The steps of a parent end in one that counts, or none of them does. -/
theorem steps_parent? {path parent : Path} (found : path.parent? = some parent)
    : AllIdle parent.steps
      ∨ ∃ init last, parent.steps = init ++ [last] ∧ isIdle last = false := by
  rcases parent?_shape found with ⟨rfl, -⟩ | ⟨rfl, -⟩ | ⟨-, -, some, ends⟩
  · exact .inl (by simp [AllIdle, steps, isAbsolute, segments, isIdle])
  · exact .inl (by simp [AllIdle, steps, isAbsolute, isIdle])
  · cases absolute : parent.isAbsolute with
    | true =>
        rw [steps_of_absolute absolute]
        exact ends.imp_left fun none => by simp [none, AllIdle]
    | false =>
        rw [steps_of_relative absolute, segments]
        rcases ends with none | ⟨init, last, split, counts⟩
        · cases counts : isIdle parent.head with
          | true => exact .inl (by simp [none, AllIdle, counts])
          | false => exact .inr ⟨[], parent.head, by simp [none], counts⟩
        · exact .inr ⟨parent.head :: init, last, by simp [split], counts⟩

/-- The steps of a parent are the first steps of the path, up to idle ones at the end. -/
theorem steps_parent?_drops {path parent : Path} (found : path.parent? = some parent)
    : parent.isAbsolute = path.isAbsolute
      ∧ ∃ core cut idle, path.steps = core ++ cut ∧ parent.steps = core ++ idle ∧ AllIdle idle := by
  rcases parent?_shape found with ⟨rfl, some⟩ | ⟨rfl, none, long⟩ | ⟨⟨cut, split, more⟩, same, some, -⟩
  · have relative : path.isAbsolute = false := by simp [isAbsolute, some]
    exact ⟨relative.symm, [], path.steps, [""], rfl, rfl, by simp [AllIdle, isIdle]⟩
  · have absolute : path.isAbsolute = true := by simp [isAbsolute, none, long]
    exact ⟨absolute.symm, [], path.steps, [""], rfl, rfl, by simp [AllIdle, isIdle]⟩
  · cases none : path.head.isEmpty with
    | true =>
        have none : path.head = "" := String.isEmpty_iff.mp none
        have above : parent.isAbsolute = true := by simp [isAbsolute, same, none, some (same.trans none)]
        have absolute : path.isAbsolute = true := by simp [isAbsolute, none, split, more]
        refine ⟨above.trans absolute.symm, parent.tail, cut, [], ?_, ?_, by simp [AllIdle]⟩
        · rw [steps_of_absolute absolute, split]
        · rw [steps_of_absolute above, List.append_nil]
    | false =>
        have above : parent.isAbsolute = false := by simp [isAbsolute, same, none]
        have relative : path.isAbsolute = false := by simp [isAbsolute, none]
        refine ⟨above.trans relative.symm, parent.segments, cut, [], ?_, ?_, by simp [AllIdle]⟩
        · rw [steps_of_relative relative, segments, segments, split, same, List.cons_append]
        · rw [steps_of_relative above, List.append_nil]

-----------------------------------------------------------------------------------------
-- Paths that may name a target
-----------------------------------------------------------------------------------------

theorem firstFault_eq_none {path : Path} {components : List PathComponent}
    (sound : firstFault path components = none)
    : .up ∉ components ∧ .root ∉ components := by
  fun_induction firstFault path components with
  | case1 => simp
  | case2 | case3 => simp at sound
  | case4 component rest notUp notRoot ih =>
      obtain ⟨up, root⟩ := ih sound
      simp only [List.mem_cons, not_or]
      exact ⟨⟨fun same => notUp same.symm, up⟩, fun same => notRoot same.symm, root⟩

/-- A path without a fault is relative and never leads up. -/
theorem fault?_eq_none {path : Path} (sound : path.fault? = none)
    : path.isEmpty = false ∧ path.isAbsolute = false ∧ ".." ∉ path.segments := by
  unfold fault? at sound
  split at sound
  · cases sound
  next some =>
    obtain ⟨up, root⟩ := firstFault_eq_none sound
    have relative : path.isAbsolute = false := by
      cases absolute : path.isAbsolute with
      | false => rfl
      | true =>
          obtain ⟨none, long⟩ : path.head = "" ∧ path.tail ≠ [] := by
            simpa [isAbsolute] using absolute
          exact absurd (by simp [components, headComponents, none, long]) root
    refine ⟨by simpa using some, relative, ?_⟩
    intro found
    refine up (List.mem_append.mpr ?_)
    rcases List.mem_cons.mp found with first | later
    · exact .inl (by simp [headComponents, ← first, component])
    · exact .inr (List.mem_map.mpr
        ⟨"..", List.mem_filter.mpr ⟨later, by decide⟩, by simp [component]⟩)

/-- A path without a fault names a dot, if it starts with one, and then what its names tell. -/
theorem components_of_sound {path : Path} (sound : path.fault? = none)
    : path.components = (if path.head = "." then [.here] else []) ++ path.names.map component := by
  obtain ⟨some, relative, -⟩ := fault?_eq_none sound
  have filled : path.head ≠ "" := by
    intro none
    by_cases short : path.tail = []
    · simp [Path.isEmpty, none, short] at some
    · simp [isAbsolute, none, short] at relative
  by_cases dot : path.head = "."
  · simp [Path.components, headComponents, dot, names, segments, namesOf, isIdle]
  · have counts : isIdle path.head = false := by simp [isIdle, filled, dot]
    simp [Path.components, headComponents, filled, dot, names, segments, namesOf, counts]

/-- Spellings of a path that differ in repeated slashes and in dots, but not in a dot at the start. -/
structure SpellsAlike (path other : Path) : Prop where
  names : path.names = other.names
  dotted : path.head = "." ↔ other.head = "."

/-- Paths that may name targets name the same if they are spelled alike, and only then; by cases on the
dots at their starts.
-/
theorem components_eq_iff {path other : Path} (sound : path.fault? = none)
    (sound' : other.fault? = none)
    : path.components = other.components ↔ path.SpellsAlike other := by
  constructor
  · intro same
    refine ⟨names_congr same, ?_⟩
    have plain (names : List String) (rest : List PathComponent)
        : names.map component ≠ .here :: rest := by
      cases names with
      | nil => simp
      | cons name _ => by_cases up : name = ".." <;> simp [component, up]
    rw [components_of_sound sound, components_of_sound sound'] at same
    by_cases dot : path.head = "." <;> by_cases dot' : other.head = "."
    · simp [dot, dot']
    · rw [if_pos dot, if_neg dot'] at same
      exact absurd same.symm (plain _ _)
    · rw [if_neg dot, if_pos dot'] at same
      exact absurd same (plain _ _)
    · simp [dot, dot']
  · intro alike
    rw [components_of_sound sound, components_of_sound sound', alike.names]
    simp only [alike.dotted]

/-- A path as it is usually written: without dots for segments and without a slash at its end. -/
structure IsNormal (path : Path) : Prop where
  dots : "." ∉ path.segments
  ends : path.segments.getLast? ≠ some ""

/-- A normal path that may name a target ends in a name. -/
theorem IsNormal.last {path : Path} (normal : path.IsNormal) (sound : path.fault? = none)
    : ∃ init name, path.segments = init ++ [name] ∧ IsName name := by
  obtain ⟨-, -, down⟩ := fault?_eq_none sound
  rcases List.eq_nil_or_concat path.segments with none | ⟨init, name, split⟩
  · cases none
  · rw [List.concat_eq_append] at split
    have member : name ∈ path.segments := by simp [split]
    refine ⟨init, name, split, ?_, fun same => down (same ▸ member)⟩
    simp only [isIdle, Bool.or_eq_false_iff, String.isEmpty_eq_false_iff, beq_eq_false_iff_ne]
    exact ⟨fun same => normal.ends (by simp [split, same]), fun same => normal.dots (same ▸ member)⟩

/-- What a normal path names is told by its names. -/
theorem IsNormal.components {path : Path} (normal : path.IsNormal) (sound : path.fault? = none)
    : path.components = path.names.map component := by
  have dot : path.head ≠ "." := fun same => normal.dots (same ▸ List.mem_cons_self)
  simpa [dot] using components_of_sound sound

/-- A segment of a normal path is empty or one of its names. -/
theorem IsNormal.mem_names {path : Path} (normal : path.IsNormal) {segment : String}
    (member : segment ∈ path.segments)
    : segment = "" ∨ segment ∈ path.names := by
  by_cases none : segment = ""
  · exact .inl none
  · have dot : segment ≠ "." := fun same => normal.dots (same ▸ member)
    exact .inr (List.mem_filter.mpr ⟨member, by simp [isIdle, none, dot]⟩)

/-- Joining puts the same segments before those of every relative path. -/
theorem segments_join (base : Path)
    : ∃ before, (∀ segment ∈ before, segment ∈ base.segments)
        ∧ ∀ path : Path, path.isAbsolute = false →
            (base.join path).segments = before ++ path.segments := by
  cases empty : base.isEmpty with
  | true => exact ⟨[], by simp, fun path relative => by simp [join, relative, empty]⟩
  | false =>
      let before := if base.tail.getLast? == some "" then base.tail.dropLast else base.tail
      refine ⟨base.head :: before, fun segment member => ?_, fun path relative => ?_⟩
      · rcases List.mem_cons.mp member with rfl | inner
        · exact List.mem_cons_self
        · refine List.mem_cons_of_mem _ ?_
          simp only [before] at inner
          split at inner
          · exact List.dropLast_subset _ inner
          · exact inner
      · simp [join, relative, empty, segments, before]

end Groundwork.Path
