import Groundwork.Proofs.Files.Walk

/-!
Operations on files below a root directory. Each of them is described by the location that its path
leads to: when it succeeds, and which nodes it changes.
-/

namespace Groundwork.Files

open Path

variable {files tree : Files} {root path : Path} {top location : Location}

-----------------------------------------------------------------------------------------
-- Paths that are followed at all
-----------------------------------------------------------------------------------------

/-- Why a path is not followed, whatever the tree holds. -/
def refusal? (path : Path) : Option FileFault :=
  if path.segments.any (fun s => s.toList.any (fun c => c.toNat == 0)) then some .nulInName
  else if path.isEmpty then some .notFound
  else if pathLimit ≤ path.toString.utf8ByteSize then some .nameTooLong
  else none

/-- Where a path is followed from. -/
def start (files : Files) (path : Path) : Location := if path.isAbsolute then [] else files.base

/-- The location of a path, as far as there are directories on the way. -/
def locate (files : Files) (path : Path) : Location := follow (files.start path) path.steps

theorem place_eq (files : Files) (path : Path)
    : files.place path
      = match refusal? path with
        | some fault => .error fault
        | none => files.walk (files.start path) path.steps := by
  simp only [place, refusal?, start, steps, segments]
  repeat' split
  all_goals first | rfl | contradiction | simp_all

theorem place_of_fits (fits : refusal? path = none)
    : files.place path = files.walk (files.start path) path.steps := by
  rw [place_eq, fits]

theorem fits_of_place {place : Place} (leads : files.place path = .ok place)
    : refusal? path = none := by
  rw [place_eq] at leads
  cases refused : refusal? path with
  | none => rfl
  | some fault => simp [refused] at leads

/-- Only the empty path leads nowhere in every tree. -/
theorem isEmpty_of_refusal? (refused : refusal? path = some .notFound) : path.isEmpty = true := by
  unfold refusal? at refused
  split at refused
  · cases refused
  · split at refused
    · assumption
    · split at refused <;> cases refused

/-- A path that leads to a node leads to its location. -/
theorem place_taken {node : FileNode} (leads : files.place path = .ok (.taken location node))
    : location = files.locate path ∧ files.node? location = some node :=
  walk_taken (place_of_fits (fits_of_place leads) ▸ leads)

/-- A file that is read is at the location of its path. -/
theorem file_of_read {content : ByteArray} (read : files.read path = .ok content)
    : ∃ executable, files.node? (files.locate path) = some (.file content executable) := by
  simp only [Files.read, bind, Except.bind] at read
  split at read
  · cases read
  next leads =>
    split at read <;> cases read
    obtain ⟨rfl, found⟩ := place_taken leads
    exact ⟨_, found⟩

theorem isDirectory_iff
    : files.isDirectory path = true ↔ ∃ location, files.place path = .ok (.taken location .directory) := by
  unfold isDirectory
  split
  · next leads => simp [leads]
  · next other => simpa using other

/-- A path that leads to a free place leads to its location, in a directory. -/
theorem place_free {parent : Location} {name : String} {slash : Bool}
    (leads : files.place path = .ok (.free parent name slash))
    : parent ++ [name] = files.locate path
      ∧ files.node? (parent ++ [name]) = none
      ∧ files.node? parent = some .directory := by
  rw [place_of_fits (fits_of_place leads)] at leads
  obtain ⟨before, slashes, split, all, -, walks, missing, plain, -⟩ := walk_free leads
  obtain ⟨rfl, open_⟩ := walk_taken walks
  have idle : AllIdle slashes := by
    intro segment member
    have empty := List.all_eq_true.mp all segment member
    simp [isIdle, empty]
  refine ⟨?_, missing, open_⟩
  rw [locate, split, follow_append, follow_cons, advance_name plain, follow_idle idle]

-----------------------------------------------------------------------------------------
-- Trees below a root
-----------------------------------------------------------------------------------------

/-- The root leads to a directory, and every node below it lies in a directory. -/
structure Grounded (files : Files) (root : Path) (top : Location) : Prop where
  leads : files.place root = .ok (.taken top .directory)
  tree : ∀ place name, top <+: place → (files.node? (place ++ [name])).isSome
    → files.node? place = some .directory

/-- A tree that has the directories of another, and the same base. -/
structure Keeps (before after : Files) : Prop where
  base : after.base = before.base
  directories : ∀ place, before.node? place = some .directory → after.node? place = some .directory

theorem Keeps.refl (files : Files) : Keeps files files := ⟨rfl, fun _ => id⟩

theorem Keeps.trans {middle : Files} (first : Keeps files middle) (second : Keeps middle tree)
    : Keeps files tree :=
  ⟨second.base.trans first.base, fun place open_ => second.directories place (first.directories place open_)⟩

theorem Keeps.start (kept : Keeps files tree) (path : Path) : tree.start path = files.start path := by
  simp [Files.start, kept.base]

theorem Keeps.locate (kept : Keeps files tree) (path : Path)
    : tree.locate path = files.locate path := by
  simp [Files.locate, kept.start]

theorem Grounded.open_ (ground : files.Grounded root top) : files.node? top = some .directory :=
  (place_taken ground.leads).2

theorem Grounded.fits (ground : files.Grounded root top) : refusal? root = none :=
  fits_of_place ground.leads

theorem Grounded.walks (ground : files.Grounded root top)
    : files.walk (files.start root) root.steps = .ok (.taken top .directory) :=
  place_of_fits ground.fits ▸ ground.leads

/-- Keeping the directories keeps where the root leads. -/
theorem Grounded.leads_of_keeps (ground : files.Grounded root top) (kept : Keeps files tree)
    : tree.place root = .ok (.taken top .directory) := by
  rw [place_of_fits ground.fits, kept.start]
  exact walk_mono ground.walks kept.directories

/-- Whatever lies above a node below the root is a directory; by induction on the names between. -/
theorem Grounded.above (ground : files.Grounded root top) {place : Location} (below : top <+: place)
    (more : Location) (some : more ≠ []) (found : (files.node? (place ++ more)).isSome)
    : files.node? place = .some .directory := by
  induction more generalizing place with
  | nil => exact absurd rfl some
  | cons name rest ih =>
      refine ground.tree place name below ?_
      cases rest with
      | nil => exact found
      | cons next later =>
          rw [List.append_cons] at found
          simp [ih (below.trans (List.prefix_append ..)) (by simp) found]

/-- A path under a directory is followed from there. -/
theorem place_under {more : List String} (leads : files.place root = .ok (.taken top .directory))
    (under : path.Under root more) (fits : refusal? path = none)
    : files.place path = files.walk top more := by
  obtain ⟨same, core, idle, split, ends, steps⟩ := under
  rw [place_of_fits (fits_of_place leads), split] at leads
  rw [place_of_fits fits, steps, Files.start, same]
  exact walk_append (walk_trim ends leads) more

/-- The location of a path under another is the location of that one with the names after it. -/
theorem locate_under {more : List String} (files : Files) (under : path.Under root more)
    (down : ".." ∉ more)
    : files.locate path = files.locate root ++ namesOf more := by
  obtain ⟨same, core, idle, split, ends, steps⟩ := under
  rw [Files.locate, Files.locate, steps, split, follow_append, follow_append, follow_idle ends,
    follow_names down, Files.start, same]
  rfl

/-- A path under the root is followed from the root's directory. -/
theorem Grounded.place_under (ground : files.Grounded root top) {more : List String}
    (under : path.Under root more) (fits : refusal? path = none)
    : files.place path = files.walk top more :=
  Files.place_under ground.leads under fits

theorem Grounded.locate_under (ground : files.Grounded root top) {more : List String}
    (under : path.Under root more) (down : ".." ∉ more)
    : files.locate path = top ++ namesOf more := by
  rw [Files.locate_under files under down, ← (place_taken ground.leads).1]

-----------------------------------------------------------------------------------------
-- Paths that can hold a file
-----------------------------------------------------------------------------------------

/-- A path under the root leads to a place in a directory, which may hold a file. -/
structure Reaches (files : Files) (root : Path) (top : Location) (path : Path) (location : Location)
    : Prop where
  fits : refusal? path = none
  walks : ∃ more, path.Under root more ∧ ".." ∉ more ∧ files.WalksTo top more location

/-- What is found at a path that can hold a file. -/
theorem Reaches.place (reach : files.Reaches root top path location)
    (ground : files.Grounded root top)
    : match files.node? location with
      | some node => files.place path = .ok (.taken location node)
      | none =>
          ∃ parent name,
            location = parent ++ [name] ∧ files.place path = .ok (.free parent name false) := by
  obtain ⟨more, under, -, walks⟩ := reach.walks
  rw [ground.place_under under reach.fits]
  exact walks.walk

theorem Reaches.mono (reach : files.Reaches root top path location) (kept : Keeps files tree)
    : tree.Reaches root top path location :=
  ⟨reach.fits, reach.walks.imp fun _ ⟨under, down, walks⟩ =>
    ⟨under, down, walks.mono kept.directories⟩⟩

/-- The location of a path that can hold a file, in a directory below the root. -/
theorem Reaches.parent (reach : files.Reaches root top path location)
    : ∃ parent name, location = parent ++ [name] ∧ files.node? parent = some .directory := by
  obtain ⟨more, -, -, before, parent, name, -, walks, rfl, -⟩ := reach.walks
  exact ⟨parent, name, rfl, (walk_taken walks).2⟩

theorem Reaches.missing (reach : files.Reaches root top path location)
    (ground : files.Grounded root top) (none : files.node? location = none)
    : ∃ parent name,
        location = parent ++ [name] ∧ files.place path = .ok (.free parent name false) := by
  simpa [none] using reach.place ground

theorem Reaches.found (reach : files.Reaches root top path location)
    (ground : files.Grounded root top) {node : FileNode} (some : files.node? location = some node)
    : files.place path = .ok (.taken location node) := by
  simpa [some] using reach.place ground

/-- A path under the root that leads to a file can hold one, and so can one that leads to a free
place without a slash after it.
-/
theorem Grounded.reaches (ground : files.Grounded root top) {more : List String} {place : Place}
    (under : path.Under root more) (down : ".." ∉ more) (leads : files.place path = .ok place)
    (holds : (∃ content executable, place = .taken location (.file content executable))
      ∨ ∃ parent name, location = parent ++ [name] ∧ place = .free parent name false)
    : files.Reaches root top path location := by
  have fits := fits_of_place leads
  rw [ground.place_under under fits] at leads
  refine ⟨fits, more, under, down, ?_⟩
  rcases holds with ⟨content, executable, rfl⟩ | ⟨parent, name, rfl, rfl⟩
  · exact walksTo_of_file down ground.open_ leads
  · obtain ⟨before, slashes, rfl, all, slash, walks, missing, plain, short⟩ := walk_free leads
    obtain rfl : slashes = [] := by simpa using slash
    exact ⟨before, parent, name, rfl, walks, rfl, plain, short⟩

-----------------------------------------------------------------------------------------
-- Trees that are the same below a root
-----------------------------------------------------------------------------------------

/-- A tree that is the same as another at the root and below it, which relative paths start from the
same base in.
-/
structure SameBelow (root : Path) (top : Location) (before after : Files) : Prop where
  base : after.base = before.base
  leads : after.place root = before.place root
  node : ∀ place, top <+: place → after.node? place = before.node? place

namespace SameBelow

variable {middle : Files}

theorem refl (files : Files) : SameBelow root top files files := ⟨rfl, rfl, fun _ _ => rfl⟩

theorem symm (same : SameBelow root top files tree) : SameBelow root top tree files :=
  ⟨same.base.symm, same.leads.symm, fun place below => (same.node place below).symm⟩

theorem trans (first : SameBelow root top files middle) (second : SameBelow root top middle tree)
    : SameBelow root top files tree :=
  ⟨second.base.trans first.base, second.leads.trans first.leads,
    fun place below => (second.node place below).trans (first.node place below)⟩

theorem grounded (same : SameBelow root top files tree) (ground : files.Grounded root top)
    : tree.Grounded root top := by
  refine ⟨same.leads.trans ground.leads, fun place name below found => ?_⟩
  rw [same.node _ (below.trans (List.prefix_append ..))] at found
  rw [same.node place below, ground.tree place name below found]

theorem reaches (same : SameBelow root top files tree)
    (reach : files.Reaches root top path location)
    : tree.Reaches root top path location := by
  obtain ⟨more, under, down, before, parent, name, split, walks, rest⟩ := reach.walks
  refine ⟨reach.fits, more, under, down, before, parent, name, split, ?_, rest⟩
  rw [walk_congr same.node (fun found => down (split ▸ List.mem_append_left _ found)), walks]

/-- Paths that never lead up from the root lead to the same places. -/
theorem place (same : SameBelow root top files tree) (ground : files.Grounded root top)
    {more : List String} (under : path.Under root more) (down : ".." ∉ more)
    : tree.place path = files.place path := by
  cases refused : refusal? path with
  | some fault => simp [place_eq, refused]
  | none =>
      rw [ground.place_under under refused, (same.grounded ground).place_under under refused,
        walk_congr same.node down]

end SameBelow

-----------------------------------------------------------------------------------------
-- Nodes that are set and dropped
-----------------------------------------------------------------------------------------

/-- A location at which an operation puts a file: no directory is there, and if nothing is, the
location is free in a directory.
-/
structure Admits (files : Files) (location : Location) : Prop where
  free : files.node? location ≠ some .directory
  within : files.node? location = none →
    ∃ parent name, location = parent ++ [name] ∧ files.node? parent = some .directory

/-- The top is no location for a file, being a directory. -/
theorem ne_nil_of_free (free : files.node? location ≠ some .directory) : location ≠ [] := by
  rintro rfl
  exact free rfl

/-- Where no directory is, setting a node keeps the directories. -/
theorem keeps_setNode (free : files.node? location ≠ some .directory) (node : FileNode)
    : Keeps files (files.setNode location node) := by
  refine ⟨rfl, fun place open_ => ?_⟩
  have other : place ≠ location := by
    rintro rfl
    exact free open_
  rw [node?_setNode (ne_nil_of_free free), if_neg other, open_]

theorem keeps_dropNode (free : files.node? location ≠ some .directory)
    : Keeps files (files.dropNode location) := by
  refine ⟨rfl, fun place open_ => ?_⟩
  have other : place ≠ location := by
    rintro rfl
    exact free open_
  rw [node?_dropNode (ne_nil_of_free free), if_neg other, open_]

/-- A location that can take a file: no directory is there, and below the root it lies in one. -/
structure Takes (files : Files) (top location : Location) : Prop where
  free : files.node? location ≠ some .directory
  within : ∃ parent name,
    location = parent ++ [name] ∧ (top <+: parent → files.node? parent = some .directory)

theorem Takes.ne_nil (takes : files.Takes top location) : location ≠ [] := by
  obtain ⟨parent, name, rfl, -⟩ := takes.within
  simp

theorem Grounded.takes_of_file (ground : files.Grounded root top) {content : ByteArray}
    {executable : Bool} (found : files.node? location = some (.file content executable))
    : files.Takes top location := by
  refine ⟨by simp [found], ?_⟩
  rcases List.eq_nil_or_concat location with rfl | ⟨parent, name, rfl⟩
  · cases found
  · rw [List.concat_eq_append] at found ⊢
    exact ⟨parent, name, rfl, fun below => ground.tree parent name below (by simp [found])⟩

theorem Reaches.takes (reach : files.Reaches root top path location)
    (free : files.node? location ≠ some .directory)
    : files.Takes top location := by
  obtain ⟨parent, name, rfl, open_⟩ := reach.parent
  exact ⟨free, parent, name, rfl, fun _ => open_⟩

theorem Takes.keeps_setNode (takes : files.Takes top location) (node : FileNode)
    : Keeps files (files.setNode location node) :=
  Files.keeps_setNode takes.free node

theorem Takes.keeps_dropNode (takes : files.Takes top location)
    : Keeps files (files.dropNode location) :=
  Files.keeps_dropNode takes.free

/-- Below a root, a location at which a file is put takes one. -/
theorem Grounded.takes (ground : files.Grounded root top) (admits : files.Admits location)
    : files.Takes top location := by
  cases found : files.node? location with
  | none =>
      obtain ⟨parent, name, split, open_⟩ := admits.within found
      exact ⟨admits.free, parent, name, split, fun _ => open_⟩
  | some node =>
      cases node with
      | file content executable => exact ground.takes_of_file found
      | directory => exact absurd found admits.free

/-- A location still takes a file after another file was dropped. -/
theorem Takes.dropNode {other : Location} (takes : files.Takes top location)
    (dropped : files.Takes top other)
    : (files.dropNode other).Takes top location := by
  obtain ⟨parent, name, split, within⟩ := takes.within
  refine ⟨fun found => takes.free ?_, parent, name, split, fun below =>
    dropped.keeps_dropNode.directories _ (within below)⟩
  rw [node?_dropNode dropped.ne_nil] at found
  split at found
  · cases found
  · exact found

theorem Grounded.setNode (ground : files.Grounded root top) (takes : files.Takes top location)
    (node : FileNode)
    : (files.setNode location node).Grounded root top := by
  have kept := takes.keeps_setNode node
  refine ⟨ground.leads_of_keeps kept, fun place segment below found => kept.directories _ ?_⟩
  rw [node?_setNode takes.ne_nil] at found
  split at found
  · next same =>
      obtain ⟨parent, name, split, within⟩ := takes.within
      obtain ⟨rfl, -⟩ := List.append_inj' (same.trans split) rfl
      exact within below
  · exact ground.tree place segment below found

theorem Grounded.dropNode (ground : files.Grounded root top) (takes : files.Takes top location)
    : (files.dropNode location).Grounded root top := by
  have kept := takes.keeps_dropNode
  refine ⟨ground.leads_of_keeps kept, fun place segment below found => kept.directories _ ?_⟩
  rw [node?_dropNode takes.ne_nil] at found
  split at found
  · cases found
  · exact ground.tree place segment below found

/-- The empty tree lies below its top. -/
theorem grounded_empty : Files.empty.Grounded ⟨"", [""]⟩ [] :=
  ⟨rfl, fun place name _ found => by simp [node?, Files.empty, Dictionary.get?] at found⟩

-----------------------------------------------------------------------------------------
-- Single operations
-----------------------------------------------------------------------------------------

/-- Whether the file at a location can be run as a program; one that is not there cannot. -/
def executable (files : Files) (location : Location) : Bool :=
  match files.node? location with
  | some (.file _ executable) => executable
  | _ => false

/-- A file is written at the location of its path, and can be run as a program if it could before;
by cases on whether it was there.
-/
theorem admits_of_write {content : ByteArray} {after : Files}
    (wrote : files.write path content = .ok after)
    : files.Admits (files.locate path)
      ∧ after = files.setNode (files.locate path)
          (.file content (files.executable (files.locate path))) := by
  simp only [Files.write, bind, Except.bind] at wrote
  split at wrote
  · cases wrote
  next place leads =>
    split at wrote
    · obtain ⟨rfl, found⟩ := place_taken leads
      cases wrote
      exact ⟨⟨by simp [found], by simp [found]⟩, by simp [Files.executable, found]⟩
    · cases wrote
    · obtain ⟨same, missing, open_⟩ := place_free leads
      split at wrote
      · cases wrote
      · cases wrote
        rw [← same]
        exact ⟨⟨by simp [missing], fun _ => ⟨_, _, rfl, open_⟩⟩, by simp [Files.executable, missing]⟩

theorem Grounded.write (ground : files.Grounded root top) {content : ByteArray} {after : Files}
    (wrote : files.write path content = .ok after)
    : files.Takes top (files.locate path)
      ∧ after = files.setNode (files.locate path)
          (.file content (files.executable (files.locate path))) :=
  (admits_of_write wrote).imp_left ground.takes

/-- A file is removed from the location of its path. -/
theorem dropNode_of_removeFile {after : Files} (removed : files.removeFile path = .ok after)
    : files.node? (files.locate path) ≠ some .directory
      ∧ after = files.dropNode (files.locate path) := by
  simp only [Files.removeFile, bind, Except.bind] at removed
  split at removed
  · cases removed
  next place leads =>
    split at removed
    · obtain ⟨rfl, found⟩ := place_taken leads
      cases removed
      exact ⟨by simp [found], rfl⟩
    · cases removed
    · cases removed

/-- A path that can hold a file can be written if no directory is there. -/
theorem Reaches.write (reach : files.Reaches root top path location)
    (ground : files.Grounded root top) (free : files.node? location ≠ some .directory)
    (content : ByteArray)
    : files.write path content
      = .ok (files.setNode location (.file content (files.executable location))) := by
  cases found : files.node? location with
  | none =>
      obtain ⟨parent, name, rfl, leads⟩ := reach.missing ground found
      simp [Files.write, bind, Except.bind, leads, Files.executable, found]
  | some node =>
      have leads := reach.found ground found
      cases node with
      | file old executable => simp [Files.write, bind, Except.bind, leads, Files.executable, found]
      | directory => exact absurd found free

/-- A path that can hold a file can be removed if one is there. -/
theorem Reaches.removeFile (reach : files.Reaches root top path location)
    (ground : files.Grounded root top) (free : files.node? location ≠ some .directory)
    : files.removeFile path
      = if (files.node? location).isSome then .ok (files.dropNode location) else .error .notFound
    := by
  cases found : files.node? location with
  | none =>
      obtain ⟨parent, name, rfl, leads⟩ := reach.missing ground found
      simp [Files.removeFile, bind, Except.bind, leads]
  | some node =>
      have leads := reach.found ground found
      cases node with
      | file content executable => simp [Files.removeFile, bind, Except.bind, leads]
      | directory => exact absurd found free

/-- A file is moved to the location of the target, as it is; by cases on whether a file was there. -/
theorem admits_of_rename {source target : Path} {after : Files}
    (moved : files.rename source target = .ok after)
    : ∃ content executable,
        files.node? (files.locate source) = some (.file content executable)
        ∧ files.Admits (files.locate target)
        ∧ after = (files.dropNode (files.locate source)).setNode (files.locate target)
            (.file content executable) := by
  simp only [Files.rename, bind, Except.bind] at moved
  split at moved
  · cases moved
  next origin leads =>
    split at moved
    · next location content executable =>
        obtain ⟨rfl, found⟩ := place_taken leads
        refine ⟨content, executable, found, ?_⟩
        split at moved
        · cases moved
        next place leads =>
          split at moved
          · obtain ⟨rfl, there⟩ := place_taken leads
            cases moved
            exact ⟨⟨by simp [there], by simp [there]⟩, rfl⟩
          · split at moved <;> cases moved
          · obtain ⟨same, missing, open_⟩ := place_free leads
            split at moved
            · cases moved
            · cases moved
              rw [← same]
              exact ⟨⟨by simp [missing], fun _ => ⟨_, _, rfl, open_⟩⟩, rfl⟩
    · cases moved
    · cases moved

/-- Moving a file keeps all directories, and changes nothing but where it was and where it is then. -/
theorem keeps_of_rename {source target : Path} {after : Files}
    (moved : files.rename source target = .ok after)
    : Keeps files after
      ∧ ∀ place, after.node? place
        = if place = files.locate target then files.node? (files.locate source)
          else if place = files.locate source then none
          else files.node? place := by
  obtain ⟨content, executable, origin, admits, rfl⟩ := admits_of_rename moved
  have held : files.node? (files.locate source) ≠ some .directory := by simp [origin]
  have free : (files.dropNode (files.locate source)).node? (files.locate target)
      ≠ some .directory := by
    rw [node?_dropNode (ne_nil_of_free held)]
    split
    · simp
    · exact admits.free
  refine ⟨(keeps_dropNode held).trans (keeps_setNode free _), fun place => ?_⟩
  rw [node?_setNode (ne_nil_of_free free), node?_dropNode (ne_nil_of_free held), origin]

/-- What takes a file has a path that leads there. -/
theorem leads_of_rename {source target : Path} {after : Files}
    (moved : files.rename source target = .ok after)
    : ∃ place, files.place target = .ok place := by
  cases leads : files.place target with
  | ok place => exact ⟨place, rfl⟩
  | error fault =>
      simp only [Files.rename, bind, Except.bind, leads] at moved
      split at moved
      · cases moved
      · split at moved <;> cases moved

theorem Grounded.rename (ground : files.Grounded root top) {source target : Path} {after : Files}
    (moved : files.rename source target = .ok after)
    : ∃ content executable,
        files.node? (files.locate source) = some (.file content executable)
        ∧ files.Takes top (files.locate target)
        ∧ after = (files.dropNode (files.locate source)).setNode (files.locate target)
            (.file content executable) := by
  obtain ⟨content, executable, found, admits, set⟩ := admits_of_rename moved
  exact ⟨content, executable, found, ground.takes admits, set⟩

/-- A file can be moved to a path that can hold one if no directory is there. -/
theorem Reaches.rename {source target : Path} {origin : Location} {content : ByteArray}
    {executable : Bool} (reach : files.Reaches root top target location)
    (ground : files.Grounded root top) (free : files.node? location ≠ some .directory)
    (from_ : files.Reaches root top source origin)
    (found : files.node? origin = some (.file content executable))
    : files.rename source target
      = .ok ((files.dropNode origin).setNode location (.file content executable)) := by
  have leads := from_.found ground found
  cases there : files.node? location with
  | none =>
      obtain ⟨parent, name, rfl, place⟩ := reach.missing ground there
      simp [Files.rename, bind, Except.bind, leads, place]
  | some node =>
      have place := reach.found ground there
      cases node with
      | file old was => simp [Files.rename, bind, Except.bind, leads, place]
      | directory => exact absurd there free

/-- A path leads to a file, or to a free place without a slash after it. -/
def CanHold (files : Files) (path : Path) : Prop :=
  (∃ content executable,
    files.place path = .ok (.taken (files.locate path) (.file content executable)))
  ∨ ∃ parent name,
      files.locate path = parent ++ [name] ∧ files.place path = .ok (.free parent name false)

/-- A path that is written can hold a file; by cases on whether it does. -/
theorem canHold_of_write {content : ByteArray} {after : Files}
    (wrote : files.write path content = .ok after) : files.CanHold path := by
  simp only [Files.write, bind, Except.bind] at wrote
  split at wrote
  · cases wrote
  next place leads =>
    split at wrote
    · obtain ⟨rfl, -⟩ := place_taken leads
      exact .inl ⟨_, _, leads⟩
    · cases wrote
    · split at wrote
      · cases wrote
      · next whole =>
          rw [eq_false_of_ne_true whole] at leads
          exact .inr ⟨_, _, (place_free leads).1.symm, leads⟩

/-- A path that a file is moved to can hold a file; by cases on whether it does. -/
theorem canHold_of_rename {source : Path} {after : Files}
    (moved : files.rename source path = .ok after) : files.CanHold path := by
  simp only [Files.rename, bind, Except.bind] at moved
  split at moved
  · cases moved
  next origin from_ =>
    split at moved
    · split at moved
      · cases moved
      next place leads =>
        split at moved
        · obtain ⟨rfl, -⟩ := place_taken leads
          exact .inl ⟨_, _, leads⟩
        · split at moved <;> cases moved
        · split at moved
          · cases moved
          · next whole =>
              rw [eq_false_of_ne_true whole] at leads
              exact .inr ⟨_, _, (place_free leads).1.symm, leads⟩
    · cases moved
    · cases moved

/-- A path under the root that can hold a file leads to a place in a directory. -/
theorem Grounded.reaches_of_canHold (ground : files.Grounded root top) {more : List String}
    (under : path.Under root more) (down : ".." ∉ more) (holds : files.CanHold path)
    : files.Reaches root top path (files.locate path) := by
  obtain ⟨content, executable, leads⟩ | ⟨parent, name, same, leads⟩ := holds
  · exact ground.reaches under down leads (.inl ⟨_, _, rfl⟩)
  · exact ground.reaches under down leads (.inr ⟨_, _, same, rfl⟩)

/-- A path that can hold a file leads to its location in every tree that has the same directories and
perhaps more, if something is there.
-/
theorem CanHold.place (holds : files.CanHold path) (kept : Keeps files tree) {node : FileNode}
    (there : tree.node? (files.locate path) = some node)
    : tree.place path = .ok (.taken (files.locate path) node) := by
  obtain ⟨content, executable, leads⟩ | ⟨parent, name, same, leads⟩ := holds
  · have fits := fits_of_place leads
    rw [place_of_fits fits] at leads ⊢
    rw [kept.start]
    exact walk_of_found leads kept.directories there
  · have fits := fits_of_place leads
    rw [place_of_fits fits] at leads ⊢
    obtain ⟨before, slashes, split, -, slash, walks, -, plain, short⟩ := walk_free leads
    obtain rfl : slashes = [] := by simpa using slash
    have walksTo : files.WalksTo (files.start path) path.steps (files.locate path) :=
      ⟨before, parent, name, split, walks, same, plain, short⟩
    have walked := (walksTo.mono kept.directories).walk
    rw [there] at walked
    rw [kept.start]
    exact walked

end Groundwork.Files
