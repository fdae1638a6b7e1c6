import Groundwork.Proofs.Files.Calls
import Groundwork.Proofs.Text.Lines

/-!
What a path leads to, and actions that leave it alone. Such an action keeps all directories and what
is at the location of the path, so that the path still leads there. Where directories stay directories
and files stay files, a path that led somewhere, or was stopped by a file, does so still.
-/

namespace Groundwork

open Files Path

variable {α β : Type} {files after : Files} {root path : Path} {base location : Location}

-----------------------------------------------------------------------------------------
-- What a path leads to
-----------------------------------------------------------------------------------------

namespace Files

/-- What a path leads to, if it leads to something. -/
def found? (files : Files) (path : Path) : Option FileNode :=
  match files.place path with
  | .ok (.taken _ node) => some node
  | _ => none

theorem found?_eq_some {node : FileNode}
    : files.found? path = some node ↔ files.place path = .ok (.taken (files.locate path) node) := by
  unfold found?
  constructor
  · intro found
    split at found
    · next leads =>
        cases found
        rw [leads, (place_taken leads).1]
    · cases found
  · intro leads
    rw [leads]

theorem exists?_eq (files : Files) (path : Path)
    : files.exists? path = (files.found? path).isSome := by
  unfold exists? found?
  split <;> simp_all

/-- What a path leads to decides what is read there. -/
theorem read_of_found? {tree : Files} {node : FileNode} (found : files.found? path = some node)
    (same : tree.found? path = some node)
    : tree.read path = files.read path := by
  simp only [read, found?_eq_some.mp found, found?_eq_some.mp same, bind, Except.bind]
  cases node <;> rfl

/-- A text that a file holds is read from it. -/
theorem readText_of_found? {text : String} {executable : Bool}
    (found : files.found? path = some (.file text.toUTF8 executable))
    : files.readText path = .ok text := by
  have leads := found?_eq_some.mp found
  simp only [readText, read, leads, bind, Except.bind, Text.fromUTF8?_toUTF8]

/-- A path leads to what is at its location. -/
def Shows (files : Files) (path : Path) : Prop := files.found? path = files.node? (files.locate path)

/-- A path to whose location nothing is leads to nothing. -/
theorem shows_of_none (none : files.node? (files.locate path) = none) : files.Shows path := by
  unfold Shows
  cases found : files.found? path with
  | none => exact none.symm
  | some node => exact (place_taken (found?_eq_some.mp found)).2.symm

/-- A path that ends with a name still leads to its location in a tree that has the same directories
and perhaps more, if something is there.
-/
theorem found?_of_keeps {init : List String} {name : String} (ends : path.steps = init ++ [name])
    (plain : IsName name) {place : Place} (leads : files.place path = .ok place)
    (kept : Keeps files after) {node : FileNode}
    (there : after.node? (files.locate path) = some node)
    : after.found? path = some node := by
  have fits := fits_of_place leads
  rw [place_of_fits fits, ends] at leads
  have walks := (walksTo_of_name plain leads).mono kept.directories
  rw [← ends] at walks
  have walked := walks.walk
  rw [← locate, there] at walked
  refine found?_eq_some.mpr ?_
  rw [place_of_fits fits, kept.start, kept.locate]
  exact walked

/-- A tree in which a path leads to the same as in another, with the same at its location. -/
structure Spares (path : Path) (before after : Files) : Prop where
  base : after.base = before.base
  found : after.found? path = before.found? path
  node : after.node? (before.locate path) = before.node? (before.locate path)

theorem Spares.refl (path : Path) (files : Files) : Spares path files files := ⟨rfl, rfl, rfl⟩

theorem Spares.locate (spares : Spares path files after)
    : after.locate path = files.locate path := by
  simp [Files.locate, Files.start, spares.base]

theorem Spares.trans {last : Files} (first : Spares path files after)
    (second : Spares path after last)
    : Spares path files last := by
  refine ⟨second.base.trans first.base, second.found.trans first.found, ?_⟩
  have node := second.node
  rw [first.locate] at node
  exact node.trans first.node

theorem Spares.shows (spares : Spares path files after) (shows_ : files.Shows path)
    : after.Shows path := by
  unfold Shows
  rw [spares.found, spares.locate, spares.node]
  exact shows_

/-- A path that ends with a name is spared where the directories are kept and what is at its location.
-/
theorem Shows.spares {init : List String} {name : String} (shows_ : files.Shows path)
    (ends : path.steps = init ++ [name]) (plain : IsName name) (kept : Keeps files after)
    (same : after.node? (files.locate path) = files.node? (files.locate path))
    : Spares path files after := by
  refine ⟨kept.base, ?_, same⟩
  cases there : files.node? (files.locate path) with
  | none =>
      rw [there] at same
      have after_ := shows_of_none (kept.locate path ▸ same)
      rw [Shows, kept.locate, same] at after_
      rw [after_, shows_, there]
  | some node =>
      have found := shows_.trans there
      rw [found]
      exact found?_of_keeps ends plain (found?_eq_some.mp found) kept (same.trans there)

-----------------------------------------------------------------------------------------
-- Paths that stay away from a location
-----------------------------------------------------------------------------------------

/-- A path passes a location by, in every tree that relative paths start from some base of. -/
def Avoids (base location : Location) (path : Path) : Prop :=
  ∀ files : Files, files.base = base → ¬ files.OnWay path location

/-- A path does not lead to a location, in every tree that relative paths start from some base of. -/
def Misses (base location : Location) (path : Path) : Prop :=
  ∀ files : Files, files.base = base → files.locate path ≠ location

theorem Avoids.misses (avoids : Avoids base location path) : Misses base location path := by
  intro files start same
  exact avoids files start (same ▸ .locate files path)

theorem Avoids.parent? {parent : Path} (avoids : Avoids base location path)
    (found : path.parent? = some parent)
    : Avoids base location parent :=
  fun files start way => avoids files start (way.of_parent? found)

end Files

-----------------------------------------------------------------------------------------
-- Actions that leave a location alone
-----------------------------------------------------------------------------------------

namespace FileAction

/-- An action that keeps all directories and what is at a location. -/
def Spares (base location : Location) (action : FileAction α) : Prop :=
  ∀ files : Files, files.base = base →
    Keeps files (action.run.run files).2
    ∧ (action.run.run files).2.node? location = files.node? location

namespace Spares

theorem pure (value : α) : Spares base location (Pure.pure value) :=
  fun files _ => ⟨.refl files, rfl⟩

theorem get : Spares base location (getThe Files : FileAction Files) :=
  fun files _ => ⟨.refl files, rfl⟩

/-- A sequence leaves a location alone if its actions do, the second for every value that the first
may give.
-/
theorem bind {action : FileAction α} {next : α → FileAction β} (first : Spares base location action)
    (second : ∀ value files after, action.run.run files = (.ok value, after) →
      Spares base location (next value))
    : Spares base location (action >>= next) := by
  intro files start
  obtain ⟨kept, same⟩ := first files start
  rw [run_bind]
  rcases ran : action.run.run files with ⟨failure | value, middle⟩
  · rw [ran] at kept same
    exact ⟨kept, same⟩
  · rw [ran] at kept same
    obtain ⟨later, same'⟩ := second value files middle ran middle (kept.base.trans start)
    exact ⟨kept.trans later, same'.trans same⟩

theorem attempt {call : FileCall} (misses : ∀ path ∈ call.paths, Misses base location path)
    : Spares base location (FileAction.attempt call) := by
  intro files start
  rw [run_attempt]
  cases performed : call.perform files with
  | error fault => exact ⟨.refl files, rfl⟩
  | ok after =>
      obtain ⟨kept, same⟩ := FileCall.frame performed
      exact ⟨kept, same location fun path member => misses path member files start⟩

theorem change (context : String) {call : FileCall}
    (misses : ∀ path ∈ call.paths, Misses base location path)
    : Spares base location (FileAction.change context call.perform) := by
  rw [change_eq]
  refine .bind (.attempt misses) fun answer _ _ _ => ?_
  cases answer with
  | ok => exact .pure ()
  | error fault => exact fun files _ => ⟨.refl files, rfl⟩

theorem makeDirectories (avoids : Avoids base location path)
    : Spares base location (FileAction.makeDirectories path) := by
  intro files start
  rw [run_makeDirectories]
  have grows := makeDirectories_grows files path
  refine ⟨grows.keeps, ?_⟩
  rcases grows.node location with same | ⟨-, -, way⟩
  · exact same
  · exact absurd way (avoids files start)

end Spares

/-- An action leaves a location alone if its calls are about other paths, and the directories that it
makes are reached on other ways; by induction on what it is put together of.
-/
theorem MadeOf.spares {action : FileAction α}
    (made : MadeOf (fun call => ∀ path ∈ call.paths, Misses base location path)
      (Avoids base location) action)
    : Spares base location action := by
  induction made with
  | pure value => exact .pure value
  | throw failure => exact fun files _ => ⟨.refl files, rfl⟩
  | attempt misses => exact .attempt misses
  | makeDirectories avoids => exact .makeDirectories avoids
  | bind first second ih ih' => exact .bind ih ih'
  | @tryCatch α action handler first second ih ih' =>
      intro files start
      obtain ⟨kept, same⟩ := ih files start
      rw [run_tryCatch]
      rcases ran : action.run.run files with ⟨failure | value, middle⟩ <;> rw [ran] at kept same
      · obtain ⟨later, same'⟩ := ih' failure middle (kept.base.trans start)
        exact ⟨kept.trans later, same'.trans same⟩
      · exact ⟨kept, same⟩

end FileAction

-----------------------------------------------------------------------------------------
-- Trees that change around a path
-----------------------------------------------------------------------------------------

namespace Files

variable {middle : Files} {start : Location}

/-- A tree in which directories are still directories, and files are still files, perhaps others. -/
structure Lasts (before after : Files) : Prop where
  keeps : Keeps before after
  files : ∀ place content executable, before.node? place = some (.file content executable) →
    ∃ content' executable', after.node? place = some (.file content' executable')

theorem Lasts.refl (files : Files) : Lasts files files :=
  ⟨.refl files, fun _ content executable found => ⟨content, executable, found⟩⟩

theorem Lasts.trans (first : Lasts files middle) (second : Lasts middle after)
    : Lasts files after := by
  refine ⟨first.keeps.trans second.keeps, fun place content executable found => ?_⟩
  obtain ⟨content', executable', still⟩ := first.files place content executable found
  exact second.files place content' executable' still

theorem Grows.lasts {made : Location → Prop} (grows : Grows files after made)
    : Lasts files after := by
  refine ⟨grows.keeps, fun place content executable found => ?_⟩
  obtain same | ⟨missing, -⟩ := grows.node place
  · exact ⟨content, executable, same.trans found⟩
  · exact absurd (found.symm.trans missing) (by simp)

/-- Putting a file where no directory is keeps all others. -/
theorem lasts_setNode (free : files.node? location ≠ some .directory) (content : ByteArray)
    (executable : Bool) : Lasts files (files.setNode location (.file content executable)) := by
  refine ⟨keeps_setNode free _, fun place content' executable' found => ?_⟩
  rw [node?_setNode (ne_nil_of_free free)]
  split
  · exact ⟨content, executable, rfl⟩
  · exact ⟨content', executable', found⟩

/-- A walk that is stopped, other than by a missing node, is stopped still; by induction on its
segments.
-/
theorem Lasts.walk_error (lasts : Lasts files after) {segments : List String} {fault : FileFault}
    (failed : files.walk start segments = .error fault) (other : fault ≠ .notFound)
    : after.walk start segments = .error fault := by
  induction segments generalizing start with
  | nil =>
      rw [walk] at failed
      split at failed
      · cases failed
      · cases failed
        exact absurd rfl other
  | cons segment rest ih =>
      rw [walk] at failed
      split at failed
      · cases failed
        exact absurd rfl other
      · next content executable found =>
          cases failed
          obtain ⟨content', executable', still⟩ := lasts.files _ _ _ found
          rw [walk, still]
      · next open_ =>
          rw [walk, lasts.keeps.directories _ open_]
          split at failed
          · next idle => simpa [idle] using ih failed
          · next counts =>
              split at failed
              · next up => simpa [counts, up] using ih failed
              · next plain =>
                  split at failed
                  · next long =>
                      cases failed
                      simp [counts, plain, long]
                  · next short =>
                      split at failed
                      · next found =>
                          have still : (after.node? (start ++ [segment])).isSome := by
                            obtain ⟨node, found⟩ := Option.isSome_iff_exists.mp found
                            cases node with
                            | directory => rw [lasts.keeps.directories _ found]; rfl
                            | file content executable =>
                                obtain ⟨_, _, still⟩ := lasts.files _ _ _ found
                                rw [still]
                                rfl
                          simpa [counts, plain, short, still] using ih failed
                      · split at failed
                        · cases failed
                        · cases failed
                          exact absurd rfl other

/-- What was read at a path, or why nothing could be, is the same as long as a node at its location
stays the same; by cases on where the path led.
-/
theorem Lasts.read (lasts : Lasts files after) (there : files.read path ≠ .error .notFound)
    (same : ∀ node, files.node? (files.locate path) = some node →
      after.node? (files.locate path) = some node)
    : after.read path = files.read path := by
  have walked : after.place path = files.place path := by
    cases refused : refusal? path with
    | some fault => rw [place_eq, place_eq, refused]
    | none =>
        cases leads : files.place path with
        | error fault =>
            have other : fault ≠ .notFound := by
              rintro rfl
              simp [Files.read, leads, bind, Except.bind] at there
            rw [place_of_fits refused] at leads ⊢
            rw [lasts.keeps.start]
            exact lasts.walk_error leads other
        | ok place =>
            cases place with
            | free => simp [Files.read, leads, bind, Except.bind] at there
            | taken location node =>
                obtain ⟨rfl, found⟩ := place_taken leads
                rw [place_of_fits refused] at leads ⊢
                rw [lasts.keeps.start]
                exact walk_of_found leads lasts.keeps.directories (same _ found)
  simp only [Files.read, walked]

-----------------------------------------------------------------------------------------
-- Files that were written or moved
-----------------------------------------------------------------------------------------

/-- A path that was written leads to what was written there. -/
theorem found?_of_write {content : ByteArray} (wrote : files.write path content = .ok after)
    : after.found? path = some (.file content (files.executable (files.locate path))) := by
  obtain ⟨admits, rfl⟩ := admits_of_write wrote
  have kept := keeps_setNode admits.free (.file content (files.executable (files.locate path)))
  refine found?_eq_some.mpr ?_
  rw [kept.locate]
  refine (canHold_of_write wrote).place kept ?_
  rw [node?_setNode (ne_nil_of_free admits.free), if_pos rfl]

/-- A path that a file was moved to leads to that file. -/
theorem found?_of_rename {source : Path} (moved : files.rename source path = .ok after)
    : ∃ content executable,
        files.node? (files.locate source) = some (.file content executable)
        ∧ after.found? path = some (.file content executable) := by
  obtain ⟨content, executable, origin, -⟩ := admits_of_rename moved
  obtain ⟨kept, node⟩ := keeps_of_rename moved
  refine ⟨content, executable, origin, found?_eq_some.mpr ?_⟩
  rw [kept.locate]
  refine (canHold_of_rename moved).place kept ?_
  rw [node, if_pos rfl, origin]

/-- A file that a path leads to can be moved to the same path. -/
theorem rename_self {content : ByteArray} {executable : Bool}
    (found : files.found? path = some (.file content executable))
    : ∃ after, files.rename path path = .ok after := by
  simp [Files.rename, found?_eq_some.mp found, bind, Except.bind]

end Files

end Groundwork
