import Groundwork.Proofs.Files.Sparing
import Groundwork.Proofs.RunState.Document
import Groundwork.RunState.Store

/-!
Run states in files: writing one changes the file, the new file beside it and missing directories on
the way, and nothing else. A run state that was written is found by those who look for one of its
pipeline, until something else is written; if it cannot be written, the file stays.
-/

namespace Groundwork.RunState

open Files Path

variable {files after : Files} {root path : Path} {top : Location}

/-- The path of the new file that takes the place of a run state. -/
def temporaryPath (path : Path) : Path := path.withExtension temporaryEnding

/-- A location that writing a run state may change. -/
def Touches (files : Files) (path : Path) (place : Location) : Prop :=
  files.OnWay path place ∨ place = files.locate (temporaryPath path)

/-- How a run state is written: directories, then the new file, then its move. -/
theorem run_write {parent : Path} (state : RunState) (found : path.parent? = some parent)
    : (state.write path).run.run files
      = match files.makeDirectories parent with
        | (middle, .error fault) =>
            (.error (.ofFiles fault s!"create directory {parent}"), middle)
        | (middle, .ok ()) =>
            match middle.write (temporaryPath path) state.document.toUTF8 with
            | .error fault =>
                (.error (.ofFiles fault s!"write temp run state {temporaryPath path}"), middle)
            | .ok written =>
                match written.rename (temporaryPath path) path with
                | .error fault => (.error (.ofFiles fault s!"replace run state {path}"), written)
                | .ok after => (.ok (), after) := by
  rw [write, found]
  simp only [run_bind, FileAction.run_makeDirectories, FileAction.run_change]
  rcases files.makeDirectories parent with ⟨middle, fault | _⟩
  · rfl
  · simp only [mapError_ok, temporaryPath]
    cases middle.write (path.withExtension temporaryEnding) state.document.toUTF8 with
    | error fault => rfl
    | ok written =>
        simp only
        cases written.rename (path.withExtension temporaryEnding) path <;> rfl

/-- The ways in which writing a run state can go: no directory can be told from the path, the
directories cannot be made, the new file cannot be written or moved, or it takes its place.
-/
inductive WriteCourse (state : RunState) (path : Path) (files : Files)
    : Except Failure Unit → Files → Prop
  | parentless {failure : Failure} (none : path.parent? = none)
    : WriteCourse state path files (.error failure) files
  | unwritten {parent : Path} {middle : Files} {failure : Failure}
    (found : path.parent? = some parent) (made : middle = (files.makeDirectories parent).1)
    : WriteCourse state path files (.error failure) middle
  | unmoved {parent : Path} {middle : Files} {failure : Failure}
    (found : path.parent? = some parent) (made : middle = (files.makeDirectories parent).1)
    (admits : middle.Admits (files.locate (temporaryPath path)))
    : WriteCourse state path files (.error failure)
        (middle.setNode (files.locate (temporaryPath path))
          (.file state.document.toUTF8 (files.executable (files.locate (temporaryPath path)))))
  | moved {parent : Path} {middle written after : Files} {place : Place}
    (found : path.parent? = some parent)
    (made : files.makeDirectories parent = (middle, .ok ()))
    (admits : middle.Admits (files.locate (temporaryPath path)))
    (wrote : written = middle.setNode (files.locate (temporaryPath path))
      (.file state.document.toUTF8 (files.executable (files.locate (temporaryPath path)))))
    (leads : written.place path = .ok place)
    (admits' : written.Admits (files.locate path))
    (put : after = (written.dropNode (files.locate (temporaryPath path))).setNode (files.locate path)
      (.file state.document.toUTF8 (files.executable (files.locate (temporaryPath path)))))
    (drafted : Keeps files written) (moves : Keeps written after)
    : WriteCourse state path files (.ok ()) after

/-- Writing a run state goes in one of these ways; by cases on how far it comes. -/
theorem write_course {state : RunState} {result : Except Failure Unit}
    (ran : (state.write path).run.run files = (result, after))
    : WriteCourse state path files result after := by
  cases found : path.parent? with
  | none =>
      rw [write, found] at ran
      cases ran
      exact .parentless found
  | some parent =>
      rw [run_write state found] at ran
      have grows := makeDirectories_grows files parent
      rcases made : files.makeDirectories parent with ⟨middle, fault | _⟩ <;>
        simp only [made] at ran grows
      · cases ran
        exact .unwritten found (by rw [made])
      cases wrote : middle.write (temporaryPath path) state.document.toUTF8 with
      | error fault =>
          simp only [wrote] at ran
          cases ran
          exact .unwritten found (by rw [made])
      | ok written =>
          obtain ⟨admits, set⟩ := admits_of_write wrote
          rw [grows.keeps.locate] at admits set
          have still : middle.executable (files.locate (temporaryPath path))
              = files.executable (files.locate (temporaryPath path)) := by
            rcases grows.node (files.locate (temporaryPath path)) with same | ⟨-, open_, -⟩
            · simp [Files.executable, same]
            · exact absurd open_ admits.free
          rw [still] at set
          simp only [wrote] at ran
          cases renamed : written.rename (temporaryPath path) path with
          | error fault =>
              simp only [renamed] at ran
              cases ran
              exact set ▸ .unmoved found (by rw [made]) admits
          | ok final =>
              simp only [renamed] at ran
              cases ran
              have kept : Keeps files written := grows.keeps.trans (set ▸ keeps_setNode admits.free _)
              obtain ⟨place, leads⟩ := leads_of_rename renamed
              obtain ⟨content, executable, origin, admits', put⟩ := admits_of_rename renamed
              rw [kept.locate] at origin put
              rw [kept.locate] at admits' put
              rw [set, node?_setNode (ne_nil_of_free admits.free), if_pos rfl] at origin
              cases origin
              exact .moved found made admits set leads admits' put kept (keeps_of_rename renamed).1

/-- Writing a run state keeps all directories, and changes what it touches only; by cases on how it
goes.
-/
theorem WriteCourse.frame {state : RunState} {result : Except Failure Unit}
    (course : WriteCourse state path files result after)
    : Keeps files after
      ∧ ∀ place, ¬ Touches files path place → after.node? place = files.node? place := by
  have made {parent : Path} (found : path.parent? = some parent) (place : Location)
      (apart : ¬ Touches files path place)
      : (files.makeDirectories parent).1.node? place = files.node? place := by
    rcases (makeDirectories_grows files parent).node place with same | ⟨-, -, way⟩
    · exact same
    · exact absurd (.inl (way.of_parent? found)) apart
  cases course with
  | parentless => exact ⟨.refl files, fun _ _ => rfl⟩
  | unwritten found middle =>
      subst middle
      exact ⟨(makeDirectories_grows files _).keeps, made found⟩
  | unmoved found middle admits =>
      subst middle
      refine ⟨(makeDirectories_grows files _).keeps.trans (keeps_setNode admits.free _), ?_⟩
      intro place apart
      rw [node?_setNode (ne_nil_of_free admits.free), if_neg fun same => apart (.inr same),
        made found place apart]
  | @moved parent middle written _ place found making admits wrote leads admits' put drafted moves =>
      have made := made found
      rw [making] at made
      have held : written.node? (files.locate (temporaryPath path)) ≠ some .directory := by
        simp [wrote, node?_setNode (ne_nil_of_free admits.free)]
      refine ⟨drafted.trans moves, ?_⟩
      intro place apart
      have other : place ≠ files.locate path := by
        rintro rfl
        exact apart (.inl (.locate files path))
      rw [put, node?_setNode (ne_nil_of_free admits'.free), node?_dropNode (ne_nil_of_free held),
        if_neg other, if_neg fun same => apart (.inr same), wrote,
        node?_setNode (ne_nil_of_free admits.free), if_neg fun same => apart (.inr same),
        made place apart]

/-- Writing a run state keeps the tree below a root; by cases on how it goes. -/
theorem WriteCourse.grounded {state : RunState} {result : Except Failure Unit}
    (course : WriteCourse state path files result after) (ground : files.Grounded root top)
    : after.Grounded root top := by
  cases course with
  | parentless => exact ground
  | unwritten found middle => exact middle ▸ (ground.makeDirectories _).2
  | @unmoved parent _ _ found middle admits =>
      subst middle
      have made := (ground.makeDirectories parent).2
      exact made.setNode (made.takes admits) _
  | @moved parent middle written _ place found making admits wrote leads admits' put drafted moves =>
      have made := (ground.makeDirectories parent).2
      rw [making] at made
      have writtenGround : written.Grounded root top := wrote ▸ made.setNode (made.takes admits) _
      have dropped : written.Takes top (files.locate (temporaryPath path)) :=
        writtenGround.takes_of_file (by rw [wrote, node?_setNode (ne_nil_of_free admits.free), if_pos rfl])
      exact put ▸ (writtenGround.dropNode dropped).setNode
        ((writtenGround.takes admits').dropNode dropped) _

/-- Writing a run state keeps the tree below a root and all directories, and changes what it touches
only.
-/
theorem write_frame (ground : files.Grounded root top) {state : RunState}
    {result : Except Failure Unit} (ran : (state.write path).run.run files = (result, after))
    : after.Grounded root top
      ∧ Keeps files after
      ∧ ∀ place, ¬ Touches files path place → after.node? place = files.node? place :=
  ⟨(write_course ran).grounded ground, (write_course ran).frame⟩

-----------------------------------------------------------------------------------------
-- What a run state that was written leaves
-----------------------------------------------------------------------------------------

/-- The stem of a name with a dot in it ends before its last dot. -/
theorem toList_stem {name : String} {before : List Char}
    (cut : (name.toList.reverse.dropWhile (· != '.')).drop 1 = before) (some : before ≠ [])
    : (stem name).toList = before.reverse := by
  rw [stem, cut, if_neg (by simpa using some), String.toList_ofList]

/-- The name of the new file is another one than the name that it is made of, which would have to be
longer than itself.
-/
theorem stem_append_ne (name : String) : stem name ++ "." ++ temporaryEnding ≠ name := by
  intro same
  have text := congrArg String.toList same
  have ending : ("." ++ temporaryEnding).toList = ['.', 'j', 's', 'o', 'n', '.', 't', 'm', 'p'] := by
    decide
  rw [String.append_assoc, String.toList_append, ending] at text
  have before : (name.toList.reverse.dropWhile (· != '.')).drop 1
      = ['n', 'o', 's', 'j', '.'] ++ (stem name).toList.reverse := by
    rw [← text]
    simp
  have longer := toList_stem before (by simp)
  have lengths := congrArg List.length longer
  simp at lengths

/-- The new file of a run state lies beside the file, under another name. -/
theorem locate_temporaryPath (files : Files) {name : String} (named : path.fileName? = some name)
    : ∃ place, files.locate path = place ++ [name]
        ∧ files.locate (temporaryPath path) = place ++ [stem name ++ "." ++ temporaryEnding] := by
  obtain ⟨absolute, before, idle, split, ends, renamed⟩ := steps_withExtension named temporaryEnding
  have plain := (parent?_of_fileName? named).1
  have start : files.start (temporaryPath path) = files.start path := by
    simp [Files.start, temporaryPath, absolute]
  have fresh : IsName (stem name ++ "." ++ temporaryEnding) := by
    refine isName_of_length ?_
    have : temporaryEnding.toList.length = 8 := by decide
    simp only [String.toList_append, List.length_append]
    omega
  refine ⟨follow (files.start path) before, ?_, ?_⟩
  · rw [Files.locate, split, follow_append, follow_cons, advance_name plain, follow_idle ends]
  · rw [Files.locate, start, temporaryPath, renamed, follow_append, follow_cons, follow_nil,
      advance_name fresh]

theorem locate_temporaryPath_ne (files : Files) {name : String}
    (named : path.fileName? = some name)
    : files.locate (temporaryPath path) ≠ files.locate path := by
  obtain ⟨place, there, beside⟩ := locate_temporaryPath files named
  rw [there, beside]
  intro same
  obtain ⟨-, last⟩ := List.append_inj' same rfl
  exact stem_append_ne name (List.cons.inj last).1

/-- A path without a name at its end is written in place. -/
theorem temporaryPath_of_nameless (nameless : path.fileName? = none) : temporaryPath path = path := by
  simp [temporaryPath, withExtension, nameless]

/-- The new file of a run state lies below a root if the file does. -/
theorem below_temporaryPath (files : Files) {path : Path}
    (below : top <+: files.locate path) (other : top ≠ files.locate path)
    : top <+: files.locate (temporaryPath path) := by
  cases named : path.fileName? with
  | none => rwa [temporaryPath_of_nameless named]
  | some name =>
      obtain ⟨place, there, beside⟩ := locate_temporaryPath files named
      rw [there] at below other
      rw [beside]
      exact ((List.prefix_concat_iff.mp below).resolve_left other).trans (List.prefix_append ..)

/-- The tree after a run state was written: directories were made, the file of the run state holds
it, and the new file that was written first is gone.
-/
theorem write_ok (ground : files.Grounded root top) {state : RunState}
    (ran : (state.write path).run.run files = (.ok (), after))
    : ∃ parent middle,
        path.parent? = some parent
        ∧ files.makeDirectories parent = (middle, .ok ())
        ∧ files.node? (files.locate path) ≠ some .directory
        ∧ after.Grounded root top
        ∧ Keeps files after
        ∧ ∀ place, after.node? place
          = if place = files.locate path then
              some (.file state.document.toUTF8
                (files.executable (files.locate (temporaryPath path))))
            else if place = files.locate (temporaryPath path) then none
            else middle.node? place := by
  have course := write_course ran
  obtain ⟨kept, -⟩ := course.frame
  have afterGround := course.grounded ground
  cases course with
  | @moved parent middle written _ place found making admits wrote leads admits' put drafted moves =>
      have held : written.node? (files.locate (temporaryPath path)) ≠ some .directory := by
        simp [wrote, node?_setNode (ne_nil_of_free admits.free)]
      refine ⟨parent, middle, found, making, fun open_ => admits'.free (drafted.directories _ open_),
        afterGround, kept, fun place => ?_⟩
      rw [put, node?_setNode (ne_nil_of_free admits'.free), node?_dropNode (ne_nil_of_free held), wrote,
        node?_setNode (ne_nil_of_free admits.free)]
      split
      · rfl
      · split <;> rfl

/-- A run state that is written on trees that are the same below a root leaves them the same there.
-/
theorem write_sameBelow (ground : files.Grounded root top) {tree other : Files}
    (same : SameBelow root top files tree) {state : RunState}
    (ran : (state.write path).run.run files = (.ok (), after))
    (ran' : (state.write path).run.run tree = (.ok (), other))
    : SameBelow root top after other := by
  obtain ⟨parent, middle, found, made, free, afterGround, kept, nodes⟩ := write_ok ground ran
  obtain ⟨parent', middle', found', made', -, otherGround, kept', nodes'⟩ :=
    write_ok (same.grounded ground) ran'
  obtain rfl := Option.some.inj (found.symm.trans found')
  have locate (path : Path) : tree.locate path = files.locate path := by
    simp [Files.locate, Files.start, same.base]
  refine ⟨kept'.base.trans (same.base.trans kept.base.symm),
    otherGround.leads.trans afterGround.leads.symm, fun place below => ?_⟩
  rw [nodes, nodes', locate, locate]
  split
  · next here =>
      have strict : top ≠ files.locate path := by
        intro at_
        exact free (at_ ▸ ground.open_)
      have fresh := below_temporaryPath files (here ▸ below) strict
      simp only [Files.executable, same.node _ fresh]
  · split
    · rfl
    · exact same.node_of_makeDirectories ground made made' below

variable {base location : Location} {pipeline : String} {steps : List String}

-----------------------------------------------------------------------------------------
-- What is found at a path
-----------------------------------------------------------------------------------------

/-- What a path leads to decides which run state is found there. -/
theorem loadOrNew_congr (same : after.found? path = files.found? path) (pipeline : String)
    (directory : Path)
    : loadOrNew after path pipeline directory = loadOrNew files path pipeline directory := by
  rw [loadOrNew, loadOrNew, exists?_eq, exists?_eq, same]
  cases found : files.found? path with
  | none => rfl
  | some node => rw [load, load, readText, readText, read_of_found? found (same.trans found)]

/-- A file with the document of a run state is read as that run state. -/
theorem load_document {state : RunState} {executable : Bool}
    (found : files.found? path = some (.file state.document.toUTF8 executable))
    : load files path
      = .ok { state with workingDirectory := Path.ofString state.workingDirectory.toString } := by
  rw [load, readText_of_found? found]
  simp only [ofDocument_document]

/-- The steps that are recorded for a pipeline at a path, wherever it is applied: those that the file
lists, or none if there is no file.
-/
structure Recorded (files : Files) (path : Path) (pipeline : String) (steps : List String)
    : Prop where
  shows_ : files.Shows path
  free : files.node? (files.locate path) ≠ some .directory
  loads : ∀ directory, ∃ state,
    loadOrNew files path pipeline directory = .ok state ∧ state.completed = steps

/-- Nothing is recorded where there is no file. -/
theorem Recorded.none (missing : files.node? (files.locate path) = none) (pipeline : String)
    : Recorded files path pipeline [] := by
  have shows_ := shows_of_none missing
  refine ⟨shows_, by simp [missing], fun directory => ⟨{ pipeline, workingDirectory := directory }, ?_, rfl⟩⟩
  rw [loadOrNew, exists?_eq, shows_, missing]
  rfl

/-- What is recorded stays where the path leads to the same. -/
theorem Recorded.spares (recorded : Recorded files path pipeline steps)
    (spares : Spares path files after)
    : Recorded after path pipeline steps := by
  refine ⟨spares.shows recorded.shows_, ?_, fun directory => ?_⟩
  · rw [spares.locate, spares.node]
    exact recorded.free
  · rw [loadOrNew_congr spares.found]
    exact recorded.loads directory

-----------------------------------------------------------------------------------------
-- Writing a run state
-----------------------------------------------------------------------------------------

/-- A path that ends with a name, at a location that nothing takes which is made or written on the way
there.
-/
structure IsKeptAt (base location : Location) (path : Path) : Prop where
  ends : ∃ init name, path.steps = init ++ [name] ∧ IsName name
  locate : ∀ files : Files, files.base = base → files.locate path = location
  parent : ∀ parent, path.parent? = some parent → Avoids base location parent
  temporary : Misses base location (temporaryPath path)

/-- An action that leaves the location alone spares the file there. -/
theorem IsKeptAt.spares {α : Type} (isKept : IsKeptAt base location path)
    {action : FileAction α} {result : Except Failure α} (shows_ : files.Shows path)
    (start : files.base = base) (spares : FileAction.Spares base location action)
    (ran : action.run.run files = (result, after))
    : Spares path files after := by
  obtain ⟨init, name, ends, plain⟩ := isKept.ends
  obtain ⟨kept, same⟩ := spares files start
  rw [ran] at kept same
  rw [← isKept.locate files start] at same
  exact shows_.spares ends plain kept same

/-- A run state that was written is recorded, and one that could not be written leaves the file as it
was; by cases on how writing goes.
-/
theorem Recorded.write (recorded : Recorded files path pipeline steps) {state : RunState}
    {result : Except Failure Unit} (isKept : IsKeptAt base location path) (start : files.base = base)
    (ran : (state.write path).run.run files = (result, after))
    : Keeps files after
      ∧ (∀ failure, result = .error failure → Spares path files after)
      ∧ (result = .ok () → Recorded after path state.pipeline state.completed) := by
  obtain ⟨init, name, ends, plain⟩ := isKept.ends
  have here := isKept.locate files start
  have beside := isKept.temporary files start
  have course := write_course ran
  have kept := course.frame.1
  have made {parent : Path} (found : path.parent? = some parent)
      : (files.makeDirectories parent).1.node? location = files.node? location := by
    rcases (makeDirectories_grows files parent).node location with same | ⟨-, -, way⟩
    · exact same
    · exact absurd way (isKept.parent parent found files start)
  refine ⟨kept, fun failure failed => ?_, fun passed => ?_⟩
  · subst failed
    refine recorded.shows_.spares ends plain kept ?_
    rw [here]
    cases course with
    | parentless none => rfl
    | unwritten found middle => exact middle ▸ made found
    | unmoved found middle admits =>
        rw [node?_setNode (ne_nil_of_free admits.free), if_neg (Ne.symm beside), middle]
        exact made found
  · subst passed
    cases course with
    | @moved parent middle written _ place found making admits wrote leads admits' put drafted moves =>
        have there : after.node? (written.locate path) = some (.file state.document.toUTF8
            (files.executable (files.locate (temporaryPath path)))) := by
          rw [drafted.locate, put, node?_setNode (ne_nil_of_free admits'.free), if_pos rfl]
        have found := found?_of_keeps ends plain leads moves there
        rw [← moves.locate] at there
        refine ⟨found.trans there.symm, by simp [there], fun directory =>
          ⟨{ state with workingDirectory := ofString state.workingDirectory.toString }, ?_, rfl⟩⟩
        rw [loadOrNew, exists?_eq, found, load_document found]
        simp [bind, Except.bind]

end Groundwork.RunState
