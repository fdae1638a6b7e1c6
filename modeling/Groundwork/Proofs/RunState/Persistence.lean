import Groundwork.Proofs.Files.Sparing
import Groundwork.Proofs.Path.Spelling
import Groundwork.Proofs.RunState.Store

/-!
Run states survive being written. What was written is loaded again, by those who look for a run state
of its pipeline and by nobody else; what could not be written leaves the file that was there.
-/

namespace Groundwork.RunState

open Files Path

variable {files after : Files} {path : Path} {state : RunState} {failure : Failure}

/-- A written run state is what the path leads to; by cases on the one way of writing that succeeds. -/
theorem found?_of_write_ok (ran : (state.write path).run.run files = (.ok (), after))
    : ∃ executable, after.found? path = some (.file state.document.toUTF8 executable) := by
  cases found : path.parent? with
  | none =>
      rw [write, found] at ran
      cases ran
  | some parent =>
      rw [run_write state found] at ran
      rcases made : files.makeDirectories parent with ⟨middle, fault | _⟩ <;> simp only [made] at ran
      · cases ran
      cases wrote : middle.write (temporaryPath path) state.document.toUTF8 with
      | error fault =>
          simp only [wrote] at ran
          cases ran
      | ok written =>
          simp only [wrote] at ran
          cases moved : written.rename (temporaryPath path) path with
          | error fault =>
              simp only [moved] at ran
              cases ran
          | ok final =>
              simp only [moved] at ran
              cases ran
              obtain ⟨content, executable, origin, leads⟩ := found?_of_rename moved
              have draft := found?_eq_some.mp (found?_of_write wrote)
              cases origin.symm.trans (place_taken draft).2
              exact ⟨_, leads⟩

/-- A run state that could not be written leaves directories and files as they are, up to the new
file, and the file at the path; by cases on how far writing came.
-/
theorem lasts_of_write_error (ran : (state.write path).run.run files = (.error failure, after))
    : Lasts files after
      ∧ (after.node? (files.locate path) = files.node? (files.locate path)
        ∨ files.node? (files.locate path) = none
          ∧ after.node? (files.locate path) = some .directory) := by
  cases found : path.parent? with
  | none =>
      rw [write, found] at ran
      cases ran
      exact ⟨.refl files, .inl rfl⟩
  | some parent =>
      rw [run_write state found] at ran
      have grows := makeDirectories_grows files parent
      have here := (grows.node (files.locate path)).imp_right fun made => And.intro made.1 made.2.1
      rcases made : files.makeDirectories parent with ⟨middle, fault | _⟩ <;>
        simp only [made] at ran grows here
      · cases ran
        exact ⟨grows.lasts, here⟩
      cases wrote : middle.write (temporaryPath path) state.document.toUTF8 with
      | error fault =>
          simp only [wrote] at ran
          cases ran
          exact ⟨grows.lasts, here⟩
      | ok written =>
          simp only [wrote] at ran
          cases moved : written.rename (temporaryPath path) path with
          | ok final =>
              simp only [moved] at ran
              cases ran
          | error fault =>
              simp only [moved] at ran
              cases ran
              cases named : path.fileName? with
              | none =>
                  -- The path was written in place, and moving it to itself does not fail.
                  rw [temporaryPath_of_nameless named] at wrote moved
                  obtain ⟨still, renamed⟩ := rename_self (found?_of_write wrote)
                  cases moved.symm.trans renamed
              | some name =>
                  obtain ⟨admits, rfl⟩ := admits_of_write wrote
                  refine ⟨grows.lasts.trans (lasts_setNode admits.free _ _), ?_⟩
                  have beside := locate_temporaryPath_ne middle named
                  rw [grows.keeps.locate path] at beside
                  rw [node?_setNode (ne_nil_of_free admits.free), if_neg (Ne.symm beside)]
                  exact here

/-- What is read at a path decides what is loaded from there. -/
theorem load_of_read (same : after.read path = files.read path)
    : load after path = load files path := by
  rw [load, load, readText, readText, same]

/-- Nothing is loaded from a path at whose location no file is. -/
theorem load_of_fileless (fileless : ∀ content executable,
      files.node? (files.locate path) ≠ some (.file content executable))
    : ∃ failure, load files path = .error failure := by
  have unread : ∃ fault, files.read path = .error fault := by
    cases leads : files.place path with
    | error fault => exact ⟨fault, by simp [Files.read, leads, bind, Except.bind]⟩
    | ok place =>
        cases place with
        | free => exact ⟨_, by simp [Files.read, leads, bind, Except.bind]; rfl⟩
        | taken location node =>
            obtain ⟨rfl, there⟩ := place_taken leads
            cases node with
            | directory => exact ⟨_, by simp [Files.read, leads, bind, Except.bind]; rfl⟩
            | file content executable => exact absurd there (fileless content executable)
  obtain ⟨fault, failed⟩ := unread
  exact ⟨_, by simp [load, readText, failed, bind, Except.bind]; rfl⟩

/-- A run state that was written is loaded from its path, whatever was there before; looking for the
run state of a pipeline finds it if it is of that pipeline, and fails otherwise. One that could not be
written leaves the file at the location of the path as it was, and what is loaded from the path if
anything was found there; where nothing was, nothing can be loaded.
-/
theorem write_persists {result : Except Failure Unit} (spelled : state.workingDirectory.IsSpelled)
    (ran : (state.write path).run.run files = (result, after))
    : (result = .ok () →
        load after path = .ok state
        ∧ ∀ pipeline directory, loadOrNew after path pipeline directory
          = if state.pipeline = pipeline then .ok state
            else .error (.ofMessage
              s!"run state {path} belongs to pipeline '{state.pipeline}', not '{pipeline}'"))
      ∧ ∀ failure, result = .error failure →
          (∀ content executable,
            after.node? (files.locate path) = some (.file content executable)
              ↔ files.node? (files.locate path) = some (.file content executable))
          ∧ (files.read path ≠ .error .notFound → load after path = load files path)
          ∧ (files.node? (files.locate path) = none →
              ∃ failure, load after path = .error failure) := by
  refine ⟨fun passed => ?_, fun failure failed => ?_⟩
  · subst passed
    obtain ⟨executable, found⟩ := found?_of_write_ok ran
    have loaded : load after path = .ok state := by
      rw [load_document found, spelled.ofString_toString]
    refine ⟨loaded, fun pipeline directory => ?_⟩
    rw [loadOrNew, exists?_eq, found, loaded]
    by_cases own : state.pipeline = pipeline
    · simp [own, bind, Except.bind]
    · simp [own, bind, Except.bind]
  · subst failed
    obtain ⟨lasts, here⟩ := lasts_of_write_error ran
    refine ⟨fun content executable => ?_, fun there => ?_, fun missing => ?_⟩
    · obtain same | ⟨missing, open_⟩ := here
      · rw [same]
      · simp [missing, open_]
    · refine load_of_read (lasts.read there fun node found => ?_)
      obtain same | ⟨missing, -⟩ := here
      · exact same.trans found
      · exact absurd (found.symm.trans missing) (by simp)
    · refine load_of_fileless fun content executable found => ?_
      rw [lasts.keeps.locate] at found
      obtain same | ⟨-, open_⟩ := here
      · exact absurd (found.symm.trans (same.trans missing)) (by simp)
      · exact absurd (found.symm.trans open_) (by simp)

/-- A run state whose texts have quotes, backslashes, control characters and characters of more than two
bytes in them.
-/
def inscribed : RunState where
  pipeline := "\"notes\\\u0001\t\""
  workingDirectory := ⟨"", ["home", "ünder 😀"]⟩
  completed := ["write\n", "𝄞\\u0041", ""]

/-- A tree with a directory where the new file of a run state is to be written. -/
def occupied : Files :=
  (Files.empty.setNode ["state.json"] (.file "kept\n".toUTF8 false)).setNode ["state.json.tmp"]
    .directory

/-- The run state is written in an empty tree and cannot be written in an occupied one. -/
theorem write_persists_inscribed
    : (∃ after, (inscribed.write ⟨"state.json", []⟩).run.run .empty = (.ok (), after)
        ∧ load after ⟨"state.json", []⟩ = .ok inscribed)
      ∧ ∃ failure after, (inscribed.write ⟨"state.json", []⟩).run.run occupied
          = (.error failure, after)
        ∧ load after ⟨"state.json", []⟩ = load occupied ⟨"state.json", []⟩ := by
  have spelled : inscribed.workingDirectory.IsSpelled := ⟨"/home/ünder 😀", by decide +kernel⟩
  constructor
  · have passed : ((inscribed.write ⟨"state.json", []⟩).run.run .empty).1.isOk = true := by
      decide +kernel
    rcases ran : (inscribed.write ⟨"state.json", []⟩).run.run .empty with ⟨failure | _, after⟩
    · rw [ran] at passed
      cases passed
    · exact ⟨after, rfl, ((write_persists spelled ran).1 rfl).1⟩
  · have failed : ((inscribed.write ⟨"state.json", []⟩).run.run occupied).1.isOk = false := by
      decide +kernel
    have there : (occupied.read ⟨"state.json", []⟩).isOk = true := by decide +kernel
    rcases ran : (inscribed.write ⟨"state.json", []⟩).run.run occupied with ⟨failure | _, after⟩
    · refine ⟨failure, after, rfl, ((write_persists spelled ran).2 failure rfl).2.1 ?_⟩
      intro missing
      rw [missing] at there
      cases there
    · rw [ran] at failed
      cases failed

end Groundwork.RunState
