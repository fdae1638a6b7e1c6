import Groundwork.Proofs.RunState.Store
import Groundwork.Proofs.Workspace.Calls
import Groundwork.StateDirectory

/-!
Making the state directory of a target: its paths below the target, and what is left behind if it
cannot be made. What is done below a target stays away from the file of the run state, unless it is a path
of the file itself or one that leads below it.
-/

namespace Groundwork

open Files Path

-----------------------------------------------------------------------------------------
-- The paths of the directory
-----------------------------------------------------------------------------------------

/-- The segments of a joined path are those of its parts. -/
theorem Path.mem_segments_join {base path : Path} {segment : String}
    (member : segment ∈ (base.join path).segments)
    : segment ∈ base.segments ∨ segment ∈ path.segments := by
  unfold join at member
  split at member
  · exact .inr member
  · split at member
    · exact .inr member
    · simp only [segments, List.mem_cons, List.mem_append] at member ⊢
      rcases member with rfl | old | new
      · exact .inl (.inl rfl)
      · refine .inl (.inr ?_)
        split at old
        · exact List.dropLast_subset _ old
        · exact old
      · exact .inr new

theorem Path.isEmpty_join {base path : Path} (some : path.isEmpty = false)
    : (base.join path).isEmpty = false := by
  unfold join
  split
  · exact some
  · split
    · exact some
    · simp [isEmpty]

namespace StateDirectory

variable {files : Files} {root : Path} {top : Location}

theorem directory_under (root : Path) : (ofRoot root).directory.Under root [name] :=
  @join_under root (ofString name) (by decide)

theorem ignoreFile_under (root : Path) : (ofRoot root).ignoreFile.Under (ofRoot root).directory [".gitignore"] :=
  @join_under _ (ofString ".gitignore") (by decide)

theorem runState_under (root : Path)
    : (ofRoot root).runState.Under (ofRoot root).directory ["run_state.json"] :=
  @join_under _ (ofString "run_state.json") (by decide)

theorem isName_name : IsName name := ⟨by decide, by decide⟩

/-- If the path of the ignore file is not followed but that of its directory is, it is too long. -/
theorem long_of_refusal? (fits : refusal? (ofRoot root).directory = none)
    (refused : refusal? (ofRoot root).ignoreFile ≠ none)
    : pathLimit ≤ (ofRoot root).ignoreFile.toString.utf8ByteSize := by
  obtain ⟨whole, -, -⟩ := refusal?_eq_none.mp fits
  refine Nat.le_of_not_lt fun short => refused (refusal?_eq_none.mpr ⟨?_, ?_, short⟩)
  · intro segment member
    rcases mem_segments_join member with old | new
    · exact whole segment old
    · obtain rfl : segment = ".gitignore" := List.mem_singleton.mp new
      have clear : (".gitignore".toList.all fun c => c.toNat != 0) = true := by decide
      exact fun c among => bne_iff_ne.mp (List.all_eq_true.mp clear c among)
  · exact isEmpty_join (by decide)

theorem directory_filled (root : Path) : (ofRoot root).directory.components.isEmpty = false := by
  obtain ⟨core, -, -, -, steps⟩ := (directory_under root).steps
  have named : (ofRoot root).directory.fileName? = some name :=
    fileName?_of_steps steps isName_name (by simp [AllIdle])
  cases none : (ofRoot root).directory.components with
  | nil => simp [fileName?, none] at named
  | cons => rfl

/-- The directory below a target that is one: it is made, or it is there already, or something else
is in its place; by cases on what is there.
-/
theorem makeDirectories_directory (leads : files.place root = .ok (.taken top .directory))
    : (∃ fault,
        files.makeDirectories (ofRoot root).directory = (files, .error fault)
        ∧ (refusal? (ofRoot root).directory = none → (files.node? (top ++ [name])).isSome))
      ∨ ∃ after,
        files.makeDirectories (ofRoot root).directory = (after, .ok ())
        ∧ after.place (ofRoot root).directory = .ok (.taken (top ++ [name]) .directory) := by
  have filled := directory_filled root
  cases refused : refusal? (ofRoot root).directory with
  | some fault =>
      have blocked : files.place (ofRoot root).directory = .error fault := by
        rw [place_eq, refused]
      have other : fault ≠ .notFound := by
        rintro rfl
        have some : (ofRoot root).directory.isEmpty = false := isEmpty_join (by decide)
        exact absurd (isEmpty_of_refusal? refused) (by simp [some])
      have tried : files.makeDirectory (ofRoot root).directory = .error fault := by
        simp [makeDirectory, bind, Except.bind, blocked]
      refine .inl ⟨fault, ?_, by simp⟩
      rw [makeDirectories_of_error filled tried other]
      simp [isDirectory, blocked]
  | none =>
      have open_ := (place_taken leads).2
      have here := place_under leads (directory_under root) refused
      rw [walk_name open_ isName_name (by decide)] at here
      cases found : files.node? (top ++ [name]) with
      | none =>
          simp only [found, Option.isSome_none, Bool.false_eq_true, if_false, List.all_nil, if_true] at here
          have made : files.makeDirectory (ofRoot root).directory
              = .ok (files.setNode (top ++ [name]) .directory) := by
            simp only [makeDirectory, bind, Except.bind, here]
          have kept : Keeps files (files.setNode (top ++ [name]) .directory) :=
            keeps_setNode (by simp [found]) _
          refine .inr ⟨files.setNode (top ++ [name]) .directory, ?_, ?_⟩
          · simp only [makeDirectories, makeDirectoriesFrom, filled, Bool.false_eq_true, if_false, made]
          · have still : (files.setNode (top ++ [name]) .directory).place root
                = .ok (.taken top .directory) := by
              rw [place_of_fits (fits_of_place leads), kept.start]
              exact walk_mono (place_of_fits (fits_of_place leads) ▸ leads) kept.directories
            have made : (files.setNode (top ++ [name]) .directory).node? (top ++ [name])
                = some .directory := by
              rw [node?_setNode (by simp), if_pos rfl]
            rw [place_under still (directory_under root) refused,
              walk_name (kept.directories _ open_) isName_name (by decide), if_pos (by rw [made]; rfl),
              walk_nil made]
      | some node =>
          simp only [found, Option.isSome_some, if_true, walk_nil found] at here
          have tried : files.makeDirectory (ofRoot root).directory = .error .exists := by
            simp only [makeDirectory, bind, Except.bind, here]
          rw [makeDirectories_of_error filled tried (by simp)]
          cases node with
          | file content executable =>
              exact .inl ⟨.exists, by simp [isDirectory, here], fun _ => rfl⟩
          | directory => exact .inr ⟨files, by simp [isDirectory, here], here⟩

/-- How the state directory is made: the directory, then the ignore file if there is none. -/
theorem run_init (root : Path)
    : (init root).run.run files
      = match files.makeDirectories (ofRoot root).directory with
        | (after, .error fault) =>
            (.error (.ofFiles fault s!"create directory {(ofRoot root).directory}"), after)
        | (after, .ok ()) =>
            if after.exists? (ofRoot root).ignoreFile then (.ok (ofRoot root), after)
            else
              match after.write (ofRoot root).ignoreFile ignoreAll.toUTF8 with
              | .error fault =>
                  (.error (.ofFiles fault s!"write file {(ofRoot root).ignoreFile}"), after)
              | .ok written => (.ok (ofRoot root), written) := by
  simp only [init, run_bind, FileAction.run_makeDirectories]
  rcases files.makeDirectories (ofRoot root).directory with ⟨after, fault | _⟩
  · rfl
  · simp only [mapError_ok]
    change (if (!after.exists? _) = true then _ else _ : FileAction StateDirectory).run.run after = _
    cases after.exists? (ofRoot root).ignoreFile with
    | true => rfl
    | false =>
        simp only [Bool.not_false, if_true, run_bind, FileAction.run_change, Bool.false_eq_true, if_false]
        cases after.write (ofRoot root).ignoreFile ignoreAll.toUTF8 <;> rfl

/-- Making the state directory of a directory leaves the tree as it was if it fails, unless the path
of the ignore file is too long: then the directory is there without it.
-/
theorem init_course (target : files.isDirectory root = true)
    : (∃ after, (init root).run.run files = (.ok (ofRoot root), after))
      ∨ ∃ failure after,
        (init root).run.run files = (.error failure, after)
        ∧ (after = files
          ∨ files.makeDirectories (ofRoot root).directory = (after, .ok ())
            ∧ pathLimit ≤ (ofRoot root).ignoreFile.toString.utf8ByteSize) := by
  obtain ⟨top, leads⟩ := isDirectory_iff.mp target
  rw [run_init]
  rcases makeDirectories_directory leads with
    ⟨fault, made, -⟩ | ⟨after, made, there⟩
  · rw [made]
    exact .inr ⟨_, _, rfl, .inl rfl⟩
  · simp only [made]
    cases here : after.exists? (ofRoot root).ignoreFile with
    | true => exact .inl ⟨after, rfl⟩
    | false =>
        simp only [Bool.false_eq_true, if_false]
        cases wrote : after.write (ofRoot root).ignoreFile ignoreAll.toUTF8 with
        | ok written => exact .inl ⟨written, rfl⟩
        | error fault =>
            refine .inr ⟨_, _, rfl, .inr ⟨rfl, long_of_refusal? (fits_of_place there) fun fits => ?_⟩⟩
            have leads := place_under there (ignoreFile_under root) fits
            rw [walk_name (place_taken there).2 ⟨by decide, by decide⟩ (by decide)] at leads
            cases found : after.node? (top ++ [name] ++ [".gitignore"]) with
            | some node =>
                simp only [found, Option.isSome_some, if_true, walk_nil found] at leads
                simp [exists?, leads] at here
            | none =>
                simp only [found, Option.isSome_none, Bool.false_eq_true, if_false, List.all_nil,
                  if_true] at leads
                simp [write, bind, Except.bind, leads] at wrote

end StateDirectory

-----------------------------------------------------------------------------------------
-- The file of the run state
-----------------------------------------------------------------------------------------

namespace StateDirectory

variable {files : Files} {root path : Path} {base location : Location}

/-- The names that lead from a target to the file of the run state. -/
def runStateNames : List String := [name, "run_state.json"]

/-- The location of the directory below the location of the target. -/
theorem locate_directory (files : Files) (root : Path)
    : files.locate (ofRoot root).directory = files.locate root ++ [name] := by
  rw [locate_under files (directory_under root) (by decide), isName_name.namesOf_cons, namesOf_nil]

/-- The location of a file of the directory. -/
theorem locate_file (files : Files) {root path : Path} {file : String}
    (under : path.Under (ofRoot root).directory [file]) (plain : IsName file)
    : files.locate path = files.locate root ++ [name, file] := by
  have down : ".." ∉ [file] := by simp [Ne.symm plain.down]
  rw [locate_under files under down, locate_directory, plain.namesOf_cons, namesOf_nil]
  simp

theorem locate_runState (files : Files) (root : Path)
    : files.locate (ofRoot root).runState = files.locate root ++ runStateNames :=
  locate_file files (runState_under root) ⟨by decide, by decide⟩

/-- A target that is a directory does not pass through a location where no directory is. -/
theorem avoids_root {top : Location} (leads : files.place root = .ok (.taken top .directory))
    (free : files.node? location ≠ some .directory)
    : Avoids files.base location root := by
  intro other start way
  refine free (directory_of_onWay leads ?_)
  obtain ⟨before, within, rfl⟩ := way
  exact ⟨before, within, by simp [Files.start, start]⟩

section

variable (avoids : Avoids files.base (files.locate (ofRoot root).runState) root)

/-- The location of the run state is the same in all trees that paths start from the same base of. -/
theorem locate_of_base {other : Files} (start : other.base = files.base) (path : Path)
    : other.locate path = files.locate path := by
  simp [Files.locate, Files.start, start]

include avoids

/-- A path below the target passes the file by unless it leads to it or below it. -/
theorem avoids_join (sound : path.fault? = none) (apart : ¬ runStateNames <+: path.names)
    : Avoids files.base (files.locate (ofRoot root).runState) (root.join path) := by
  intro other start way
  obtain ⟨-, relative, down⟩ := fault?_eq_none sound
  rcases way.under (join_under relative) down with above | ⟨before, within, same⟩
  · exact avoids other start above
  · rw [locate_runState, locate_of_base start] at same
    obtain rfl := List.append_cancel_left same
    exact apart within

theorem avoids_directory
    : Avoids files.base (files.locate (ofRoot root).runState) (ofRoot root).directory := by
  intro other start way
  rcases way.under (directory_under root) (by decide) with above | ⟨before, within, same⟩
  · exact avoids other start above
  · rw [locate_runState, locate_of_base start] at same
    obtain rfl := List.append_cancel_left same
    exact absurd within.length_le (by decide)

/-- The file of the run state is kept where its path leads. -/
theorem isKeptAt_runState
    : RunState.IsKeptAt files.base (files.locate (ofRoot root).runState) (ofRoot root).runState := by
  have plain : IsName "run_state.json" := ⟨by decide, by decide⟩
  obtain ⟨core, idle, -, -, steps⟩ := (runState_under root).steps
  have named : (ofRoot root).runState.fileName? = some "run_state.json" :=
    fileName?_of_steps steps plain (by simp [AllIdle])
  refine ⟨⟨core, _, steps, plain⟩, fun other start => locate_of_base start _, ?_, ?_⟩
  · intro parent found other start way
    obtain ⟨_, _, above, -, found', under, names, down, -⟩ :=
      (runState_under root).parent? (by simp [plain.namesOf_cons]) (by decide)
    cases found.symm.trans found'
    have none : namesOf above = [] := by
      rw [plain.namesOf_cons, namesOf_nil] at names
      have short := congrArg List.length names
      simpa using short
    rcases way.under under down with within | ⟨before, within, same⟩
    · exact avoids_directory avoids other start within
    · rw [none, List.prefix_nil] at within
      subst within
      rw [locate_runState, locate_of_base start, locate_directory, List.append_nil] at same
      exact absurd (List.append_cancel_left same) (by decide)
  · intro other start same
    obtain ⟨absolute, before, idle, split, ends, renamed⟩ :=
      steps_withExtension named RunState.temporaryEnding
    have fresh : IsName (stem "run_state.json" ++ "." ++ RunState.temporaryEnding) :=
      ⟨by decide, by decide⟩
    have started : other.start (RunState.temporaryPath (ofRoot root).runState)
        = files.start (ofRoot root).runState := by
      simp [Files.start, RunState.temporaryPath, absolute, start]
    rw [Files.locate, started, RunState.temporaryPath, renamed, Files.locate, split, follow_append,
      follow_append, follow_cons, follow_cons, advance_name fresh, advance_name plain, follow_idle ends,
      follow_nil] at same
    exact absurd (List.append_cancel_left same) (by decide)

end

-----------------------------------------------------------------------------------------
-- Making the directory
-----------------------------------------------------------------------------------------

/-- Making the state directory leaves the file of the run state alone. -/
theorem init_spares (avoids : Avoids files.base (files.locate (ofRoot root).runState) root)
    : FileAction.Spares files.base (files.locate (ofRoot root).runState) (init root) := by
  have misses : Misses files.base (files.locate (ofRoot root).runState) (ofRoot root).ignoreFile := by
    intro other start same
    rw [locate_file other (ignoreFile_under root) ⟨by decide, by decide⟩, locate_runState,
      locate_of_base start] at same
    exact absurd (List.append_cancel_left same) (by decide)
  refine .bind (.makeDirectories (avoids_directory avoids)) fun _ _ _ _ => ?_
  refine .bind .get fun tree _ _ _ => ?_
  cases tree.exists? (ofRoot root).ignoreFile with
  | true => exact .pure _
  | false =>
      have apart : ∀ path ∈ (FileCall.write (ofRoot root).ignoreFile ignoreAll.toUTF8).paths,
          Misses files.base (files.locate (ofRoot root).runState) path :=
        List.forall_mem_singleton.mpr misses
      have writes := FileAction.Spares.change s!"write file {(ofRoot root).ignoreFile}" apart
      exact .bind writes fun _ _ _ _ => .pure _

end StateDirectory

end Groundwork
