import Groundwork.Proofs.Run.Recording
import Groundwork.Proofs.Run.Rerun
import Groundwork.Proofs.Workspace.Reversal

/-!
What a run puts back after a command that did not succeed, whatever its step's commands made of the tree.
The files of the step are put back from the last one on, up to the first that cannot be.
-/

namespace Groundwork

open Files Path Workspace

variable {σ : Type} {base : Location} {root : Path} {top : Location} {targets : List Path}
  {setup : RunSetup σ} {options : Options} {step : Step} {before left after : Scene σ}

-----------------------------------------------------------------------------------------
-- Steps and runs that fail by a command
-----------------------------------------------------------------------------------------

/-- What a step stages does not fail by a command. -/
theorem Step.not_isCommand_of_staging {fault : RunFault}
    (staged : (step.stageMutations setup.collaborators options).run.run before = (.error fault, after))
    : ¬ fault.IsCommand := by
  have stages : FailsAs (fun fault => ¬ fault.IsCommand)
      (step.stageMutations setup.collaborators options) :=
    step.stageMutations_failsAs options (fun _ => id) (fun _ fault => by cases fault <;> exact id) _
  exact stages before fault after staged

/-- A step that fails by a command wrote its files and put them back then; by cases on where its events
end.
-/
theorem StepHistory.stopped {events : List RunEvent} {fault : RunFault}
    (history : StepHistory setup options step before events (.error fault) after)
    (command : fault.IsCommand)
    : ∃ stage written exits line answer,
        step.StopsAt exits line
        ∧ step.commandFault? line answer = some fault
        ∧ Unfolds setup options step before
          (writtenEvents stage written exits ++ [.ran line answer, .undone written]) after := by
  cases history with
  | handled due on effects order =>
      cases order with
      | unstaged =>
          cases effects with
          | cons staged _ => exact absurd command (Step.not_isCommand_of_staging staged.1)
      | stopped stage written exits line answer fault stops fails =>
          exact ⟨stage, written, exits, line, answer, stops, fails, effects⟩
      | uncommitted | refused | unsaved => cases command

/-- A run of steps that fails arrives at the step that does; by induction on the steps. -/
theorem Pipeline.runSteps_arrives {steps : List Step} {fault : RunFault}
    (wet : before.workspace.dryRun = false)
    (ran : (runSteps setup options steps).run.run before = (.error fault, after))
    : ∃ earlier step later report middle events,
        steps = earlier ++ step :: later
        ∧ (runSteps setup options earlier).run.run before = (.ok report, middle)
        ∧ middle.workspace = before.workspace
        ∧ StepHistory setup options step middle events (.error fault) after := by
  induction steps generalizing before with
  | nil => cases ran
  | cons first rest ih =>
      obtain ⟨events, outcome, middle, started, history⟩ := first.run_stepHistory setup options wet
      rw [runSteps_cons, started] at ran
      cases outcome with
      | error found =>
          cases ran
          exact ⟨[], first, rest, [], before, events, rfl, rfl, rfl, history⟩
      | ok status =>
          rcases later : (runSteps setup options rest).run.run middle with ⟨found | report, last⟩ <;>
            simp only [later] at ran <;> cases ran
          obtain ⟨earlier, step, more, report, start, events, rfl, reaches, kept, failed⟩ :=
            ih (history.keeps.1 ▸ wet) later
          refine ⟨first :: earlier, step, more, ⟨first.name, status⟩ :: report, start, events, rfl, ?_,
            kept.trans history.keeps.1, failed⟩
          rw [runSteps_cons, started]
          simp only [reaches]
          rfl

-----------------------------------------------------------------------------------------
-- Files that are put back into what commands left
-----------------------------------------------------------------------------------------

/-- The files that a step wrote have suitable paths, and it is known what they held before. -/
theorem Unfolds.suited (paths : TargetPaths top targets)
    (within : ∀ path ∈ step.targets, path ∈ targets)
    (settled : Settled base root top targets before.files)
    (plain : before.workspace = ⟨root, false, []⟩) {stage : Stage} {written : Written}
    (events : Unfolds setup options step before
      [.staged (.ok stage), .committed stage (.ok written)] after)
    : AllSuited before.files root top written
      ∧ ∀ entry ∈ written, before.files.content? (top ++ entry.1.names) = entry.2 := by
  obtain ⟨whole, -, -, moves⟩ := events.committed paths within settled plain
  obtain ⟨rfl, -⟩ := moves written rfl
  refine ⟨?_, fun entry member => ?_⟩
  · cases events with
    | cons staged rest =>
        cases rest with
        | cons committed none =>
            cases none
            obtain ⟨-, names, -, rfl⟩ := staged
            obtain ⟨files, ran, -⟩ := committed
            have wet : before.workspace.dryRun = false := by rw [plain]
            have rooted : before.workspace.root = root := by rw [plain]
            have ground : before.files.Grounded before.workspace.root top := rooted ▸ settled.ground
            exact rooted ▸ (ready_of_commit wet ground whole ran).allSuited ground whole
  · obtain ⟨file, inside, rfl⟩ := List.mem_map.mp member
    exact whole.loaded file inside

/-- Whatever tree the commands of a step left, its files are put back into that from the last one on, up to
the first that cannot be.
-/
theorem Unfolds.reverted (paths : TargetPaths top targets)
    (within : ∀ path ∈ step.targets, path ∈ targets)
    (settled : Settled base root top targets before.files)
    (plain : before.workspace = ⟨root, false, []⟩) {stage : Stage} {written : Written}
    {exits : List (String × CommandExit)} {line : String} {answer : Except Failure CommandExit}
    (events : Unfolds setup options step before (writtenEvents stage written exits ++ [.ran line answer])
      left)
    (tree : left.files.IsTree) (same : left.files.base = base) {outcome : Except Failure Workspace}
    {files : Files} (ran : (left.workspace.restore written).run.run left.files = (outcome, files))
    : (∀ entry ∈ written, before.files.content? (top ++ entry.1.names) = entry.2)
      ∧ Reverted left.files files root top written outcome := by
  have kept : left.workspace = ⟨root, false, []⟩ := events.keeps.1.trans plain
  rw [writtenEvents, List.append_assoc] at events
  obtain ⟨committed, commits, -⟩ := events.split
  obtain ⟨suited, held⟩ := commits.suited paths within settled plain
  have base := same.trans settled.base.symm
  rw [kept] at ran
  have here : left.files.locate root = top := by
    rw [(place_taken settled.ground.leads).1]
    simp [Files.locate, Files.start, base]
  exact ⟨held, restore_reverted (show (Workspace.mk root false []).dryRun = false from rfl)
    (suited.of_base base) tree settled.ground here ran⟩

/-- A step whose commands ended well up to one, which left some scene: the files that the step had written
are put back into its tree then, as far as that goes.
-/
structure Step.TakesBack (step : Step) (setup : RunSetup σ) (options : Options) (line : String)
    (before left after : Scene σ) (written : Written) (outcome : Except Failure Workspace)
    : Prop where
  writes : ∃ stage exits answer,
    written = writtenOf stage.changed
    ∧ step.StopsAt exits line
    ∧ Unfolds setup options step before (writtenEvents stage written exits ++ [.ran line answer]) left
  restores : (left.workspace.restore written).run.run left.files = (outcome, after.files)
  ends : after = left.withFiles after.files

/-- A step that fails by a command takes back what it wrote, and the fault names the command. -/
theorem StepHistory.takesBack {events : List RunEvent} {name line : String} {code : Option Int}
    {stderr : String}
    (history : StepHistory setup options step before events
      (.error (.commandFailed name line code stderr)) after)
    : step.name = name
      ∧ ∃ left written outcome, step.TakesBack setup options line before left after written outcome := by
  obtain ⟨stage, written, exits, last, answer, stops, fails, unfolds⟩ := history.stopped trivial
  obtain ⟨rfl, rfl⟩ : step.name = name ∧ last = line := by
    unfold Step.commandFault? at fails
    split at fails
    · split at fails <;> cases fails
      exact ⟨rfl, rfl⟩
    · cases fails
      exact ⟨rfl, rfl⟩
  rw [List.append_cons] at unfolds
  obtain ⟨left, events, rest⟩ := unfolds.split
  cases rest with
  | cons undone none =>
      cases none
      obtain ⟨outcome, files, ran, rfl⟩ := undone
      refine ⟨rfl, left, written, outcome, ⟨stage, exits, answer, ?_, stops, events⟩, ran, rfl⟩
      cases events with
      | cons staged rest =>
          cases rest with
          | cons committed _ =>
              obtain ⟨committed, ran, -⟩ := committed
              exact (kept_of_commit ran).2.2

/-- A run that fails by a command has arrived at the step of that name, which took back what it wrote. -/
theorem Pipeline.takesBack_of_run {pipeline : Pipeline} {scene after : Scene σ} {name line : String}
    {code : Option Int} {stderr : String} (wet : scene.workspace.dryRun = false)
    (failed : (pipeline.run setup).run.run scene
      = (.error (.commandFailed name line code stderr), after))
    : ∃ step middle left written outcome,
        pipeline.ArrivesAt setup scene step middle
        ∧ middle.workspace = scene.workspace
        ∧ step.name = name
        ∧ step.TakesBack setup (Dictionary.layer pipeline.options setup.options) line middle left after
          written outcome := by
  obtain ⟨sound, own⟩ := accepted_of_run failed nofun
  rw [run_eq setup sound own] at failed
  obtain ⟨earlier, step, later, report, middle, events, split, reaches, kept, history⟩ :=
    runSteps_arrives wet failed
  obtain ⟨named, left, written, outcome, takesBack⟩ := history.takesBack
  exact ⟨step, middle, left, written, outcome, ⟨earlier, later, report, split, reaches⟩, kept, named,
    takesBack⟩

/-- A run that fails by a command has arrived at the step of that name, and the files that the step wrote
are put back into whatever tree its commands left. If the step was started where the root is a directory
and no temporary file was left, this is done from the last file on, up to the first that cannot be put
back: a file holds what it held before the step, or is gone if it was not there, if it can be put back by
itself and so can all that were written after it.
-/
theorem Pipeline.run_reverted {pipeline : Pipeline} {scene after : Scene σ} {name line : String}
    {code : Option Int} {stderr : String}
    (spelled : ∀ path ∈ pipeline.targets, path.IsSpelled)
    (apart : ∀ path ∈ pipeline.targets, ∀ other ∈ pipeline.targets, path.names ≠ [] →
      ¬ beside (top ++ path.names) <+: top ++ other.names)
    (plain : scene.workspace = ⟨root, false, []⟩)
    (failed : (pipeline.run setup).run.run scene
      = (.error (.commandFailed name line code stderr), after))
    : ∃ step middle left written outcome,
        pipeline.ArrivesAt setup scene step middle
        ∧ step.name = name
        ∧ step.TakesBack setup (Dictionary.layer pipeline.options setup.options) line middle left after
          written outcome
        ∧ (Settled middle.files.base root top pipeline.targets middle.files →
          left.files.IsTree → left.files.base = middle.files.base →
          (∀ entry ∈ written, middle.files.content? (top ++ entry.1.names) = entry.2)
          ∧ Reverted left.files after.files root top written outcome) := by
  obtain ⟨step, middle, left, written, outcome, arrives, kept, named, takesBack⟩ :=
    takesBack_of_run (by rw [plain]) failed
  refine ⟨step, middle, left, written, outcome, arrives, named, takesBack, fun settled tree same => ?_⟩
  have paths : TargetPaths top pipeline.targets :=
    ⟨fault?_of_flaws (accepted_of_run failed nofun).1, spelled, apart⟩
  have within : ∀ path ∈ step.targets, path ∈ pipeline.targets := by
    obtain ⟨earlier, later, report, split, -⟩ := arrives
    exact pipeline.within_targets step (by simp [split])
  obtain ⟨⟨stage, exits, answer, -, -, events⟩, restores, -⟩ := takesBack
  exact Unfolds.reverted paths within settled (kept.trans plain) events tree same restores

/-- A tree that has no more than files and directories at its top is one. -/
theorem Files.isTree_of_flat {files : Files}
    (flat : files.nodes.all (fun entry => entry.1.length == 1) = true)
    : files.IsTree := by
  intro place name found
  rw [node?, if_neg (by simp)] at found
  obtain ⟨node, there⟩ := Option.isSome_iff_exists.mp found
  have length := List.all_eq_true.mp flat _ (Dictionary.mem_of_get? there)
  obtain rfl : place = [] := by simpa using length
  rfl

/-- A step that writes two files and runs a command. -/
def Step.pairing : Step where
  name := "write"
  mutations := [.writeNew ⟨"a.txt", []⟩ "first\n", .writeNew ⟨"b.txt", []⟩ "second\n"]
  commands := ["spoil"]

def Pipeline.pairing : Pipeline where
  name := "notes"
  steps := [.pairing]

/-- The collaborators of a rehearsal in which a command puts a directory in the place of a file and does
not succeed.
-/
def Collaborators.spoiling (file : String) : Collaborators Notes where
  command := Notes.command
    [("spoil", { remove := [⟨file, []⟩], make := [⟨file, []⟩], outcome := .ok ⟨some 1, ""⟩ })]
  checkpoint := Notes.checkpoint []
  template name _ notes := (.error (.ofMessage name), notes)

/-- The tree that the command leaves. -/
def Files.spoilt (file : String) : Files :=
  let setup : RunSetup Notes := { collaborators := .spoiling file }
  let attempted := ((Step.pairing.attempt setup []).run.run (.blank "notes")).2
  ((setup.collaborators.command ⟨"", [""]⟩ "spoil").run.run attempted.surroundings).2.files

/-- What the step takes back are its two files, from the tree that its command leaves. -/
theorem Step.TakesBack.spoilt {file line : String} {left after : Scene Notes} {written : Written}
    {outcome : Except Failure Workspace}
    (takesBack : pairing.TakesBack { collaborators := .spoiling file } [] line (.blank "notes") left after
      written outcome)
    : left.files = .spoilt file ∧ written = [(⟨"a.txt", []⟩, none), (⟨"b.txt", []⟩, none)] := by
  obtain ⟨⟨stage, exits, answer, -, ⟨⟨rest, commands⟩, -⟩, events⟩, -⟩ := takesBack
  obtain ⟨rfl, rfl⟩ : exits = [] ∧ line = "spoil" := by
    cases exits with
    | nil => exact ⟨rfl, (List.cons.inj commands).1.symm⟩
    | cons => simp [pairing] at commands
  rw [writtenEvents, List.append_assoc] at events
  obtain ⟨committed, commits, ran⟩ := events.split
  have attempted := attempt_of_events commits
  have rooted := commits.keeps.1
  cases ran with
  | cons ran none =>
      cases none
      obtain ⟨surroundings, ran, rfl⟩ := ran
      rw [rooted] at ran
      constructor
      · rw [Files.spoilt, attempted]
        exact (congrArg (·.2.files) ran).symm
      · have list : ((pairing.attempt { collaborators := .spoiling file } []).run.run
            (.blank "notes")).1.toOption.map (·.2)
            = some [(⟨"a.txt", []⟩, none), (⟨"b.txt", []⟩, none)] := by
          rfl
        rw [attempted] at list
        exact Option.some.inj list

theorem Pipeline.pairing_spelled : ∀ path ∈ pairing.targets, path.IsSpelled := by
  rw [show pairing.targets = [⟨"a.txt", []⟩, ⟨"b.txt", []⟩] from rfl]
  simp only [List.forall_mem_cons]
  exact ⟨⟨"a.txt", rfl⟩, ⟨"b.txt", rfl⟩, by simp⟩

theorem Pipeline.pairing_apart
    : ∀ path ∈ pairing.targets, ∀ other ∈ pairing.targets, path.names ≠ [] →
        ¬ beside ([] ++ path.names) <+: [] ++ other.names := by
  rw [show pairing.targets = [⟨"a.txt", []⟩, ⟨"b.txt", []⟩] from rfl]
  decide

/-- A run of the pipeline arrives at its only step, where it starts. -/
theorem Pipeline.ArrivesAt.pairing {setup : RunSetup σ} {scene : Scene σ} {step : Step} {middle : Scene σ}
    (arrives : Pipeline.pairing.ArrivesAt setup scene step middle)
    : step = .pairing ∧ middle = scene := by
  obtain ⟨earlier, later, report, split, ran⟩ := arrives
  cases earlier with
  | nil =>
      cases ran
      exact ⟨(List.cons.inj split).1.symm, rfl⟩
  | cons => simp [Pipeline.pairing] at split

/-- The second file is removed although there is a directory in the place of the first. -/
theorem Pipeline.run_reverted_pairing
    : ∃ after,
        (pairing.run { collaborators := .spoiling "a.txt" }).run.run (.blank "notes")
          = (.error (.commandFailed "write" "spoil" (some 1) ""), after)
        ∧ after.files.node? ["b.txt"] = none := by
  have failed : (pairing.run { collaborators := .spoiling "a.txt" }).run.run (.blank "notes")
      = (.error (.commandFailed "write" "spoil" (some 1) ""),
          ((pairing.run { collaborators := .spoiling "a.txt" }).run.run (.blank "notes")).2) :=
    Prod.ext rfl rfl
  refine ⟨_, failed, ?_⟩
  obtain ⟨step, middle, left, written, outcome, arrives, -, takesBack, reverts⟩ :=
    run_reverted pairing_spelled pairing_apart rfl failed
  obtain ⟨rfl, rfl⟩ := arrives.pairing
  obtain ⟨spoilt, rfl⟩ := takesBack.spoilt
  have tree : (Files.spoilt "a.txt").IsTree := isTree_of_flat (by decide +kernel)
  obtain ⟨-, reverted⟩ := reverts (.empty _) (spoilt ▸ tree) (spoilt ▸ rfl)
  have revertible : Revertible left.files ⟨"", [""]⟩ [] (⟨"b.txt", []⟩, none) := by
    rw [spoilt]
    exact revertible_of_removed rfl (by decide +kernel) rfl
  obtain ⟨executable, gone⟩ := reverted.holds [_] _ [] rfl (by simpa using revertible)
  exact gone

/-- The first file is left, although it could be removed, if there is a directory in the place of the
second, which is to be removed before it.
-/
theorem Pipeline.run_unreverted
    : ∃ step middle left after written outcome,
        (pairing.run { collaborators := .spoiling "b.txt" }).run.run (.blank "notes")
          = (.error (.commandFailed "write" "spoil" (some 1) ""), after)
        ∧ pairing.ArrivesAt { collaborators := .spoiling "b.txt" } (.blank "notes") step middle
        ∧ step.TakesBack { collaborators := .spoiling "b.txt" } [] "spoil" middle left after written outcome
        ∧ ∃ entry ∈ written,
            Revertible left.files ⟨"", [""]⟩ [] entry
            ∧ middle.files.node? entry.1.names = none
            ∧ after.files.content? entry.1.names = some "first\n".toUTF8 := by
  have failed : (pairing.run { collaborators := .spoiling "b.txt" }).run.run (.blank "notes")
      = (.error (.commandFailed "write" "spoil" (some 1) ""),
          ((pairing.run { collaborators := .spoiling "b.txt" }).run.run (.blank "notes")).2) :=
    Prod.ext rfl rfl
  obtain ⟨step, middle, left, written, outcome, arrives, -, -, takesBack⟩ := takesBack_of_run rfl failed
  obtain ⟨rfl, rfl⟩ := arrives.pairing
  obtain ⟨spoilt, rfl⟩ := takesBack.spoilt
  refine ⟨_, _, left, _, _, outcome, failed, arrives, takesBack, (⟨"a.txt", []⟩, none), List.mem_cons_self,
    ?_, rfl, by decide +kernel⟩
  rw [spoilt]
  exact revertible_of_removed rfl (by decide +kernel) rfl

end Groundwork
