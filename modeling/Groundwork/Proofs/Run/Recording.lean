import Groundwork.Proofs.Run.Prediction
import Groundwork.Proofs.RunState.Store
import Groundwork.Proofs.Workspace.Calls

/-!
What runs leave recorded in the file of their run state: the steps that it listed before, and those
that came to their end, whatever became of the others. Nothing but the run itself may touch the file.
-/

namespace Groundwork

open Files Path Workspace

variable {σ : Type} {base location : Location} {root path : Path} {setup : RunSetup σ}
  {options : Options} {step : Step} {steps : List Step} {before middle after : Scene σ}
  {events : List RunEvent}

-----------------------------------------------------------------------------------------
-- Steps that came to their end
-----------------------------------------------------------------------------------------

/-- A step came to its end: its files were written, all of its commands succeeded, its checkpoint was
accepted and the run state was written.
-/
def Step.Finished (step : Step) (path : Path) (events : List RunEvent) : Prop :=
  ∃ stage written exits,
    step.AllSucceed exits
    ∧ events
      = writtenEvents stage written exits
        ++ [.checkpointed step.name (.ok ()), .recorded step.name, .saved path (.ok ())]

/-- The run state was written last. -/
theorem Step.Finished.saved (finished : step.Finished path events)
    : .saved path (.ok ()) ∈ events := by
  obtain ⟨stage, written, exits, -, rfl⟩ := finished
  simp

/-- The events of a step end well exactly if it came to its end; by cases on where they end. -/
theorem StepEvents.finished_iff {outcome : Except RunFault StepStatus}
    (order : StepEvents step (some path) events outcome)
    : step.Finished path events ↔ ∃ status, outcome = .ok status := by
  constructor
  · intro finished
    have saved := finished.saved
    cases order with
    | unstaged | uncommitted => simp at saved
    | stopped | refused => simp [writtenEvents, RunEvent.succeeded] at saved
    | unsaved => simp [writtenEvents, RunEvent.succeeded] at saved
    | applied => exact ⟨_, rfl⟩
  · rintro ⟨status, passed⟩
    cases order with
    | unstaged | uncommitted | stopped | refused | unsaved => cases passed
    | applied stage written exits commands =>
        exact ⟨stage, written, exits, commands, by simp⟩

-----------------------------------------------------------------------------------------
-- Where runs come to
-----------------------------------------------------------------------------------------

/-- A run of steps comes to one of them: those before it ended well. -/
inductive Pipeline.Reaches (setup : RunSetup σ) (options : Options)
    : List Step → Scene σ → Step → Scene σ → Prop
  | first (step rest scene) : Reaches setup options (step :: rest) scene step scene
  | later {step rest before events status middle other scene}
    (passed : StepHistory setup options step before events (.ok status) middle)
    (further : Reaches setup options rest middle other scene)
    : Reaches setup options (step :: rest) before other scene

/-- A step comes to a command: what it did before that ended well. -/
def Step.ComesTo (step : Step) (setup : RunSetup σ) (options : Options) (before : Scene σ)
    (line : String) (surroundings : Surroundings σ)
    : Prop :=
  ∃ front answer back outcome middle after,
    StepHistory setup options step before (front ++ .ran line answer :: back) outcome after
    ∧ Unfolds setup options step before front middle
    ∧ surroundings = middle.surroundings

theorem Pipeline.Reaches.mem {scene : Scene σ}
    (reaches : Reaches setup options steps before step scene)
    : step ∈ steps := by
  induction reaches with
  | first step rest scene => exact List.mem_cons_self
  | later passed further ih => exact List.mem_cons_of_mem _ ih

/-- A command that a step comes to is one of its commands; by cases on where its events end. -/
theorem Step.ComesTo.mem {line : String} {surroundings : Surroundings σ}
    (comes : step.ComesTo setup options before line surroundings)
    : line ∈ step.commands := by
  obtain ⟨front, answer, back, outcome, middle, after, history, -⟩ := comes
  generalize named : front ++ .ran line answer :: back = events at history
  have member : .ran line answer ∈ events := by simp [← named]
  cases history with
  | completed | guarded => cases member
  | handled due on effects order =>
      have among {exits : List (String × CommandExit)}
          (member : .ran line answer ∈ exits.map RunEvent.succeeded)
          : line ∈ exits.map Prod.fst := by
        obtain ⟨exit, inside, same⟩ := List.mem_map.mp member
        cases same
        exact List.mem_map_of_mem inside
      cases order with
      | unstaged | uncommitted => simp at member
      | stopped stage written exits last fault _ stops =>
          obtain ⟨⟨rest, commands⟩, -⟩ := stops
          simp only [writtenEvents, List.mem_append, List.mem_cons, List.not_mem_nil, reduceCtorEq,
            RunEvent.ran.injEq, false_or, or_false] at member
          rw [commands]
          rcases member with before | ⟨rfl, -⟩
          · exact List.mem_append_left _ (among before)
          · simp
      | refused | unsaved =>
          simp only [writtenEvents, List.mem_append, List.mem_cons, List.not_mem_nil, reduceCtorEq,
            false_or, or_false] at member
          rw [‹step.AllSucceed _›.1]
          exact among member
      | applied stage written exits commands =>
          simp only [writtenEvents, List.mem_append, List.mem_cons, List.not_mem_nil, reduceCtorEq,
            false_or, or_false] at member
          rcases member with before | saved
          · exact commands.1 ▸ among before
          · simp at saved

/-- The commands of a step that it comes to leave the file at a path as it is. -/
def Step.CommandsSpare (step : Step) (setup : RunSetup σ) (options : Options) (root path : Path)
    (before : Scene σ)
    : Prop :=
  ∀ line surroundings, step.ComesTo setup options before line surroundings →
    Spares path surroundings.files
      ((setup.collaborators.command root line).run.run surroundings).2.files

-----------------------------------------------------------------------------------------
-- Parts of a step that leave the file of the run state as it is
-----------------------------------------------------------------------------------------

/-- A run whose run state is kept in a file that no target takes and no checkpoint touches. -/
structure RunSetup.KeepsState (setup : RunSetup σ) (base location : Location) (root path : Path)
    (targets : List Path)
    : Prop where
  statePath : setup.statePath = some path
  isKept : RunState.IsKeptAt base location path
  lasting : ¬ IsTemporary location
  targets : ∀ target ∈ targets, Avoids base location (root.join target)
  checkpoints : ∀ message surroundings,
    Spares path surroundings.files
      ((setup.collaborators.checkpoint message).run.run surroundings).2.files

/-- A scene on the tree whose run state is the one in its file. -/
structure Scene.Agrees (base : Location) (root path : Path) (scene : Scene σ) : Prop where
  plain : scene.workspace = ⟨root, false, []⟩
  base : scene.files.base = base
  recorded : RunState.Recorded scene.files path scene.state.pipeline scene.state.completed

variable {targets : List Path}

/-- Working out a step and committing it spares the file of the run state, and what was written can be
put back without touching it.
-/
theorem Unfolds.committed_spares (keeps : setup.KeepsState base location root path targets)
    (within : ∀ target ∈ step.targets, target ∈ targets) (agrees : before.Agrees base root path)
    {stage : Stage} {outcome : Except Failure Written}
    (effects : Unfolds setup options step before [.staged (.ok stage), .committed stage outcome] middle)
    : Spares path before.files middle.files
      ∧ ∀ written, outcome = .ok written →
        ∀ entry ∈ written, Avoids base location (root.join entry.1) := by
  cases effects with
  | cons staged rest =>
      cases rest with
      | cons committed none =>
          cases none
          obtain ⟨staged, names, -, rfl⟩ := staged
          obtain ⟨files, ran, rfl⟩ := committed
          have holds := step.stageMutations_holds staged
          have rooted : before.workspace.root = root := by rw [agrees.plain]
          have apart : ∀ file ∈ stage.changed,
              Avoids base location (before.workspace.root.join file.path) := by
            intro file member
            rw [rooted]
            exact keeps.targets _ (within _ (holds.of_changed member).1)
          obtain ⟨spares, avoids⟩ := commit_spares keeps.lasting apart
          refine ⟨keeps.isKept.spares agrees.recorded.shows_ agrees.base spares ran, ?_⟩
          rintro written rfl entry member
          rw [← rooted]
          exact avoids _ _ _ ran entry member

/-- Commands that a step comes to spare the file of the run state if each of them does; by induction on
those that are still to come.
-/
theorem Unfolds.ran_spares {first second third : List RunEvent}
    {outcome : Except RunFault StepStatus} {last : Scene σ}
    (spare : step.CommandsSpare setup options root path before)
    (history : StepHistory setup options step before (first ++ second ++ third) outcome last)
    (head : Unfolds setup options step before first middle)
    (rooted : middle.workspace.root = root)
    (commands : ∀ event ∈ second, ∃ line answer, event = .ran line answer)
    (effects : Unfolds setup options step middle second after)
    : Spares path middle.files after.files := by
  induction second generalizing first middle with
  | nil =>
      cases effects
      exact .refl path _
  | cons event rest ih =>
      obtain ⟨⟨line, answer, rfl⟩, others⟩ := List.forall_mem_cons.mp commands
      cases effects with
      | cons lead later =>
          have comes : step.ComesTo setup options before line middle.surroundings := by
            rw [List.append_assoc, List.cons_append] at history
            exact ⟨first, answer, rest ++ third, outcome, middle, last, history, head, rfl⟩
          have here := spare line middle.surroundings comes
          have taken := head.append (.single lead)
          have rooted' := lead.keeps.1
          obtain ⟨surroundings, ran, rfl⟩ := lead
          rw [rooted] at ran
          rw [ran] at here
          refine here.trans (ih ?_ taken (by rw [rooted', rooted]) others later)
          simpa only [List.append_assoc, List.cons_append, List.nil_append] using history

/-- A step whose commands succeeded so far has spared the file of the run state. -/
theorem Unfolds.written_spares (keeps : setup.KeepsState base location root path targets)
    (within : ∀ target ∈ step.targets, target ∈ targets) (agrees : before.Agrees base root path)
    (spare : step.CommandsSpare setup options root path before) {stage : Stage} {written : Written}
    {rans more : List RunEvent} {outcome : Except RunFault StepStatus}
    (history : StepHistory setup options step before
      ([.staged (.ok stage), .committed stage (.ok written)] ++ rans ++ more) outcome after)
    (commands : ∀ event ∈ rans, ∃ line answer, event = .ran line answer)
    (effects : Unfolds setup options step before
      ([.staged (.ok stage), .committed stage (.ok written)] ++ rans ++ more) after)
    : ∃ middle,
        Unfolds setup options step middle more after
        ∧ Spares path before.files middle.files
        ∧ middle.workspace = ⟨root, false, []⟩
        ∧ middle.state = before.state
        ∧ ∀ entry ∈ written, Avoids base location (root.join entry.1) := by
  rw [List.append_assoc] at effects
  obtain ⟨moved, commits, effects⟩ := effects.split
  obtain ⟨middle, ran, effects⟩ := effects.split
  obtain ⟨spares, avoids⟩ := commits.committed_spares keeps within agrees
  have plain : moved.workspace = ⟨root, false, []⟩ := commits.keeps.1.trans agrees.plain
  have rooted : moved.workspace.root = root := by rw [plain]
  have spared := Unfolds.ran_spares spare history commits rooted commands ran
  refine ⟨middle, effects, spares.trans spared, ran.keeps.1.trans plain, ?_, avoids written rfl⟩
  have silent : rans.filterMap RunEvent.recorded? = [] := by
    refine List.filterMap_eq_nil_iff.mpr fun event member => ?_
    obtain ⟨line, answer, rfl⟩ := commands event member
    rfl
  rw [ran.keeps.2, commits.keeps.2, silent]
  simp [List.filterMap_cons, RunEvent.recorded?]

/-- Commands that succeeded were run. -/
theorem RunEvent.ran_of_succeeded {exits : List (String × CommandExit)}
    : ∀ event ∈ exits.map RunEvent.succeeded, ∃ line answer, event = .ran line answer := by
  intro event member
  obtain ⟨exit, -, rfl⟩ := List.mem_map.mp member
  exact ⟨_, _, rfl⟩

/-- A step that stops at a command and puts back what it wrote has spared the file of the run state. -/
theorem Unfolds.stopped_spares (keeps : setup.KeepsState base location root path targets)
    (within : ∀ target ∈ step.targets, target ∈ targets) (agrees : before.Agrees base root path)
    (spare : step.CommandsSpare setup options root path before) {stage : Stage} {written : Written}
    {exits : List (String × CommandExit)} {line : String} {answer : Except Failure CommandExit}
    {outcome : Except RunFault StepStatus}
    (history : StepHistory setup options step before
      (writtenEvents stage written exits ++ [.ran line answer, .undone written]) outcome after)
    (effects : Unfolds setup options step before
      (writtenEvents stage written exits ++ [.ran line answer, .undone written]) after)
    : Spares path before.files after.files := by
  have split : writtenEvents stage written exits ++ [.ran line answer, .undone written]
      = [.staged (.ok stage), .committed stage (.ok written)]
        ++ (exits.map .succeeded ++ [.ran line answer]) ++ [.undone written] := by
    simp [writtenEvents]
  rw [split] at effects history
  have ran : ∀ event ∈ exits.map RunEvent.succeeded ++ [.ran line answer],
      ∃ line answer, event = .ran line answer :=
    List.forall_mem_append.mpr
      ⟨RunEvent.ran_of_succeeded, List.forall_mem_singleton.mpr ⟨line, answer, rfl⟩⟩
  obtain ⟨middle, rest, spares, plain, -, avoids⟩ :=
    effects.written_spares keeps within agrees spare history ran
  cases rest with
  | cons undone none =>
      cases none
      obtain ⟨result, files, restores, rfl⟩ := undone
      have rooted : middle.workspace.root = root := by rw [plain]
      have back := restore_spares keeps.lasting (rooted ▸ avoids)
      refine spares.trans (keeps.isKept.spares ?_ ?_ back restores)
      · exact spares.shows agrees.recorded.shows_
      · exact spares.base.trans agrees.base

/-- A step whose checkpoint is refused has spared the file of the run state. -/
theorem Unfolds.refused_spares (keeps : setup.KeepsState base location root path targets)
    (within : ∀ target ∈ step.targets, target ∈ targets) (agrees : before.Agrees base root path)
    (spare : step.CommandsSpare setup options root path before) {stage : Stage} {written : Written}
    {exits : List (String × CommandExit)} {failure : Failure} {outcome : Except RunFault StepStatus}
    (history : StepHistory setup options step before
      (writtenEvents stage written exits ++ [.checkpointed step.name (.error failure)]) outcome after)
    (effects : Unfolds setup options step before
      (writtenEvents stage written exits ++ [.checkpointed step.name (.error failure)]) after)
    : Spares path before.files after.files := by
  obtain ⟨middle, rest, spares, -⟩ :=
    effects.written_spares keeps within agrees spare history RunEvent.ran_of_succeeded
  cases rest with
  | cons checkpointed none =>
      cases none
      obtain ⟨surroundings, asked, rfl⟩ := checkpointed
      have kept := keeps.checkpoints step.name middle.surroundings
      rw [asked] at kept
      exact spares.trans kept

/-- Recording a step and writing the run state leaves it in the file, or leaves the file as it was if it
cannot be written.
-/
theorem Unfolds.saved_recorded (keeps : setup.KeepsState base location root path targets)
    (start : middle.files.base = base) {recorded : List String}
    (before_ : RunState.Recorded middle.files path middle.state.pipeline recorded)
    {result : Except Failure Unit}
    (effects : Unfolds setup options step middle
      [.checkpointed step.name (.ok ()), .recorded step.name, .saved path result] after)
    : after.files.base = base
      ∧ after.workspace = middle.workspace
      ∧ after.state = { middle.state with completed := middle.state.completed ++ [step.name] }
      ∧ (∀ failure, result = .error failure →
        RunState.Recorded after.files path middle.state.pipeline recorded)
      ∧ (result = .ok () →
        RunState.Recorded after.files path after.state.pipeline after.state.completed) := by
  have kept := effects.keeps
  cases effects with
  | cons checkpointed rest =>
      obtain ⟨surroundings, asked, rfl⟩ := checkpointed
      have spares := keeps.checkpoints step.name middle.surroundings
      rw [asked] at spares
      have there := before_.spares spares
      have start := spares.base.trans start
      cases rest with
      | cons record rest =>
          obtain ⟨-, rfl⟩ := record
          cases rest with
          | cons saved none =>
              cases none
              obtain ⟨files, wrote, rfl⟩ := saved
              obtain ⟨grown, fails, passes⟩ := there.write keeps.isKept start wrote
              refine ⟨grown.base.trans start, rfl, rfl, fun failure failed => ?_, passes⟩
              exact there.spares (fails failure failed)

/-- What a step leaves recorded: its name too if it came to its end, else what was recorded before. -/
inductive StepRecording (base : Location) (root path : Path) (step : Step) (before : Scene σ)
    : List RunEvent → Except RunFault StepStatus → Scene σ → Prop
  | passed (reason : SkipReason) : StepRecording base root path step before [] (.ok (.skipped reason)) before
  | finished {events status after} (finished : step.Finished path events)
    (agrees : after.Agrees base root path)
    (state : after.state
      = { before.state with completed := before.state.completed ++ [step.name] })
    : StepRecording base root path step before events (.ok status) after
  | failed {events fault after} (unfinished : ¬ step.Finished path events)
    (recorded : RunState.Recorded after.files path before.state.pipeline before.state.completed)
    : StepRecording base root path step before events (.error fault) after

/-- A step records its name if it comes to its end, and nothing else; by cases on where its events end.
-/
theorem StepHistory.recording (keeps : setup.KeepsState base location root path targets)
    (within : ∀ target ∈ step.targets, target ∈ targets) (agrees : before.Agrees base root path)
    (spare : step.CommandsSpare setup options root path before)
    {outcome : Except RunFault StepStatus}
    (history : StepHistory setup options step before events outcome after)
    : StepRecording base root path step before events outcome after := by
  have whole := history
  cases history with
  | completed done => exact .passed .completed
  | guarded due off => exact .passed .guard
  | handled due on effects order =>
      rw [keeps.statePath] at order
      have finished := order.finished_iff
      have unfinished {fault : RunFault} (failing : outcome = .error fault)
          : ¬ step.Finished path events := by
        intro ended
        obtain ⟨status, passed⟩ := finished.mp ended
        cases failing.symm.trans passed
      have failed {fault : RunFault} (failing : outcome = .error fault)
          (spares : Spares path before.files after.files)
          : StepRecording base root path step before events outcome after := by
        have lost := unfinished failing
        subst failing
        exact .failed lost (agrees.recorded.spares spares)
      cases order with
      | unstaged fault =>
          cases effects with
          | cons staged none =>
              cases none
              obtain ⟨-, names, -, rfl⟩ := staged
              exact failed rfl (.refl path _)
      | uncommitted stage failure =>
          exact failed rfl (effects.committed_spares keeps within agrees).1
      | stopped =>
          exact failed rfl (effects.stopped_spares keeps within agrees spare whole)
      | refused =>
          exact failed rfl (effects.refused_spares keeps within agrees spare whole)
      | unsaved stage written exits _ failure commands kept =>
          cases kept
          rw [writtenEvents] at effects whole
          obtain ⟨middle, rest, spares, -, state, -⟩ :=
            effects.written_spares keeps within agrees spare whole RunEvent.ran_of_succeeded
          have there := agrees.recorded.spares spares
          rw [← state] at there
          obtain ⟨-, -, -, lost, -⟩ :=
            rest.saved_recorded keeps (spares.base.trans agrees.base) there
          have lost := lost failure rfl
          rw [state] at lost
          exact .failed (unfinished rfl) lost
      | applied stage written exits commands =>
          have events : writtenEvents stage written exits
                ++ [.checkpointed step.name (.ok ()), .recorded step.name]
                ++ ((some path).map (RunEvent.saved · (.ok ()))).toList
              = [.staged (.ok stage), .committed stage (.ok written)] ++ exits.map .succeeded
                ++ [.checkpointed step.name (.ok ()), .recorded step.name, .saved path (.ok ())] := by
            simp [writtenEvents]
          have ended := finished.mpr ⟨_, rfl⟩
          rw [events] at effects whole ended ⊢
          obtain ⟨middle, rest, spares, plain, state, -⟩ :=
            effects.written_spares keeps within agrees spare whole RunEvent.ran_of_succeeded
          have there := agrees.recorded.spares spares
          rw [← state] at there
          obtain ⟨start, workspace, recorded, -, saved⟩ :=
            rest.saved_recorded keeps (spares.base.trans agrees.base) there
          refine .finished ended ⟨workspace.trans plain, start, saved rfl⟩ ?_
          rw [recorded, state]

-----------------------------------------------------------------------------------------
-- What whole runs leave recorded
-----------------------------------------------------------------------------------------

/-- A run leaves recorded what was recorded before and the steps that came to their end; by induction
on its history.
-/
theorem RunHistory.recording (keeps : setup.KeepsState base location root path targets)
    (within : ∀ step ∈ steps, ∀ target ∈ step.targets, target ∈ targets)
    (agrees : before.Agrees base root path)
    (spare : ∀ step scene, Pipeline.Reaches setup options steps before step scene →
      step.CommandsSpare setup options root path scene)
    {history : List (Step × List RunEvent)} {outcome : Except RunFault RunReport}
    (run : RunHistory setup options steps before history outcome after)
    : ∃ finished : List String,
        RunState.Recorded after.files path before.state.pipeline (before.state.completed ++ finished)
        ∧ ∀ name, name ∈ finished
          ↔ ∃ entry ∈ history, entry.1.name = name ∧ entry.1.Finished path entry.2 := by
  induction run with
  | finished scene =>
      refine ⟨[], ?_, by simp⟩
      rw [List.append_nil]
      exact agrees.recorded
  | @halted step rest before events fault after failed =>
      have ended := failed.recording keeps (within step List.mem_cons_self) agrees
        (spare step before (.first step rest before))
      cases ended with
      | failed unfinished recorded =>
          refine ⟨[], ?_, by simp [unfinished]⟩
          rw [List.append_nil]
          exact recorded
  | @continued step rest before events status middle history outcome after passed later ih =>
      have ended := passed.recording keeps (within step List.mem_cons_self) agrees
        (spare step before (.first step rest before))
      have others : ∀ step ∈ rest, ∀ target ∈ step.targets, target ∈ targets :=
        fun other member => within other (List.mem_cons_of_mem _ member)
      have further : ∀ step scene, Pipeline.Reaches setup options rest middle step scene →
          step.CommandsSpare setup options root path scene :=
        fun other scene reaches => spare other scene (.later passed reaches)
      cases ended with
      | passed reason =>
          have unfinished : ¬ step.Finished path [] := fun ended => by simpa using ended.saved
          obtain ⟨finished, recorded, names⟩ := ih others agrees further
          exact ⟨finished, recorded, fun name => by simp [names, unfinished]⟩
      | finished ended agrees' state =>
          obtain ⟨finished, recorded, names⟩ := ih others agrees' further
          refine ⟨step.name :: finished, ?_, fun name => ?_⟩
          · rw [state] at recorded
            simpa using recorded
          · simp [names, ended, eq_comm]

-----------------------------------------------------------------------------------------
-- Which steps a run passes over as completed
-----------------------------------------------------------------------------------------

/-- A run of a pipeline arrives at one of its steps: those before it ended well. -/
def Pipeline.ArrivesAt (pipeline : Pipeline) (setup : RunSetup σ) (start : Scene σ) (step : Step)
    (scene : Scene σ)
    : Prop :=
  ∃ earlier later report,
    pipeline.steps = earlier ++ step :: later
    ∧ (runSteps setup (Dictionary.layer pipeline.options setup.options) earlier).run.run start
      = (.ok report, scene)

/-- A step that a run arrives at is completed there exactly if it was completed at the start, for the
run has recorded other steps only, or none if it is dry.
-/
theorem Pipeline.ArrivesAt.completed_iff {pipeline : Pipeline} {start scene : Scene σ}
    (arrives : pipeline.ArrivesAt setup start step scene)
    (distinct : (pipeline.steps.map (·.name)).Nodup)
    : step ∈ pipeline.steps
      ∧ (step.name ∈ scene.state.completed ↔ step.name ∈ start.state.completed) := by
  obtain ⟨earlier, later, report, split, ran⟩ := arrives
  refine ⟨by simp [split], ?_⟩
  cases dry : start.workspace.dryRun with
  | true =>
      obtain ⟨outcome, names, overlay, ran'⟩ := runSteps_dry setup
        (Dictionary.layer pipeline.options setup.options) earlier dry
      cases ran.symm.trans ran'
      rfl
  | false =>
      obtain ⟨history, outcome, after, ran', run, -⟩ := runSteps_history setup
        (Dictionary.layer pipeline.options setup.options) earlier dry
      cases ran.symm.trans ran'
      obtain ⟨state, recorded⟩ := run.completed
      have other : step.name ∉ acceptedMessages history := by
        intro again
        rw [split, List.map_append, List.map_cons] at distinct
        have apart := (List.nodup_append.mp distinct).2.2
        exact apart _ (recorded.subset again) _ List.mem_cons_self rfl
      simp [state, other]

/-- A step is passed over for a reason exactly if there is that to say against it; a step that is due is
worked out in a dry run, and has a history in a run on the tree.
-/
theorem Step.run_skipped_iff {scene : Scene σ} {reason : SkipReason}
    : (∃ after, (step.run setup options).run.run scene = (.ok (.skipped reason), after))
      ↔ step.skip? options scene.state = some reason := by
  cases skips : step.skip? options scene.state with
  | some other =>
      rw [Step.run_eq_skip?, skips]
      exact ⟨fun ⟨_, ran⟩ => by cases ran; rfl, fun same => ⟨scene, by cases same; rfl⟩⟩
  | none =>
      refine iff_of_false ?_ (by simp)
      rintro ⟨after, ran⟩
      cases dry : scene.workspace.dryRun with
      | true =>
          obtain ⟨staging, names, staged, -⟩ :=
            step.stageMutations_consulting setup.collaborators options scene
          rw [Step.run_dry skips dry staged] at ran
          cases staging <;> cases ran
      | false =>
          obtain ⟨events, outcome, after, ran', history⟩ := step.run_stepHistory setup options dry
          cases ran.symm.trans ran'
          cases history with
          | completed done => simp [Step.skip?, RunState.isCompleted, done] at skips
          | guarded due off => simp [Step.skip?, RunState.isCompleted, due, off] at skips
          | handled due on effects order => cases order

/-- A step is passed over as completed exactly if it is. -/
theorem Step.run_completed_iff {scene : Scene σ}
    : (∃ after, (step.run setup options).run.run scene = (.ok (.skipped .completed), after))
      ↔ step.name ∈ scene.state.completed := by
  rw [Step.run_skipped_iff, Step.skip?]
  by_cases done : step.name ∈ scene.state.completed
  · simp [RunState.isCompleted, done]
  · have due : scene.state.isCompleted step.name = false := by simp [RunState.isCompleted, done]
    simp only [due, done, Bool.false_eq_true, if_false, iff_false]
    split <;> simp

end Groundwork
