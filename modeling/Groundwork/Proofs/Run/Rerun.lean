import Groundwork.Proofs.Run.Prediction
import Groundwork.Proofs.Run.Resumption

/-!
Runs from the run state that another run left, on any tree and with any collaborators. After a run
that was finished nothing is left to do; after one that failed, the steps before the failed one are
passed over, and that step is taken up again unless it was recorded before its record was lost.
-/

namespace Groundwork

variable {σ τ : Type} {setup : RunSetup σ} {options : Options} {step : Step} {steps : List Step}
  {before after scene : Scene σ} {history : List (Step × List RunEvent)}

-----------------------------------------------------------------------------------------
-- What is passed over after a step and after a run
-----------------------------------------------------------------------------------------

/-- A step that came to its end is passed over from then on: it was passed over before, or it was
recorded; by cases on what became of it.
-/
theorem StepHistory.skips {events : List RunEvent} {status : StepStatus}
    (passed : StepHistory setup options step before events (.ok status) after)
    : (step.skip? options after.state).isSome := by
  have kept := passed.keeps.2
  cases passed with
  | completed done => simp [Step.skip?, RunState.isCompleted, done]
  | guarded due off => simp [Step.skip?, RunState.isCompleted, due, off]
  | handled due on effects order =>
      have recorded : step.name ∈ after.state.completed := by
        rw [kept]
        cases order
        simp [writtenEvents, List.filterMap_cons, RunEvent.recorded?]
      simp [Step.skip?, RunState.isCompleted, recorded]

/-- Completed steps stay completed throughout a run. -/
theorem RunHistory.skip?_mono {outcome : Except RunFault RunReport}
    (run : RunHistory setup options steps before history outcome after)
    (skips : (step.skip? options before.state).isSome)
    : (step.skip? options after.state).isSome := by
  refine Step.skip?_mono (fun name found => ?_) skips
  rw [run.completed.1]
  exact List.mem_append_left _ found

/-- After a run that was finished all of its steps are passed over; by induction on its history. -/
theorem RunHistory.skips {report : RunReport}
    (run : RunHistory setup options steps before history (.ok report) after)
    : ∀ step ∈ steps, (step.skip? options after.state).isSome := by
  generalize ended : Except.ok report = outcome at run
  induction run generalizing report with
  | finished scene => nofun
  | halted failed => cases ended
  | @continued step rest before events status middle history outcome after passed later ih =>
      cases outcome with
      | error fault => cases ended
      | ok report => exact List.forall_mem_cons.mpr ⟨later.skip?_mono passed.skips, ih rfl⟩

/-- Steps that are all passed over are reported so, and nothing is done. -/
theorem Pipeline.runSteps_skips (setup : RunSetup σ)
    (skips : ∀ step ∈ steps, (step.skip? options scene.state).isSome)
    : (runSteps setup options steps).run.run scene
      = (.ok (steps.map (·.passedOver scene.state)), scene) := by
  have passed := runSteps_skip setup skips []
  rw [List.append_nil] at passed
  exact passed.trans (Prod.ext (congrArg Except.ok (List.append_nil _)) rfl)

/-- The history of steps that are all passed over has no events; by induction on the steps. -/
theorem RunHistory.of_skips (setup : RunSetup σ)
    (skips : ∀ step ∈ steps, (step.skip? options scene.state).isSome)
    : RunHistory setup options steps scene (steps.map (·, []))
        (.ok (steps.map (·.passedOver scene.state))) scene := by
  induction steps with
  | nil => exact .finished scene
  | cons step rest ih =>
      rw [List.forall_mem_cons] at skips
      have reason := Step.skip?_isSome_iff.mp skips.1
      by_cases done : step.name ∈ scene.state.completed
      · have later := RunHistory.continued (.completed done) (ih skips.2)
        simpa [Step.passedOver, done, Except.map] using later
      · have off : step.guard.all (·.allows options) = false := by
          simpa [Step.skip?, RunState.isCompleted, done] using reason
        have later := RunHistory.continued (.guarded done off) (ih skips.2)
        simpa [Step.passedOver, done, Except.map] using later

-----------------------------------------------------------------------------------------
-- Where a run failed
-----------------------------------------------------------------------------------------

/-- A step that failed is recorded all the same exactly if it failed as its record was written to its
file, which is the last thing it does; by cases on where its events end.
-/
theorem StepHistory.recorded_iff {events : List RunEvent} {fault : RunFault}
    (failed : StepHistory setup options step before events (.error fault) after)
    : step.name ∈ after.state.completed ↔ ∃ path failure, .saved path (.error failure) ∈ events := by
  have kept := failed.keeps.2
  cases failed with
  | handled due on effects order =>
      rw [kept]
      cases order <;>
        simp [writtenEvents, List.filterMap_cons, RunEvent.recorded?, RunEvent.succeeded, due]

/-- A step that failed without a record is due again. -/
theorem StepHistory.due {events : List RunEvent} {fault : RunFault}
    (failed : StepHistory setup options step before events (.error fault) after)
    (unrecorded : step.name ∉ after.state.completed)
    : step.skip? options after.state = none := by
  cases failed with
  | handled due on effects order => exact Step.skip?_none unrecorded on

/-- A run that failed came to its end with some of the steps, then a step failed; by induction on its
history.
-/
theorem RunHistory.failed {fault : RunFault}
    (run : RunHistory setup options steps before history (.error fault) after)
    : ∃ earlier step later past events middle,
        steps = earlier ++ step :: later
        ∧ history = past ++ [(step, events)]
        ∧ past.map Prod.fst = earlier
        ∧ (∀ other ∈ earlier, (other.skip? options after.state).isSome)
        ∧ StepHistory setup options step middle events (.error fault) after := by
  generalize ended : Except.error fault = outcome at run
  induction run with
  | finished scene => cases ended
  | @halted step rest before events fault after failed =>
      cases ended
      exact ⟨[], step, rest, [], events, before, rfl, rfl, rfl, nofun, failed⟩
  | @continued first rest before events status middle history outcome after passed run ih =>
      cases outcome with
      | ok report => cases ended
      | error found =>
          cases ended
          obtain ⟨earlier, step, later, past, last, start, rfl, rfl, reached, skips, failed⟩ := ih rfl
          refine ⟨first :: earlier, step, later, (first, events) :: past, last, start, rfl, rfl,
            by simp [reached], List.forall_mem_cons.mpr ⟨run.skip?_mono passed.skips, skips⟩, failed⟩

-----------------------------------------------------------------------------------------
-- Runs of a pipeline from the run state that another left
-----------------------------------------------------------------------------------------

/-- A run that did not end with a malformed definition or a foreign run state is a run of the steps. -/
theorem Pipeline.accepted_of_run {pipeline : Pipeline} {outcome : Except RunFault RunReport}
    (ran : (pipeline.run setup).run.run scene = (outcome, after))
    (reached : ∀ reasons, outcome ≠ .error (.malformed reasons))
    : pipeline.flaws = [] ∧ scene.state.pipeline = pipeline.name := by
  rw [run, run_bind, RunAction.run_getScene] at ran
  by_cases sound : pipeline.flaws = []
  · by_cases own : scene.state.pipeline = pipeline.name
    · exact ⟨sound, own⟩
    · simp only [sound, List.isEmpty_nil, Bool.not_true, Bool.false_eq_true, if_false, bne_iff_ne, ne_eq,
        own, not_false_eq_true, if_true] at ran
      cases ran
      exact absurd rfl (reached _)
  · simp only [Bool.not_eq_true', List.isEmpty_eq_false_iff, ne_eq, sound, not_false_eq_true,
      if_true] at ran
    cases ran
    exact absurd rfl (reached _)

/-- A run on the tree that failed in a step had come to the end of all steps before it. The failed step
is recorded exactly if the record could not be written to its file. If it is not, any run from the run
state that is left, with the same options, passes over the steps before it and takes it up again, on
any tree and with any collaborators.
-/
theorem Pipeline.run_failed {pipeline : Pipeline} {fault : RunFault} {name : String}
    (wet : scene.workspace.dryRun = false)
    (ran : (pipeline.run setup).run.run scene = (.error fault, after))
    (blamed : fault.step? = some name)
    : ∃ earlier step later past events,
        pipeline.steps = earlier ++ step :: later
        ∧ step.name = name
        ∧ RunHistory setup (Dictionary.layer pipeline.options setup.options) pipeline.steps scene
          (past ++ [(step, events)]) (.error fault) after
        ∧ (name ∈ after.state.completed ↔ ∃ path failure, .saved path (.error failure) ∈ events)
        ∧ ((∀ path failure, .saved path (.error failure) ∉ events) →
          ∀ {τ : Type} (again : RunSetup τ) (start : Scene τ),
            again.options = setup.options →
            start.state = after.state →
            step.skip? (Dictionary.layer pipeline.options again.options) start.state = none
            ∧ (pipeline.run again).run.run start
              = (((runSteps again (Dictionary.layer pipeline.options again.options)
                    (step :: later)).run.run start).1.map
                  (earlier.map (·.passedOver start.state) ++ ·),
                ((runSteps again (Dictionary.layer pipeline.options again.options)
                    (step :: later)).run.run start).2)) := by
  obtain ⟨sound, own⟩ := accepted_of_run ran (by rintro reasons ⟨⟩; cases blamed)
  obtain ⟨history, outcome, ended, ran', run, -, -, named, -, state, -⟩ :=
    @run_history _ pipeline setup scene sound own wet
  cases ran.symm.trans ran'
  obtain ⟨_, step, events, rfl, blamed'⟩ := named fault rfl
  obtain ⟨earlier, _, later, past, _, middle, split, same, -, skips, failed⟩ := run.failed
  obtain ⟨rfl, ⟨⟩⟩ := List.append_inj' same rfl
  obtain rfl := Option.some.inj (blamed'.symm.trans blamed)
  refine ⟨earlier, step, later, _, events, split, rfl, run, failed.recorded_iff,
    fun kept _ again start options resumed => ?_⟩
  have unrecorded : step.name ∉ after.state.completed := fun found => by
    obtain ⟨path, failure, saved⟩ := failed.recorded_iff.mp found
    exact kept path failure saved
  refine ⟨by rw [options, resumed]; exact failed.due unrecorded, ?_⟩
  rw [run_eq again sound (by rw [resumed, state]; exact own), split]
  refine runSteps_skip again (fun other member => ?_) _
  rw [options, resumed]
  exact skips other member

/-- A run whose second step failed is taken up with that step. -/
theorem Pipeline.run_failed_noting
    : ∃ fault after,
        (noting.run { collaborators := .failing "false" }).run.run (.blank "notes")
          = (.error fault, after)
        ∧ "check" ∉ after.state.completed
        ∧ ∃ earlier step later,
          noting.steps = earlier ++ step :: later
          ∧ step.name = "check"
          ∧ ∀ start : Scene Notes, start.state = after.state →
              ∃ result,
                ((noting.run { collaborators := .willing }).run.run start).1
                  = Except.map (earlier.map (·.passedOver start.state) ++ ·) result := by
  have failed : faultOf? ((noting.run { collaborators := .failing "false" }).run.run (.blank "notes")).1
      = some (.commandFailed "check" "false" (some 1) "") := by
    decide +kernel
  have due : "check" ∉ ((noting.run { collaborators := .failing "false" }).run.run
      (.blank "notes")).2.state.completed := by
    decide +kernel
  rcases ran : (noting.run { collaborators := .failing "false" }).run.run (.blank "notes") with
    ⟨outcome, after⟩
  rw [ran] at failed due
  obtain rfl := eq_of_faultOf? failed
  obtain ⟨earlier, step, later, past, events, split, named, -, lost, resumes⟩ :=
    run_failed rfl ran rfl
  refine ⟨_, _, rfl, due, earlier, step, later, split, named, fun start resumed => ?_⟩
  obtain ⟨-, again⟩ := resumes (fun path failure saved => due (lost.mpr ⟨path, failure, saved⟩))
    { collaborators := .willing } start rfl resumed
  exact ⟨_, congrArg Prod.fst again⟩

/-- A run whose state is to be written below a file. -/
def RunSetup.held : RunSetup Notes where
  collaborators := .willing
  statePath := some ⟨"", ["held", "state.json"]⟩

/-- A step whose record could not be written to its file has failed and is recorded all the same: the
next run passes over it.
-/
theorem Pipeline.run_failed_recorded
    : ∃ fault after,
        ((writing "notes.txt").run .held).run.run .held = (.error fault, after)
        ∧ fault.step? = some "write"
        ∧ after.state.completed = ["write"]
        ∧ ((writing "notes.txt").run { collaborators := .willing }).run.run after
          = (.ok [⟨"write", .skipped .completed⟩], after) := by
  have blamed : (faultOf? (((writing "notes.txt").run .held).run.run .held).1).bind RunFault.step?
      = some "write" := by
    decide +kernel
  have recorded : (((writing "notes.txt").run .held).run.run .held).2.state
      = ⟨"notes", ⟨"", [""]⟩, ["write"]⟩ := by
    decide +kernel
  rcases ran : ((writing "notes.txt").run .held).run.run .held with ⟨fault | report, after⟩ <;>
    simp only [ran] at blamed recorded
  · have skips : ∀ step ∈ (writing "notes.txt").steps, (step.skip? [] after.state).isSome := by
      simp [writing, Step.skip?, RunState.isCompleted, recorded]
    refine ⟨fault, after, rfl, blamed, by rw [recorded], ?_⟩
    rw [run_eq _ (by decide) (by rw [recorded]; rfl)]
    refine (runSteps_skips _ skips).trans ?_
    simp [writing, Step.passedOver, recorded]
  · cases blamed

/-- After a run on the tree that was finished there is nothing left to do: any run from the run state
that it left, with the same options, passes over all steps without an event, on any tree and with any
collaborators, and changes nothing.
-/
theorem Pipeline.run_finished {pipeline : Pipeline} {report : RunReport}
    (wet : scene.workspace.dryRun = false)
    (ran : (pipeline.run setup).run.run scene = (.ok report, after))
    (again : RunSetup τ) {start : Scene τ} (same : again.options = setup.options)
    (resumed : start.state = after.state)
    : (pipeline.run again).run.run start
        = (.ok (pipeline.steps.map (·.passedOver start.state)), start)
      ∧ RunHistory again (Dictionary.layer pipeline.options again.options) pipeline.steps start
        (pipeline.steps.map (·, [])) (.ok (pipeline.steps.map (·.passedOver start.state))) start := by
  obtain ⟨sound, own⟩ := accepted_of_run ran nofun
  obtain ⟨history, outcome, ended, ran', run, -, -, -, -, state, -⟩ :=
    @run_history _ pipeline setup scene sound own wet
  cases ran.symm.trans ran'
  have skips : ∀ step ∈ pipeline.steps,
      (step.skip? (Dictionary.layer pipeline.options again.options) start.state).isSome := by
    rw [same, resumed]
    exact run.skips
  refine ⟨?_, .of_skips again skips⟩
  rw [run_eq again sound (by rw [resumed, state]; exact own)]
  exact runSteps_skips again skips

/-- A run that was finished leaves nothing to do on any tree. -/
theorem Pipeline.run_finished_writing
    : ∃ report after,
        ((writing "notes.txt").run { collaborators := .willing }).run.run (.blank "notes")
          = (.ok report, after)
        ∧ ∀ start : Scene Notes, start.state = after.state →
            ((writing "notes.txt").run { collaborators := .failing "false" }).run.run start
              = (.ok [⟨"write", .skipped .completed⟩], start) := by
  let ended := ((writing "notes.txt").run { collaborators := .willing }).run.run (.blank "notes")
  have passed : faultOf? ended.1 = none := by decide +kernel
  have recorded : ended.2.state.completed = ["write"] := by decide +kernel
  rcases ran : ended with ⟨fault | report, after⟩ <;> simp only [ran] at passed recorded
  · cases passed
  · refine ⟨report, after, ran, fun start resumed => ?_⟩
    refine (run_finished rfl ran { collaborators := .failing "false" } rfl resumed).1.trans ?_
    simp [writing, Step.passedOver, resumed, recorded]

end Groundwork
