import Groundwork.Proofs.CommandLine.Apply

/-!
What the codes mean that the program ends with: whether anything was done, and whether a step failed.
-/

namespace Groundwork.CommandLine

variable {arguments : ApplyArguments} {before after : Surroundings Outside}

-----------------------------------------------------------------------------------------
-- Quoted texts
-----------------------------------------------------------------------------------------

/-- Applying a pipeline comes to its run, and the run fails in a step. -/
def Invocation.FailsAt (invocation : Invocation) (before : Surroundings Outside) (step : Step)
    : Prop :=
  ∃ arguments plan start fault last,
    invocation = .apply arguments
    ∧ ApplyPlan.Starts plan arguments before start
    ∧ (plan.pipeline.run plan.setup).run.run start = (.error fault, last)
    ∧ step ∈ plan.pipeline.steps
    ∧ fault.step? = some step.name

/-- The run that a command comes to failed in a step if the command fails at one. -/
theorem Invocation.FailsAt.outcome {step : Step} {plan : ApplyPlan} {start last : Scene Outside}
    {outcome : Except RunFault RunReport} (fails : (Invocation.apply arguments).FailsAt before step)
    (starts : plan.Starts arguments before start)
    (ran : (plan.pipeline.run plan.setup).run.run start = (outcome, last))
    : ∃ fault, outcome = .error fault ∧ fault.step? = some step.name := by
  obtain ⟨_, plan', start', fault, last', ⟨⟩, starts', ran', -, blamed⟩ := fails
  obtain ⟨rfl, rfl⟩ := starts.unique starts'
  cases ran.symm.trans ran'
  exact ⟨fault, rfl, blamed⟩

/-- The program ends as the command that it carries out. -/
theorem Invocation.run_apply {result : Except CommandFault RunReport}
    (ran : (CommandLine.apply arguments).run.run before = (result, after))
    : (Invocation.apply arguments).run.run before = (endingOf (result.map reportText), after) := by
  let told : CommandAction String := do return reportText (← CommandLine.apply arguments)
  have ends : told.run.run before = (result.map reportText, after) := by
    rw [run_bind, ran]
    cases result <;> rfl
  change (endingOf (told.run.run before).1, (told.run.run before).2) = _
  rw [ends]

/-- What only looks for something ends without a change, and not with the code of a failed step. -/
theorem CommandAction.Finds.ending {action : CommandAction String}
    (finds : action.Finds before fun _ => True)
    : (action.run.run before).2 = before ∧ (endingOf (action.run.run before).1).code ≠ stepCode := by
  rcases finds with ⟨fault, ran, early⟩ | ⟨output, ran, -⟩ <;> rw [ran]
  · refine ⟨rfl, ?_⟩
    exact fun failed => absurd (early.symm.trans failed) (by decide)
  · exact ⟨rfl, (by decide : successCode ≠ stepCode)⟩

/-- The directory that paths start from, with some slashes after it. -/
def here (slashes : Nat) : Path := ⟨".", List.replicate slashes ""⟩

end Groundwork.CommandLine
