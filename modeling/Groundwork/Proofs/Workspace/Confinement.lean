import Groundwork.Proofs.Workspace.Locality
import Groundwork.TemplateSource

/-!
Confinement of a workspace to its root. Actions whose calls are about paths at the root or below it
change nothing but what lies strictly below it; targets and templates are read in this way.
-/

namespace Groundwork

open Files Path

variable {α : Type} {files middle after : Files} {root path : Path} {top : Location}
  {call : FileCall}

-----------------------------------------------------------------------------------------
-- Calls below a root
-----------------------------------------------------------------------------------------

namespace Files

/-- A path that names something strictly below a root, and does not lead up from it. -/
def StrictlyInside (root path : Path) : Prop :=
  ∃ more, path.Under root more ∧ ".." ∉ more ∧ namesOf more ≠ []

/-- The location of a path inside is strictly below that of the root if no directory is there. -/
theorem Inside.strict (inside : Inside root path) (ground : files.Grounded root top)
    (free : files.node? (files.locate path) ≠ some .directory)
    : StrictlyInside root path := by
  obtain ⟨more, under, down⟩ := inside
  refine ⟨more, under, down, fun none => free ?_⟩
  rw [ground.locate_under under down, none, List.append_nil]
  exact ground.open_

theorem StrictlyInside.locate (strict : StrictlyInside root path) (ground : files.Grounded root top)
    : top <+: files.locate path ∧ files.locate path ≠ top := by
  obtain ⟨more, under, down, named⟩ := strict
  rw [ground.locate_under under down]
  refine ⟨List.prefix_append .., fun same => named ?_⟩
  exact List.append_cancel_left (same.trans (List.append_nil top).symm)

/-- A tree that was changed strictly below a root only, which is a directory still. -/
structure ChangedBelow (root : Path) (top : Location) (before after : Files) : Prop where
  ground : after.Grounded root top
  base : after.base = before.base
  elsewhere : ∀ place, ¬ (top <+: place ∧ place ≠ top) → after.node? place = before.node? place

theorem ChangedBelow.refl (ground : files.Grounded root top) : ChangedBelow root top files files :=
  ⟨ground, rfl, fun _ _ => rfl⟩

theorem ChangedBelow.trans (first : ChangedBelow root top files middle)
    (second : ChangedBelow root top middle after)
    : ChangedBelow root top files after :=
  ⟨second.ground, second.base.trans first.base, fun place apart =>
    (second.elsewhere place apart).trans (first.elsewhere place apart)⟩

end Files

/-- A call that is about paths at a root or below it only; those that it changes lie strictly below. -/
structure FileCall.StaysIn (root : Path) (files : Files) (call : FileCall) : Prop where
  inside : call.IsInside root
  strict : call.changes = true → (call.perform files).isOk = true →
    ∀ path ∈ call.paths, StrictlyInside root path

namespace FileCall

/-- A call stays below a root if its paths do: the root is a directory, and no call of those that
change something changes a directory; by cases on the call.
-/
theorem IsInside.staysIn (inside : call.IsInside root) (ground : files.Grounded root top)
    : call.StaysIn root files := by
  refine ⟨inside, fun changes passed path member => ?_⟩
  have within := inside path member
  cases performed : call.perform files with
  | error fault =>
      rw [performed] at passed
      cases passed
  | ok after =>
      cases call with
      | read | inspect => cases changes
      | makeDirectory target =>
          obtain rfl := List.mem_singleton.mp member
          exact within.strict ground (admits_of_makeDirectory performed).1.free
      | write target content =>
          obtain rfl := List.mem_singleton.mp member
          exact within.strict ground (admits_of_write performed).1.free
      | removeFile target =>
          obtain rfl := List.mem_singleton.mp member
          exact within.strict ground (dropNode_of_removeFile performed).1
      | rename source target =>
          obtain ⟨content, executable, origin, admits, -⟩ := admits_of_rename performed
          rcases List.mem_cons.mp member with rfl | later
          · exact within.strict ground (by simp [origin])
          · obtain rfl := List.mem_singleton.mp later
            exact within.strict ground admits.free

/-- A call that stays below a root changes nothing else. -/
theorem StaysIn.changedBelow (stays : call.StaysIn root files) (ground : files.Grounded root top)
    (performed : call.perform files = .ok after)
    : ChangedBelow root top files after := by
  have kept : after.Grounded root top := by
    have alike := stays.inside.performs ground (.refl files)
    rw [performed] at alike
    cases alike with
    | passed ground _ => exact ground
  cases changes : call.changes with
  | false =>
      obtain rfl := perform_unchanged changes performed
      exact .refl ground
  | true =>
      obtain ⟨keeps, elsewhere⟩ := frame performed
      have passed : (call.perform files).isOk = true := by
        rw [performed]
        rfl
      refine ⟨kept, keeps.base, fun place apart => elsewhere place fun path member same => apart ?_⟩
      exact same ▸ (stays.strict changes passed path member).locate ground

end FileCall

-----------------------------------------------------------------------------------------
-- Actions below a root
-----------------------------------------------------------------------------------------

namespace FileAction

open FileCall

/-- An action whose calls stay below a root changes nothing else; by induction on its calls. -/
theorem CallsOnly.changedBelow {action : FileAction α} (calls : CallsOnly (StaysIn root) action files)
    (ground : files.Grounded root top)
    : ChangedBelow root top files (action.run.run files).2 := by
  induction calls with
  | pure | throw | readFile | inspect => exact .refl ground
  | @attempt call files fine =>
      rw [run_attempt]
      cases performed : call.perform files with
      | error fault => exact .refl ground
      | ok after => exact fine.changedBelow ground performed
  | @bind _ _ action next files first second ih ih' =>
      rw [run_bind]
      have changed := ih ground
      rcases ran : action.run.run files with ⟨failure | value, middle⟩ <;> rw [ran] at changed
      · exact changed
      · exact changed.trans (ih' value middle ran changed.ground)
  | @tryCatch _ action handler files first second ih ih' =>
      rw [run_tryCatch]
      have changed := ih ground
      rcases ran : action.run.run files with ⟨failure | value, middle⟩ <;> rw [ran] at changed
      · exact changed.trans (ih' failure middle ran changed.ground)
      · exact changed

/-- Calls about paths inside stay below the root, which each of them leaves a directory; by induction on
them.
-/
theorem CallsOnly.staysIn {action : FileAction α}
    (calls : CallsOnly (fun _ => IsInside root) action files) (ground : files.Grounded root top)
    : CallsOnly (StaysIn root) action files := by
  induction calls with
  | pure value files => exact .pure value files
  | throw failure files => exact .throw failure files
  | attempt inside => exact .attempt (inside.staysIn ground)
  | readFile inside => exact .readFile (inside.staysIn ground)
  | inspect inside => exact .inspect (inside.staysIn ground)
  | bind first second ih ih' =>
      exact .bind (ih ground) fun value after ran => ih' value after ran (first.ground ground ran)
  | tryCatch first second ih ih' =>
      exact .tryCatch (ih ground) fun failure after ran => ih' failure after ran (first.ground ground ran)

/-- An action on a tree that makes its calls at a root or below it and changes the tree strictly below
it only.
-/
structure IsConfined (root : Path) (top : Location) (action : FileAction α) (files : Files)
    : Prop where
  calls : CallsOnly (StaysIn root) action files
  changes : ChangedBelow root top files (action.run.run files).2

theorem CallsOnly.isConfined {action : FileAction α}
    (calls : CallsOnly (fun _ => IsInside root) action files) (ground : files.Grounded root top)
    : IsConfined root top action files :=
  ⟨calls.staysIn ground, (calls.staysIn ground).changedBelow ground⟩

end FileAction

-----------------------------------------------------------------------------------------
-- Workspaces and templates
-----------------------------------------------------------------------------------------

namespace Workspace

open FileAction FileCall

/-- A target is read below the root, or taken from what a dry run keeps beside the tree. -/
theorem read_inside {workspace : Workspace} (sound : path.fault? = none) (files : Files)
    : CallsOnly (fun _ => IsInside workspace.root) (FileAction.look (workspace.read · path)) files := by
  have inside : (FileCall.read (workspace.root.join path)).IsInside workspace.root :=
    List.forall_mem_singleton.mpr (inside_of_sound sound workspace.root)
  cases kept : workspace.overlay.get? path.components with
  | some content =>
      simp only [Workspace.read, kept]
      exact .settled _
  | none =>
      let target := workspace.root.join path
      let answer (found : Except FileFault ByteArray) : Except Failure (Option ByteArray) :=
        ((found.map some).tryCatch fun fault =>
          if fault = .notFound then .ok none else .error fault).mapError (.ofFiles · s!"read {target}")
      have asks : (workspace.read · path) = fun tree => answer (tree.read target) := by
        funext tree
        simp only [Workspace.read, kept, answer, target]
        rcases tree.read (workspace.root.join path) with fault | content
        · cases fault <;> rfl
        · rfl
      rw [asks]
      exact .question answer inside

end Workspace

namespace TemplateSource

open FileAction

/-- What asking for a template does: a name that is a path below the directory is read there, and
any other is refused without a look at the tree.
-/
structure Confined (root : Path) (name : String) (files : Files) : Prop where
  reads : CallsOnly
    (fun _ call => call = .read (root.join (.ofString name)) ∧ Inside root (root.join (.ofString name)))
    (FileAction.look ((directory root).resolve · name)) files
  refuses : (Path.ofString name).fault? ≠ Option.none →
    CallsOnly (fun _ _ => False) (FileAction.look ((directory root).resolve · name)) files
    ∧ ∃ message, (directory root).resolve files name = .error (.ofMessage message)
  below : ∀ top content, files.Grounded root top → (directory root).resolve files name = .ok content →
    StrictlyInside root (root.join (.ofString name))

/-- Templates are read below the directory that they come from; by cases on whether the name is a path
below it.
-/
theorem confined (root : Path) (name : String) (files : Files) : Confined root name files := by
  cases fault : (Path.ofString name).fault? with
  | some found =>
      have asks : (fun tree => (directory root).resolve tree name)
          = fun _ => .error (.ofMessage s!"template {Text.quoted name}: {found.message}") := by
        funext tree
        simp only [resolve, fault]
      refine ⟨?_, fun _ => ⟨?_, _, congrFun asks files⟩, fun top content _ resolved => ?_⟩
      · rw [asks]
        exact .settled _
      · rw [asks]
        exact .settled _
      · rw [congrFun asks files] at resolved
        cases resolved
  | none =>
      let path := root.join (.ofString name)
      have inside : Inside root path := Workspace.inside_of_sound fault root
      let answer (found : Except FileFault ByteArray) : Except Failure ByteArray :=
        found.mapError fun fault => .ofFiles fault s!"read template {path}"
      have asks : (fun tree => (directory root).resolve tree name)
          = fun tree : Files => answer (tree.read path) := by
        funext tree
        simp only [resolve, fault, answer, path]
        cases tree.read (root.join (.ofString name)) <;> rfl
      refine ⟨?_, fun faulty => absurd fault faulty, fun top content ground resolved => ?_⟩
      · rw [asks]
        exact .question answer ⟨rfl, inside⟩
      · rw [congrFun asks files] at resolved
        cases found : files.read path with
        | error fault =>
            rw [found] at resolved
            cases resolved
        | ok content =>
            obtain ⟨executable, there⟩ := file_of_read found
            exact inside.strict ground (by simp [there])

end TemplateSource

end Groundwork
