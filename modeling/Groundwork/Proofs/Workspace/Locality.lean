import Groundwork.Proofs.Workspace.Calls

/-!
Actions that see nothing but the tree below a root. On trees that are the same there they end in the
same way and leave trees that are the same there. Commits are of this kind, for they make no calls about
other paths.
-/

namespace Groundwork

open Files Path

variable {α : Type} {files tree : Files} {root path : Path} {top location : Location}

-----------------------------------------------------------------------------------------
-- Operations on trees that are the same below a root
-----------------------------------------------------------------------------------------

namespace Files

/-- Trees that are both grounded and have the same nodes are the same below the root. -/
theorem SameBelow.of_grounded (ground : files.Grounded root top) (other : tree.Grounded root top)
    (base : tree.base = files.base)
    (node : ∀ place, top <+: place → tree.node? place = files.node? place)
    : SameBelow root top files tree :=
  ⟨base, other.leads.trans ground.leads.symm, node⟩

theorem SameBelow.takes (same : SameBelow root top files tree) (below : top <+: location)
    (takes : files.Takes top location)
    : tree.Takes top location := by
  obtain ⟨free, parent, name, split, within⟩ := takes
  refine ⟨by rwa [same.node location below], parent, name, split, fun inside => ?_⟩
  rw [same.node parent inside, within inside]

theorem SameBelow.setNode (same : SameBelow root top files tree)
    (ground : files.Grounded root top) (below : top <+: location)
    (takes : files.Takes top location) (node : FileNode)
    : SameBelow root top (files.setNode location node) (tree.setNode location node) := by
  have takes' := same.takes below takes
  refine .of_grounded (ground.setNode takes node) ((same.grounded ground).setNode takes' node)
    same.base fun place inside => ?_
  rw [node?_setNode takes.ne_nil, node?_setNode takes.ne_nil, same.node place inside]

theorem SameBelow.dropNode (same : SameBelow root top files tree)
    (ground : files.Grounded root top) (below : top <+: location)
    (takes : files.Takes top location)
    : SameBelow root top (files.dropNode location) (tree.dropNode location) := by
  have takes' := same.takes below takes
  refine .of_grounded (ground.dropNode takes) ((same.grounded ground).dropNode takes')
    same.base fun place inside => ?_
  rw [node?_dropNode takes.ne_nil, node?_dropNode takes.ne_nil, same.node place inside]

/-- The operation fails on both trees with the same fault, or leaves trees that are the same below
the root.
-/
inductive EndAlike (root : Path) (top : Location)
    : Except FileFault Files → Except FileFault Files → Prop
  | failed (fault) : EndAlike root top (.error fault) (.error fault)
  | passed {after other} (ground : after.Grounded root top) (same : SameBelow root top after other)
    : EndAlike root top (.ok after) (.ok other)

/-- A path that names something below a root, and does not lead up from it. -/
def Inside (root path : Path) : Prop := ∃ more, path.Under root more ∧ ".." ∉ more

theorem Inside.place (inside : Inside root path) (ground : files.Grounded root top)
    (same : SameBelow root top files tree)
    : tree.place path = files.place path := by
  obtain ⟨more, under, down⟩ := inside
  exact same.place ground under down

theorem Inside.below (inside : Inside root path) (ground : files.Grounded root top)
    : top <+: files.locate path := by
  obtain ⟨more, under, down⟩ := inside
  rw [ground.locate_under under down]
  exact List.prefix_append ..

/-- A free place of a path inside takes a file. -/
theorem Inside.takes_free (inside : Inside root path) (ground : files.Grounded root top)
    {parent : Location} {name : String} {slash : Bool}
    (leads : files.place path = .ok (.free parent name slash))
    : top <+: parent ++ [name] ∧ files.Takes top (parent ++ [name]) := by
  obtain ⟨here, missing, open_⟩ := place_free leads
  exact ⟨here ▸ inside.below ground, by simp [missing], parent, name, rfl, fun _ => open_⟩

theorem Inside.write (inside : Inside root path) (ground : files.Grounded root top)
    (same : SameBelow root top files tree) (content : ByteArray)
    : EndAlike root top (files.write path content) (tree.write path content) := by
  simp only [Files.write, inside.place ground same, bind, Except.bind]
  cases leads : files.place path with
  | error fault => exact .failed fault
  | ok place =>
      cases place with
      | taken location node =>
          obtain ⟨rfl, there⟩ := place_taken leads
          cases node with
          | file old executable =>
              have takes := ground.takes_of_file there
              exact .passed (ground.setNode takes _)
                (same.setNode ground (inside.below ground) takes _)
          | directory => exact .failed _
      | free parent name slash =>
          obtain ⟨below, takes⟩ := inside.takes_free ground leads
          cases slash with
          | true => exact .failed _
          | false => exact .passed (ground.setNode takes _) (same.setNode ground below takes _)

theorem Inside.makeDirectory (inside : Inside root path) (ground : files.Grounded root top)
    (same : SameBelow root top files tree)
    : EndAlike root top (files.makeDirectory path) (tree.makeDirectory path) := by
  simp only [Files.makeDirectory, inside.place ground same, bind, Except.bind]
  cases leads : files.place path with
  | error fault => exact .failed fault
  | ok place =>
      cases place with
      | taken location node => exact .failed _
      | free parent name slash =>
          obtain ⟨below, takes⟩ := inside.takes_free ground leads
          exact .passed (ground.setNode takes _) (same.setNode ground below takes _)

theorem Inside.removeFile (inside : Inside root path) (ground : files.Grounded root top)
    (same : SameBelow root top files tree)
    : EndAlike root top (files.removeFile path) (tree.removeFile path) := by
  simp only [Files.removeFile, inside.place ground same, bind, Except.bind]
  cases leads : files.place path with
  | error fault => exact .failed fault
  | ok place =>
      cases place with
      | taken location node =>
          obtain ⟨rfl, there⟩ := place_taken leads
          cases node with
          | file old executable =>
              have takes := ground.takes_of_file there
              exact .passed (ground.dropNode takes)
                (same.dropNode ground (inside.below ground) takes)
          | directory => exact .failed _
      | free parent name slash => exact .failed _

/-- A file is moved in the same way on both trees; by cases on where the two paths lead. -/
theorem Inside.rename {source : Path} (from_ : Inside root source) (inside : Inside root path)
    (ground : files.Grounded root top) (same : SameBelow root top files tree)
    : EndAlike root top (files.rename source path) (tree.rename source path) := by
  simp only [Files.rename, from_.place ground same, inside.place ground same, bind, Except.bind]
  cases origin : files.place source with
  | error fault => exact .failed fault
  | ok found =>
      cases found with
      | free parent name slash => exact .failed _
      | taken start node =>
          obtain ⟨rfl, there⟩ := place_taken origin
          cases node with
          | directory => exact .failed _
          | file content executable =>
              have dropped := ground.takes_of_file there
              have dropGround := ground.dropNode dropped
              have dropSame := same.dropNode ground (from_.below ground) dropped
              cases leads : files.place path with
              | error fault => exact .failed fault
              | ok place =>
                  cases place with
                  | taken location node =>
                      obtain ⟨rfl, held⟩ := place_taken leads
                      cases node with
                      | directory =>
                          by_cases dots : endsInDots path = true <;> simp only [dots] <;>
                            exact .failed _
                      | file old was =>
                          have takes := (ground.takes_of_file held).dropNode dropped
                          exact .passed (dropGround.setNode takes _)
                            (dropSame.setNode dropGround (inside.below ground) takes _)
                  | free parent name slash =>
                      obtain ⟨below, takes⟩ := inside.takes_free ground leads
                      have takes := takes.dropNode dropped
                      cases slash with
                      | true => exact .failed _
                      | false =>
                          exact .passed (dropGround.setNode takes _)
                            (dropSame.setNode dropGround below takes _)

/-- A path inside that leads nowhere, but names something, has a parent inside. -/
theorem Inside.parent (inside : Inside root path) (ground : files.Grounded root top)
    (filled : path.components.isEmpty = false)
    (missing : files.makeDirectory path = .error .notFound)
    : ∃ parent, path.parent? = some parent ∧ Inside root parent := by
  obtain ⟨more, under, down⟩ := inside
  by_cases named : namesOf more = []
  · simp only [Files.makeDirectory, bind, Except.bind] at missing
    cases refused : refusal? path with
    | some fault =>
        rw [place_eq, refused] at missing
        cases missing
        obtain ⟨head, tail⟩ : path.head = "" ∧ path.tail = [] := by
          simpa [isEmpty] using isEmpty_of_refusal? refused
        simp [components, headComponents, head, tail] at filled
    | none =>
        have leads := ground.walk_open List.prefix_rfl down (by simp [named])
          (by simpa [named] using ground.open_)
        rw [ground.place_under under refused, leads] at missing
        cases missing
  · obtain ⟨parent, -, above, -, found, parentUnder, -, parentDown, -⟩ := under.parent? named down
    exact ⟨parent, found, above, parentUnder, parentDown⟩

end Files

/-- A call about paths at a root or below it only. -/
def FileCall.IsInside (root : Path) (call : FileCall) : Prop := ∀ path ∈ call.paths, Inside root path

namespace FileCall.IsInside

variable {call : FileCall}

/-- A call about paths inside ends in the same way on both trees; by cases on the call. -/
theorem performs (inside : call.IsInside root) (ground : files.Grounded root top)
    (same : SameBelow root top files tree)
    : EndAlike root top (call.perform files) (call.perform tree) := by
  cases call with
  | read target =>
      have leads := (inside target List.mem_cons_self).place ground same
      have found : tree.read target = files.read target := by simp only [Files.read, leads]
      simp only [perform, found]
      cases files.read target with
      | error fault => exact .failed fault
      | ok content => exact .passed ground same
  | inspect target => exact .passed ground same
  | makeDirectory target => exact (inside target List.mem_cons_self).makeDirectory ground same
  | write target content => exact (inside target List.mem_cons_self).write ground same content
  | removeFile target => exact (inside target List.mem_cons_self).removeFile ground same
  | rename source target =>
      have to_ := inside target (List.mem_cons_of_mem _ List.mem_cons_self)
      exact (inside source List.mem_cons_self).rename to_ ground same

end FileCall.IsInside

-----------------------------------------------------------------------------------------
-- Actions below a root
-----------------------------------------------------------------------------------------

namespace FileAction

/-- An action that ends in the same way on trees that are the same below a root, and leaves trees
that are the same below it.
-/
def IsLocal (root : Path) (top : Location) (action : FileAction α) : Prop :=
  ∀ files tree, files.Grounded root top → SameBelow root top files tree →
    ∃ result after other,
      action.run.run files = (result, after)
      ∧ action.run.run tree = (result, other)
      ∧ after.Grounded root top
      ∧ SameBelow root top after other

/-- An action whose calls on a tree are about paths inside does the same on another tree; by induction
on its calls.
-/
theorem CallsOnly.alike {action : FileAction α}
    (calls : CallsOnly (fun _ => FileCall.IsInside root) action files)
    (ground : files.Grounded root top) (same : SameBelow root top files tree)
    : ∃ result after other,
        action.run.run files = (result, after)
        ∧ action.run.run tree = (result, other)
        ∧ after.Grounded root top
        ∧ SameBelow root top after other := by
  induction calls generalizing tree with
  | pure value files => exact ⟨_, files, tree, rfl, rfl, ground, same⟩
  | throw failure files => exact ⟨_, files, tree, rfl, rfl, ground, same⟩
  | attempt inside =>
      have alike := inside.performs ground same
      simp only [run_attempt]
      generalize FileCall.perform _ _ = first at alike ⊢
      generalize FileCall.perform _ tree = second at alike ⊢
      cases alike with
      | failed fault => exact ⟨_, _, tree, rfl, rfl, ground, same⟩
      | passed ground same => exact ⟨_, _, _, rfl, rfl, ground, same⟩
  | @readFile path files inside =>
      have leads := (inside path List.mem_cons_self).place ground same
      have found : tree.read path = files.read path := by simp only [Files.read, leads]
      exact ⟨_, files, tree, rfl, by rw [run_readFile, found], ground, same⟩
  | @inspect path files inside =>
      have leads := (inside path List.mem_cons_self).place ground same
      have found : tree.isDirectory path = files.isDirectory path := by simp only [isDirectory, leads]
      exact ⟨_, files, tree, rfl, by rw [run_inspect, found], ground, same⟩
  | bind first second ih ih' =>
      obtain ⟨result, after, other, ran, ran', ground', same'⟩ := ih ground same
      simp only [run_bind, ran, ran']
      cases result with
      | error failure => exact ⟨_, after, other, rfl, rfl, ground', same'⟩
      | ok value => exact ih' value after ran ground' same'
  | tryCatch first second ih ih' =>
      obtain ⟨result, after, other, ran, ran', ground', same'⟩ := ih ground same
      simp only [run_tryCatch, ran, ran']
      cases result with
      | error failure => exact ih' failure after ran ground' same'
      | ok value => exact ⟨_, after, other, rfl, rfl, ground', same'⟩

/-- An action whose calls are about paths inside leaves the root a directory. -/
theorem CallsOnly.ground {action : FileAction α} {result : Except Failure α} {after : Files}
    (calls : CallsOnly (fun _ => FileCall.IsInside root) action files)
    (ground : files.Grounded root top) (ran : action.run.run files = (result, after))
    : after.Grounded root top := by
  obtain ⟨_, _, _, ran', -, kept, -⟩ := calls.alike ground (.refl files)
  cases ran.symm.trans ran'
  exact kept

/-- Making directories goes up no further than to the root, which is there; by induction on the fuel.
-/
theorem makeDirectoriesFrom_inside (ground : files.Grounded root top) (inside : Inside root path)
    (fuel : Nat)
    : CallsOnly (fun _ => FileCall.IsInside root) (makeDirectoriesFrom fuel path) files := by
  induction fuel generalizing path files with
  | zero => exact .pure _ files
  | succ fuel ih =>
      have makes : (FileCall.makeDirectory path).IsInside root := List.forall_mem_singleton.mpr inside
      have inspects (fault : FileFault) (files : Files)
          : CallsOnly (fun _ => FileCall.IsInside root) (orInspect path fault) files := by
        refine .bind (.inspect (List.forall_mem_singleton.mpr inside)) fun there after _ => ?_
        cases there <;> exact .pure _ after
      rw [makeDirectoriesFrom]
      cases filled : path.components.isEmpty with
      | true => exact .pure _ files
      | false =>
          simp only [Bool.false_eq_true, if_false]
          refine .bind (.attempt makes) fun answer after ran => ?_
          rw [run_attempt] at ran
          cases tried : (FileCall.makeDirectory path).perform files with
          | ok made =>
              rw [tried] at ran
              cases ran
              exact .pure _ _
          | error fault =>
              rw [tried] at ran
              cases ran
              by_cases missing : fault = .notFound
              · subst missing
                obtain ⟨parent, found, above⟩ := inside.parent ground filled tried
                simp only [found, ne_eq, not_true_eq_false, if_false]
                refine .bind (ih ground above) fun answer middle _ => ?_
                cases answer with
                | error fault => exact .pure _ middle
                | ok =>
                    refine .bind (.attempt makes) fun answer last _ => ?_
                    cases answer with
                    | ok => exact .pure _ last
                    | error fault => exact inspects fault last
              · simp only [ne_eq, missing, not_false_eq_true, if_true]
                exact inspects fault files

/-- An action that is put together of calls about paths at a root or below it and of making
directories there.
-/
abbrev Inward (root : Path) (action : FileAction α) : Prop :=
  MadeOf (FileCall.IsInside root) (Inside root) action

/-- Where the root is a directory, the calls of such an action are about paths inside; by induction on
what it is put together of.
-/
theorem Inward.callsOnly {action : FileAction α} (inward : Inward root action)
    (ground : files.Grounded root top)
    : CallsOnly (fun _ => FileCall.IsInside root) action files := by
  induction inward generalizing files with
  | pure value => exact .pure value files
  | throw failure => exact .throw failure files
  | attempt inside => exact .attempt inside
  | makeDirectories inside =>
      rw [makeDirectories_eq]
      refine .bind (makeDirectoriesFrom_inside ground inside _) fun answer after _ => ?_
      cases answer with
      | ok => exact .pure () after
      | error fault => exact .throw _ after
  | bind first second ih ih' =>
      exact .bind (ih ground) fun value after ran =>
        ih' value files after ran ((ih ground).ground ground ran)
  | tryCatch first second ih ih' =>
      exact .tryCatch (ih ground) fun failure after ran => ih' failure ((ih ground).ground ground ran)

theorem Inward.isLocal {action : FileAction α} (inward : Inward root action)
    : IsLocal root top action :=
  fun _ _ ground same => (inward.callsOnly ground).alike ground same

end FileAction

-----------------------------------------------------------------------------------------
-- Commits
-----------------------------------------------------------------------------------------

namespace Workspace

open FileAction

/-- A target names something inside. -/
theorem inside_of_sound (sound : path.fault? = none) (root : Path) : Inside root (root.join path) :=
  ⟨path.segments, join_under (fault?_eq_none sound).2.1, (fault?_eq_none sound).2.2⟩

theorem IsTarget.inside_temporary (target : IsTarget path) {temporary : Path}
    (found : temporaryPath (root.join path) = .ok temporary)
    : Inside root temporary := by
  obtain ⟨_, _, _, above, name, -, -, -, -, found', under, down, -⟩ := target.parts root
  cases found.symm.trans found'
  exact ⟨_, under, by simp [down, Ne.symm (isName_temporaryName name).down]⟩

/-- What is done about a target is done inside. -/
theorem IsTarget.permits (target : IsTarget path) (root : Path)
    : Permits (FileCall.IsInside root) (Inside root) (root.join path) where
  parent parent found := by
    obtain ⟨other, above, _, _, _, parents, under, down, -⟩ := target.parts root
    cases found.symm.trans parents
    exact ⟨above, under, down⟩
  remove := List.forall_mem_singleton.mpr (inside_of_sound target.sound root)
  write _ found _ := List.forall_mem_singleton.mpr (target.inside_temporary found)
  discard _ found := List.forall_mem_singleton.mpr (target.inside_temporary found)
  rename _ found := List.forall_mem_cons.mpr
    ⟨target.inside_temporary found,
      List.forall_mem_singleton.mpr (inside_of_sound target.sound root)⟩

/-- A commit is made of calls about paths inside, if what it writes to the tree are targets. -/
theorem commit_inward {workspace : Workspace} {stage : Stage}
    (targets : workspace.dryRun = false → ∀ file ∈ stage.changed, IsTarget file.path)
    : Inward workspace.root (workspace.commit stage) :=
  commit_madeOf fun wet file member => (targets wet file member).permits workspace.root

theorem restore_inward {workspace : Workspace} {written : Written}
    (targets : workspace.dryRun = false → ∀ entry ∈ written, IsTarget entry.1)
    : Inward workspace.root (workspace.restore written) :=
  restore_madeOf fun wet entry member => (targets wet entry member).permits workspace.root

/-- A commit is local. -/
theorem commit_isLocal {workspace : Workspace} {stage : Stage}
    (targets : ∀ file ∈ stage.changed, IsTarget file.path)
    : IsLocal workspace.root top (workspace.commit stage) :=
  (commit_inward fun _ => targets).isLocal

end Workspace

end Groundwork
