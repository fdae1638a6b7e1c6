import Groundwork.Proofs.Actions
import Groundwork.Proofs.Files.Passage
import Groundwork.Workspace.Commit

/-!
Targets of mutations and the temporary files beside them: where they lie, and what writing such a
file does and needs.
-/

namespace Groundwork.Workspace

open Files Path

variable {files after : Files} {root path : Path} {top : Location}

-----------------------------------------------------------------------------------------
-- Names and locations of temporary files
-----------------------------------------------------------------------------------------

/-- The name of the temporary file beside a file of some name. -/
def temporaryName (name : String) : String := s!".{name}.{temporaryEnding}"

/-- The location of the temporary file beside a file. -/
def beside (location : Location) : Location :=
  location.dropLast ++ [temporaryName (location.getLast?.getD "")]

@[simp]
theorem beside_append (parent : Location) (name : String)
    : beside (parent ++ [name]) = parent ++ [temporaryName name] := by
  simp [beside]

theorem toList_temporaryName (name : String)
    : (temporaryName name).toList = '.' :: (name.toList ++ ".scaffold-tmp".toList) := by
  change ("." ++ name ++ "." ++ "scaffold-tmp").toList = _
  simp [String.toList_append]

theorem size_le_temporaryName (name : String)
    : name.utf8ByteSize ≤ (temporaryName name).utf8ByteSize := by
  change _ ≤ ("." ++ name ++ "." ++ "scaffold-tmp").utf8ByteSize
  simp only [String.utf8ByteSize_append]
  omega

theorem temporaryName_injective {first second : String}
    (same : temporaryName first = temporaryName second)
    : first = second := by
  have texts := congrArg String.toList same
  rw [toList_temporaryName, toList_temporaryName] at texts
  exact String.toList_injective (List.append_cancel_right (List.cons.inj texts).2)

theorem beside_injective {first second : Location} (some : first ≠ []) (some' : second ≠ [])
    (same : beside first = beside second)
    : first = second := by
  rcases List.eq_nil_or_concat first with rfl | ⟨parent, name, rfl⟩
  · exact absurd rfl some
  · rcases List.eq_nil_or_concat second with rfl | ⟨parent', name', rfl⟩
    · exact absurd rfl some'
    · simp only [List.concat_eq_append, beside_append] at same ⊢
      obtain ⟨rfl, names⟩ := List.append_inj' same rfl
      rw [temporaryName_injective (List.cons.inj names).1]

/-- The name of a temporary file is a name, being longer than the names that are none. -/
theorem isName_temporaryName (name : String) : IsName (temporaryName name) := by
  refine isName_of_length ?_
  rw [toList_temporaryName, List.length_cons, List.length_append]
  have : ".scaffold-tmp".toList.length = 13 := by decide
  omega

/-- A path that may be the target of a mutation, and names something below the root. -/
structure IsTarget (path : Path) : Prop where
  sound : path.fault? = none
  spelled : path.IsSpelled
  named : path.names ≠ []

theorem IsTarget.down (target : IsTarget path) : ".." ∉ path.segments :=
  (fault?_eq_none target.sound).2.2

theorem IsTarget.under (target : IsTarget path) (root : Path)
    : (root.join path).Under root path.segments :=
  join_under (fault?_eq_none target.sound).2.1

/-- A target has a parent with the names before its last, and a temporary file beside it. -/
theorem IsTarget.parts (target : IsTarget path) (root : Path)
    : ∃ parent above temporary above' name,
        (root.join path).parent? = some parent
        ∧ parent.Under root above
        ∧ ".." ∉ above
        ∧ path.names = namesOf above ++ [name]
        ∧ temporaryPath (root.join path) = .ok temporary
        ∧ temporary.Under root (above' ++ [temporaryName name])
        ∧ ".." ∉ above'
        ∧ namesOf above' = namesOf above := by
  have under := target.under root
  obtain ⟨parent, name, above, named, parents, parentUnder, names, aboveDown, -⟩ :=
    under.parent? target.named target.down
  have whole : '/' ∉ (temporaryName name).toList := by
    have member : name ∈ path.segments := by
      have among : name ∈ path.names := by simp [Path.names, names]
      exact (List.mem_filter.mp among).1
    simpa [toList_temporaryName] using target.spelled.no_slash name member
  obtain ⟨above', name', tempUnder, names', above'Down⟩ :=
    under.withFileName target.named target.down whole
  obtain ⟨same, -⟩ := List.append_inj' (names'.symm.trans names) rfl
  exact ⟨parent, above, _, above', name, parents, parentUnder, aboveDown, names,
    by simp only [temporaryPath, named]; rfl, tempUnder, above'Down, same⟩

theorem IsTarget.locate (target : IsTarget path) (ground : files.Grounded root top)
    : files.locate (root.join path) = top ++ path.names :=
  ground.locate_under (target.under root) target.down

/-- The temporary file of a target lies beside it, whether or not the root leads anywhere. -/
theorem IsTarget.locate_beside (target : IsTarget path) (here : files.locate root = top)
    {temporary : Path} (found : temporaryPath (root.join path) = .ok temporary)
    : files.locate temporary = beside (top ++ path.names) := by
  obtain ⟨_, above, _, above', name, -, -, -, names, found', under, down, same⟩ := target.parts root
  cases found.symm.trans found'
  have plain := isName_temporaryName name
  have down' : ".." ∉ above' ++ [temporaryName name] := by simp [down, Ne.symm plain.down]
  rw [files.locate_under under down', here, namesOf_append, plain.namesOf_cons, namesOf_nil, names, same]
  simp [← List.append_assoc]

theorem IsTarget.locate_temporary (target : IsTarget path) (ground : files.Grounded root top)
    {temporary : Path} (found : temporaryPath (root.join path) = .ok temporary)
    : files.locate temporary = beside (top ++ path.names) :=
  target.locate_beside (place_taken ground.leads).1.symm found

-----------------------------------------------------------------------------------------
-- Writing a temporary file
-----------------------------------------------------------------------------------------

/-- A location below the top or at it that lies above another one. -/
structure IsAbove (top place location : Location) : Prop where
  below : top <+: place
  within : place <+: location
  other : place ≠ location

theorem isAbove_append {place parent : Location} {name : String}
    : IsAbove top place (parent ++ [name]) ↔ top <+: place ∧ place <+: parent := by
  constructor
  · rintro ⟨below, within, other⟩
    exact ⟨below, (List.prefix_concat_iff.mp within).resolve_left other⟩
  · rintro ⟨below, within⟩
    refine ⟨below, within.trans (List.prefix_append ..), ?_⟩
    rintro rfl
    have := within.length_le
    simp only [List.length_append, List.length_singleton] at this
    omega

/-- A target and the temporary file beside it can both be written. -/
structure Accepts (files : Files) (root : Path) (top : Location) (path : Path) : Prop where
  target : files.Reaches root top (root.join path) (top ++ path.names)
  temporary : ∃ temporary, temporaryPath (root.join path) = .ok temporary
    ∧ files.Reaches root top temporary (beside (top ++ path.names))

theorem Accepts.mono {tree : Files} (accepts : Accepts files root top path)
    (kept : Keeps files tree)
    : Accepts tree root top path :=
  ⟨accepts.target.mono kept, accepts.temporary.imp fun _ ⟨found, reach⟩ => ⟨found, reach.mono kept⟩⟩

/-- How writing a temporary file runs: directories, then the name, then the file. -/
theorem run_writeTemporary {target parent temporary : Path} (content : ByteArray)
    (parents : target.parent? = some parent) (found : temporaryPath target = .ok temporary)
    : (writeTemporary target content).run.run files
      = match files.makeDirectories parent with
        | (middle, .error fault) =>
            (.error (.ofFiles fault s!"create directory {parent}"), middle)
        | (middle, .ok ()) =>
            match middle.write temporary content with
            | .ok after => (.ok temporary, after)
            | .error fault =>
                (.error (.ofFiles fault s!"write temp file {temporary}"), middle) := by
  rw [writeTemporary, parents, run_bind, FileAction.run_makeDirectories]
  rcases files.makeDirectories parent with ⟨middle, fault | _⟩
  · rfl
  · have looked : (FileAction.look fun _ => temporaryPath target).run.run middle
        = (.ok temporary, middle) := by
      rw [found]
      rfl
    simp only [mapError_ok, run_bind, looked, FileAction.run_change]
    cases middle.write temporary content <;> rfl

/-- A temporary file that was written has the name that belongs to the target. -/
theorem temporaryPath_of_run {target temporary : Path} {content : ByteArray}
    (ran : (writeTemporary target content).run.run files = (.ok temporary, after))
    : temporaryPath target = .ok temporary := by
  have looks (middle : Files)
      : (FileAction.look fun _ => temporaryPath target).run.run middle = (temporaryPath target, middle) :=
    rfl
  have names (middle : Files)
      (ran : (do
          let temporary ← FileAction.look fun _ => temporaryPath target
          FileAction.change s!"write temp file {temporary}" (·.write temporary content)
          return temporary : FileAction Path).run.run middle = (.ok temporary, after))
      : temporaryPath target = .ok temporary := by
    rw [run_bind, looks] at ran
    cases found : temporaryPath target with
    | error failure =>
        simp only [found] at ran
        cases ran
    | ok other =>
        simp only [found, run_bind, FileAction.run_change] at ran
        cases wrote : middle.write other content <;> simp only [wrote] at ran <;> cases ran
        rfl
  cases parents : target.parent? with
  | none =>
      rw [writeTemporary, parents] at ran
      exact names files ran
  | some parent =>
      rw [writeTemporary, parents, run_bind, FileAction.run_makeDirectories] at ran
      cases made : (files.makeDirectories parent).2 with
      | error fault =>
          simp only [made] at ran
          cases ran
      | ok _ =>
          simp only [made, mapError_ok] at ran
          exact names _ ran

/-- Making the parent of a target adds directories above it. -/
theorem IsTarget.grows (target : IsTarget path) (ground : files.Grounded root top) {parent : Path}
    (parents : (root.join path).parent? = some parent)
    : Grows files (files.makeDirectories parent).1 (IsAbove top · (top ++ path.names)) := by
  obtain ⟨_, above, _, above', name, parents', under, down, names, -⟩ := target.parts root
  obtain rfl := Option.some.inj (parents.symm.trans parents')
  refine (ground.makeDirectories parent).1.mono fun place missing way => ?_
  rcases ground.onWay_under under down way with open_ | ⟨below, within⟩
  · exact absurd (open_.symm.trans missing) (by simp)
  · rw [names, ← List.append_assoc]
    exact isAbove_append.mpr ⟨below, within⟩

/-- How writing a temporary file ends: with more directories above the target, and with the file
unless it failed.
-/
inductive TemporaryWrite (files : Files) (root : Path) (top : Location) (path : Path)
    (content : ByteArray)
    : Except Failure Path → Files → Prop
  | failed {failure after} (grows : Grows files after (IsAbove top · (top ++ path.names)))
    : TemporaryWrite files root top path content (.error failure) after
  | written {temporary middle after} (grows : Grows files middle (IsAbove top · (top ++ path.names)))
    (ground : middle.Grounded root top)
    (found : temporaryPath (root.join path) = .ok temporary)
    (takes : middle.Takes top (beside (top ++ path.names)))
    (reach : after.Reaches root top temporary (beside (top ++ path.names)))
    (set : after = middle.setNode (beside (top ++ path.names))
      (.file content (middle.executable (beside (top ++ path.names)))))
    : TemporaryWrite files root top path content (.ok temporary) after

/-- Writing a temporary file makes directories above the target and then the file, or stops before
the file; by cases on which of the two fails.
-/
theorem IsTarget.writeTemporary_outcome (target : IsTarget path) (ground : files.Grounded root top)
    {content : ByteArray} {result : Except Failure Path}
    (ran : (writeTemporary (root.join path) content).run.run files = (result, after))
    : TemporaryWrite files root top path content result after
      ∧ after.Grounded root top
      ∧ Keeps files after := by
  obtain ⟨parent, above, temporary, above', name, parents, -, -, -, found, under, down, -⟩ :=
    target.parts root
  have grows := target.grows ground parents
  have middleGround := (ground.makeDirectories parent).2
  rw [run_writeTemporary content parents found] at ran
  rcases made : files.makeDirectories parent with ⟨middle, fault | _⟩
  · simp only [made] at ran grows middleGround
    cases ran
    exact ⟨.failed grows, middleGround, grows.keeps⟩
  · simp only [made] at ran grows middleGround
    cases wrote : middle.write temporary content with
    | error fault =>
        simp only [wrote] at ran
        cases ran
        exact ⟨.failed grows, middleGround, grows.keeps⟩
    | ok written =>
        simp only [wrote] at ran
        cases ran
        have down' : ".." ∉ above' ++ [temporaryName name] := by
          simp [down, Ne.symm (isName_temporaryName name).down]
        have reach := middleGround.reaches_of_canHold under down' (canHold_of_write wrote)
        obtain ⟨takes, set⟩ := middleGround.write wrote
        rw [target.locate_temporary middleGround found] at takes reach set
        have kept : Keeps middle after := set ▸ takes.keeps_setNode _
        exact ⟨.written grows middleGround found takes (reach.mono kept) set, set ▸ middleGround.setNode takes _,
          grows.keeps.trans kept⟩

/-- What it takes for the temporary file of a target to be written, as far as directories go. -/
structure Admits (files : Files) (root : Path) (top : Location) (path : Path) : Prop where
  fits : refusal? (root.join path) = none
  fitsBeside : ∀ temporary, temporaryPath (root.join path) = .ok temporary → refusal? temporary = none
  short : ∀ name ∈ path.names.getLast?, (temporaryName name).utf8ByteSize ≤ nameLimit
  clear : files.Clear top path.names.dropLast

/-- Writing the temporary file of a target succeeds if nothing stands in its way. -/
theorem IsTarget.writeTemporary_ok (target : IsTarget path) (ground : files.Grounded root top)
    (admits : Admits files root top path)
    (free : files.node? (beside (top ++ path.names)) ≠ some .directory)
    (apart : ¬ IsAbove top (beside (top ++ path.names)) (top ++ path.names))
    (content : ByteArray)
    : ∃ temporary, ((writeTemporary (root.join path) content).run.run files).1 = .ok temporary := by
  obtain ⟨parent, above, temporary, above', name, parents, parentUnder, aboveDown, names, found, under,
    down, same⟩ := target.parts root
  have clear : files.Clear top (namesOf above) := by
    have := admits.clear
    rwa [names, List.dropLast_concat] at this
  have plain := isName_temporaryName name
  obtain ⟨made, open_⟩ := ground.makeDirectories_ok parents admits.fits parentUnder aboveDown clear
  have grows := target.grows ground parents
  have middleGround := (ground.makeDirectories parent).2
  rw [run_writeTemporary content parents found]
  rcases ran : files.makeDirectories parent with ⟨middle, result⟩
  simp only [ran] at made open_ grows middleGround ⊢
  subst made
  have walks : middle.WalksTo top (above' ++ [temporaryName name]) (beside (top ++ path.names)) := by
    refine ⟨above', top ++ namesOf above, temporaryName name, rfl, ?_, ?_, plain, ?_⟩
    · rw [← same]
      exact middleGround.walk_open List.prefix_rfl down (same ▸ clear.short) (same ▸ open_)
    · rw [names, ← List.append_assoc, beside_append]
    · exact admits.short name (by simp [names])
  have down' : ".." ∉ above' ++ [temporaryName name] := by simp [down, Ne.symm plain.down]
  have reach : middle.Reaches root top temporary (beside (top ++ path.names)) :=
    ⟨admits.fitsBeside temporary found, _, under, down', walks⟩
  have still : middle.node? (beside (top ++ path.names)) ≠ some .directory := by
    rcases grows.node (beside (top ++ path.names)) with kept | ⟨-, -, above⟩
    · rwa [kept]
    · exact absurd above apart
  simp [reach.write middleGround still content]

/-- The last name of a target, and the location it gives with those before it. -/
theorem IsTarget.last (target : IsTarget path)
    : ∃ above name, path.names = above ++ [name] ∧ ∀ top : Location,
        top ++ path.names = (top ++ above) ++ [name]
        ∧ beside (top ++ path.names) = (top ++ above) ++ [temporaryName name] := by
  obtain ⟨above, name, split⟩ : ∃ above name, path.names = above ++ [name] := by
    rcases List.eq_nil_or_concat path.names with none | ⟨above, name, split⟩
    · exact absurd none target.named
    · exact ⟨above, name, by rw [split, List.concat_eq_append]⟩
  refine ⟨above, name, split, fun top => ?_⟩
  rw [split, ← List.append_assoc]
  exact ⟨rfl, beside_append ..⟩

/-- The names before the last of a target lead to locations above it. -/
theorem IsTarget.isAbove (target : IsTarget path) {way : List String}
    (within : way <+: path.names.dropLast)
    : IsAbove top (top ++ way) (top ++ path.names) := by
  obtain ⟨above, name, names, split⟩ := target.last
  rw [names, List.dropLast_concat] at within
  rw [(split top).1]
  exact isAbove_append.mpr ⟨List.prefix_append .., (List.prefix_append_right_inj top).mpr within⟩

theorem IsTarget.below_beside (target : IsTarget path) (top : Location)
    : top <+: beside (top ++ path.names) := by
  obtain ⟨above, name, -, split⟩ := target.last
  rw [(split top).2, List.append_assoc]
  exact List.prefix_append ..

/-- A target is not its own temporary file, whose name is longer. -/
theorem IsTarget.ne_beside (target : IsTarget path) (top : Location)
    : top ++ path.names ≠ beside (top ++ path.names) := by
  obtain ⟨above, name, -, split⟩ := target.last
  rw [(split top).2, (split top).1]
  intro same
  have texts := congrArg String.toList (List.cons.inj (List.append_cancel_left same)).1
  have := congrArg List.length texts
  simp only [toList_temporaryName, List.length_cons, List.length_append] at this
  omega

theorem IsTarget.not_isAbove_beside (target : IsTarget path) (top : Location)
    : ¬ IsAbove top (beside (top ++ path.names)) (top ++ path.names) := by
  obtain ⟨above, name, -, split⟩ := target.last
  rw [(split top).2, (split top).1]
  intro lies
  have := (isAbove_append.mp lies).2.length_le
  simp only [List.length_append, List.length_singleton] at this
  omega

/-- A target that can be written with its temporary file has directories above it. -/
theorem Accepts.open_ (accepts : Accepts files root top path) (target : IsTarget path)
    (ground : files.Grounded root top) {place : Location}
    (lies : IsAbove top place (top ++ path.names))
    : files.node? place = some .directory := by
  obtain ⟨above, name, split, locations⟩ := target.last
  have reach := accepts.target
  rw [split] at reach
  rw [(locations top).1] at lies
  obtain ⟨below, rest, whole⟩ := isAbove_append.mp lies
  have open_ := (reach.clear ground).2.2
  rw [← whole] at open_
  exact ground.directory_above below rest open_

theorem Accepts.admits (accepts : Accepts files root top path) (target : IsTarget path)
    (ground : files.Grounded root top)
    : Admits files root top path := by
  obtain ⟨above, name, split, locations⟩ := target.last
  have reach := accepts.target
  obtain ⟨temporary, found, beside⟩ := accepts.temporary
  rw [(locations top).2, List.append_assoc] at beside
  rw [split] at reach
  refine ⟨reach.fits, ?_, ?_, ?_⟩
  · intro other found'
    cases found.symm.trans found'
    exact beside.fits
  · intro last found
    rw [split, List.getLast?_concat] at found
    cases found
    exact (beside.clear ground).2.1
  · rw [split, List.dropLast_concat]
    exact (reach.clear ground).1

-----------------------------------------------------------------------------------------
-- Putting back one file
-----------------------------------------------------------------------------------------

/-- A file with some content that cannot be run as a program. -/
def plainFile (content : ByteArray) : FileNode := .file content false

/-- Putting a file back succeeds where it could be written before: then it has its former content,
or is gone if it had none. What stood beside it is gone too if the content was written there first,
and nothing else is changed. By cases on whether it was there.
-/
theorem IsTarget.restoreFile_over (target : IsTarget path) (ground : files.Grounded root top)
    (accepts : Accepts files root top path)
    (free : files.node? (top ++ path.names) ≠ some .directory) {loaded : Option ByteArray}
    (unused : loaded.isSome → files.node? (beside (top ++ path.names)) ≠ some .directory)
    : ∃ after,
        (restoreFile root path loaded).run.run files = (.ok (), after)
        ∧ after.Grounded root top
        ∧ Keeps files after
        ∧ ∀ place, after.node? place
          = if place = top ++ path.names then
              loaded.map (.file · (files.executable (beside (top ++ path.names))))
            else if loaded.isSome ∧ place = beside (top ++ path.names) then none
            else files.node? place := by
  have takes := accepts.target.takes free
  cases loaded with
  | none =>
      have removes := accepts.target.removeFile ground free
      rw [Workspace.restoreFile, FileAction.run_change]
      cases found : files.node? (top ++ path.names) with
      | none =>
          simp only [found, Option.isSome_none, Bool.false_eq_true, if_false] at removes
          refine ⟨files, by simp [removes], ground, .refl files, fun place => ?_⟩
          split
          · next here => rw [here, found]; rfl
          · simp
      | some node =>
          simp only [found, Option.isSome_some, if_true] at removes
          refine ⟨_, by simp [removes], ground.dropNode takes, takes.keeps_dropNode, fun place => ?_⟩
          simpa using node?_dropNode takes.ne_nil place
  | some content =>
      have unused := unused rfl
      obtain ⟨temporary, wrote⟩ := target.writeTemporary_ok ground (accepts.admits target ground)
        unused (target.not_isAbove_beside top) content
      rcases ran : (writeTemporary (root.join path) content).run.run files with ⟨result, written⟩
      obtain ⟨outcome, writtenGround, kept⟩ := target.writeTemporary_outcome ground ran
      rw [ran] at wrote
      simp only at wrote
      subst wrote
      cases outcome with
      | @written _ middle _ grows _ found takesBeside reach set =>
          have same (place : Location) : middle.node? place = files.node? place := by
            rcases grows.node place with same | ⟨missing, -, lies⟩
            · exact same
            · exact absurd ((accepts.open_ target ground lies).symm.trans missing) (by simp)
          have nodes (place : Location) : written.node? place
              = if place = beside (top ++ path.names) then
                  some (.file content (files.executable (beside (top ++ path.names))))
                else files.node? place := by
            rw [set, node?_setNode takesBeside.ne_nil, Files.executable, Files.executable, same, same]
          have distinct := target.ne_beside top
          have there : written.node? (beside (top ++ path.names))
              = some (.file content (files.executable (beside (top ++ path.names)))) := by
            simp [nodes]
          have free' : written.node? (top ++ path.names) ≠ some .directory := by
            simpa [nodes, distinct] using free
          have accepts' := accepts.mono kept
          have moves := accepts'.target.rename writtenGround free' reach there
          have takes' := accepts'.target.takes free'
          have dropped := reach.takes (by simp [there])
          have takes'' := takes'.dropNode dropped
          refine ⟨_, ?_, (writtenGround.dropNode dropped).setNode takes''
              (.file content (files.executable (beside (top ++ path.names)))),
            kept.trans (dropped.keeps_dropNode.trans (takes''.keeps_setNode _)), ?_⟩
          · simp only [Workspace.restoreFile, run_bind, ran, FileAction.run_change, moves]
          · intro place
            rw [node?_setNode takes'.ne_nil, node?_dropNode dropped.ne_nil, nodes]
            simp only [Option.isSome_some, true_and, Option.map_some]
            split
            · rfl
            · split <;> rfl

/-- A file with nothing beside it is put back as one that cannot be run as a program, and nothing else
is changed.
-/
theorem IsTarget.restoreFile (target : IsTarget path) (ground : files.Grounded root top)
    (accepts : Accepts files root top path)
    (free : files.node? (top ++ path.names) ≠ some .directory)
    (unused : files.node? (beside (top ++ path.names)) = none) (loaded : Option ByteArray)
    : ∃ after,
        (restoreFile root path loaded).run.run files = (.ok (), after)
        ∧ after.Grounded root top
        ∧ Keeps files after
        ∧ ∀ place, after.node? place
          = if place = top ++ path.names then loaded.map plainFile else files.node? place := by
  obtain ⟨after, ran, grounded, kept, nodes⟩ :=
    target.restoreFile_over ground accepts free fun _ => by simp [unused]
  have plain : files.executable (beside (top ++ path.names)) = false := by
    rw [Files.executable, unused]
  refine ⟨after, ran, grounded, kept, fun place => ?_⟩
  rw [nodes, plain]
  split
  · rfl
  · split
    · next beside => rw [beside.2, unused]
    · rfl

end Groundwork.Workspace
