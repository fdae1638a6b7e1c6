import Groundwork.Proofs.Workspace.Target

/-!
Commits that do not go through, and commits that are taken back: every file is as it was, no
temporary file is left, and at most some directories above the files were made.
-/

namespace Groundwork

open Files Path

/-- The content of a file. -/
def Files.content? (files : Files) (location : Location) : Option ByteArray :=
  match files.node? location with
  | some (.file content _) => some content
  | _ => none

theorem Files.content?_eq_some {files : Files} {location : Location} {content : ByteArray}
    : files.content? location = some content
      ↔ ∃ executable, files.node? location = some (.file content executable) := by
  unfold content?
  constructor
  · intro found
    split at found <;> cases found
    exact ⟨_, by assumption⟩
  · rintro ⟨executable, there⟩
    rw [there]

/-- Where a staged file lies. -/
def StagedFile.location (top : Location) (file : StagedFile) : Location := top ++ file.path.names

/-- The content that a staged file is to have. -/
def StagedFile.content (file : StagedFile) : ByteArray := file.current.getD .empty

namespace Workspace

variable {before files after : Files} {root : Path} {top : Location}

-----------------------------------------------------------------------------------------
-- Batches of files
-----------------------------------------------------------------------------------------

/-- Files that are written together. They hold what was read of them, and no file, directory or target
has the name of a temporary file.
-/
structure Batch (before : Files) (top : Location) (batch : List StagedFile) : Prop where
  target : ∀ file ∈ batch, IsTarget file.path
  loaded : ∀ file ∈ batch, before.content? (file.location top) = file.loaded
  unused : ∀ file ∈ batch, before.node? (beside (file.location top)) = none
  apart : ∀ file ∈ batch, ∀ other ∈ batch,
    ¬ beside (file.location top) <+: other.location top

/-- Nothing but new directories above the files of a batch tells one tree from another, except at
some locations that are not settled yet.
-/
structure Drafted (before after : Files) (top : Location) (batch : List StagedFile)
    (unsettled : List Location)
    : Prop where
  base : after.base = before.base
  node : ∀ place, top <+: place → place ∉ unsettled →
    after.node? place = before.node? place
    ∨ before.node? place = none
      ∧ after.node? place = some .directory
      ∧ ∃ file ∈ batch, IsAbove top place (file.location top)

variable {batch : List StagedFile} {unsettled : List Location}

theorem Drafted.refl (files : Files) : Drafted files files top batch [] :=
  ⟨rfl, fun _ _ _ => .inl rfl⟩

/-- Directories above one file of the batch may be added. -/
theorem Drafted.grows {file : StagedFile} (drafted : Drafted before files top batch unsettled)
    (member : file ∈ batch) (grows : Grows files after (IsAbove top · (file.location top)))
    : Drafted before after top batch unsettled := by
  refine ⟨grows.base.trans drafted.base, fun place below settled => ?_⟩
  have old := drafted.node place below settled
  rcases grows.node place with same | ⟨missing, open_, lies⟩
  · rwa [same]
  · rcases old with same | ⟨-, there, -⟩
    · exact .inr ⟨same ▸ missing, open_, file, member, lies⟩
    · exact absurd (there.symm.trans missing) (by simp)

/-- What becomes of locations that are not settled, or become unsettled, does not matter. -/
theorem Drafted.change (drafted : Drafted before files top batch unsettled) {other : List Location}
    (base : after.base = files.base)
    (same : ∀ place, place ∉ other →
      after.node? place = files.node? place ∧ place ∉ unsettled
      ∨ after.node? place = before.node? place)
    : Drafted before after top batch other := by
  refine ⟨base.trans drafted.base, fun place below settled => ?_⟩
  rcases same place settled with ⟨same, settled⟩ | same
  · rw [same]
    exact drafted.node place below settled
  · exact .inl same

/-- Nothing is where a temporary file belongs, unless it is not settled. -/
theorem Drafted.unused (drafted : Drafted before files top batch unsettled)
    (whole : Batch before top batch) {file : StagedFile} (member : file ∈ batch)
    (settled : beside (file.location top) ∉ unsettled)
    : files.node? (beside (file.location top)) = none := by
  have below := (whole.target file member).below_beside top
  rcases drafted.node (beside (file.location top)) below settled with same | ⟨-, -, other, among, lies⟩
  · rw [same, whole.unused file member]
  · exact absurd lies.within (whole.apart file member other among)

-----------------------------------------------------------------------------------------
-- Putting files back and removing temporary files
-----------------------------------------------------------------------------------------

/-- Where written files lie. -/
def Written.locations (top : Location) (written : Written) : List Location :=
  written.map fun entry => top ++ entry.1.names

theorem Written.locations_cons (entry : Path × Option ByteArray) (written : Written)
    : Written.locations top (entry :: written)
      = (top ++ entry.1.names) :: Written.locations top written :=
  rfl

/-- A file can be put back to the content that it had in some tree. -/
structure Restorable (before files : Files) (root : Path) (top : Location)
    (entry : Path × Option ByteArray)
    : Prop where
  target : IsTarget entry.1
  accepts : Accepts files root top entry.1
  free : files.node? (top ++ entry.1.names) ≠ some .directory
  unused : files.node? (beside (top ++ entry.1.names)) = none
  loaded : before.content? (top ++ entry.1.names) = entry.2

/-- Files are put back one after the other, and nothing else is changed; by induction on them. -/
theorem restoreFiles_ok {written : Written} (ground : files.Grounded root top)
    (each : ∀ entry ∈ written, Restorable before files root top entry)
    (apart : ∀ entry ∈ written, ∀ other ∈ written,
      beside (top ++ entry.1.names) ≠ top ++ other.1.names)
    : ∃ after,
        (restoreFiles root written).run.run files = (.ok (), after)
        ∧ after.Grounded root top
        ∧ Keeps files after
        ∧ ∀ place, after.node? place
          = if place ∈ Written.locations top written then (before.content? place).map plainFile
            else files.node? place := by
  induction written generalizing files with
  | nil => exact ⟨files, rfl, ground, .refl files, fun _ => rfl⟩
  | cons entry rest ih =>
      obtain ⟨path, content⟩ := entry
      simp only [List.forall_mem_cons] at each apart
      obtain ⟨⟨target, accepts, free, unused, loaded⟩, others⟩ := each
      obtain ⟨middle, ran, middleGround, kept, nodes⟩ :=
        target.restoreFile ground accepts free unused content
      have each' : ∀ entry ∈ rest, Restorable before middle root top entry := by
        intro entry member
        have other := others entry member
        refine ⟨other.target, other.accepts.mono kept, ?_, ?_, other.loaded⟩
        · rw [nodes]
          split
          · cases content <;> simp [plainFile]
          · exact other.free
        · rw [nodes, if_neg (apart.2 entry member).1]
          exact other.unused
      obtain ⟨after, later, afterGround, kept', nodes'⟩ :=
        ih middleGround each' (fun entry member => (apart.2 entry member).2)
      refine ⟨after, ?_, afterGround, kept.trans kept', fun place => ?_⟩
      · rw [restoreFiles, run_bind, ran]
        exact later
      · rw [nodes', nodes, Written.locations_cons]
        by_cases first : place = top ++ path.names
        · rw [if_pos (List.mem_cons.mpr (.inl first)), if_pos first, first, loaded, ite_self]
        · simp only [List.mem_cons, first, false_or, if_false]

/-- A file written beside its place, where it can be found. -/
structure Prepared.Stands (files : Files) (root : Path) (top : Location) (p : Prepared) : Prop where
  target : p.target = root.join p.file.path
  temporary : temporaryPath p.target = .ok p.temporary
  reach : files.Reaches root top p.temporary (beside (p.file.location top))
  free : files.node? (beside (p.file.location top)) ≠ some .directory

/-- Where the temporary files of prepared files lie. -/
def Prepared.locations (top : Location) (prepared : List Prepared) : List Location :=
  prepared.map fun p => beside (p.file.location top)

theorem Prepared.Stands.mono {p : Prepared} (stands : p.Stands files root top)
    (kept : Keeps files after)
    (free : after.node? (beside (p.file.location top)) ≠ some .directory)
    : p.Stands after root top :=
  ⟨stands.target, stands.temporary, stands.reach.mono kept, free⟩

/-- Removing a temporary file as far as it is there leaves nothing in its place. -/
theorem Prepared.Stands.remove {p : Prepared} (stands : p.Stands files root top)
    (ground : files.Grounded root top)
    : ∃ after,
        (FileAction.quietly (FileAction.change "" (·.removeFile p.temporary))).run.run files
          = (.ok (), after)
        ∧ after.Grounded root top
        ∧ Keeps files after
        ∧ ∀ place, after.node? place
          = if place = beside (p.file.location top) then none else files.node? place := by
  have removes := stands.reach.removeFile ground stands.free
  have takes := stands.reach.takes stands.free
  rw [FileAction.run_quietly, FileAction.run_change, removes]
  cases found : files.node? (beside (p.file.location top)) with
  | none =>
      refine ⟨files, by simp, ground, .refl files, fun place => ?_⟩
      split
      · next here => rw [here, found]
      · rfl
  | some node =>
      exact ⟨_, by simp, ground.dropNode takes, takes.keeps_dropNode, node?_dropNode takes.ne_nil⟩

theorem Prepared.locations_cons (p : Prepared) (rest : List Prepared)
    : Prepared.locations top (p :: rest)
      = beside (p.file.location top) :: Prepared.locations top rest :=
  rfl

/-- Temporary files are removed one after the other, as far as they are there; by induction on them.
-/
theorem discard_ok {prepared : List Prepared} (ground : files.Grounded root top)
    (stands : ∀ p ∈ prepared, p.Stands files root top)
    : ∃ after,
        (discard prepared).run.run files = (.ok (), after)
        ∧ after.Grounded root top
        ∧ Keeps files after
        ∧ ∀ place, after.node? place
          = if place ∈ Prepared.locations top prepared then none else files.node? place := by
  induction prepared generalizing files with
  | nil => exact ⟨files, rfl, ground, .refl files, fun _ => rfl⟩
  | cons p rest ih =>
      rw [List.forall_mem_cons] at stands
      obtain ⟨middle, ran, middleGround, kept, nodes⟩ := stands.1.remove ground
      have stands' : ∀ p ∈ rest, p.Stands middle root top := by
        intro q member
        refine (stands.2 q member).mono kept ?_
        rw [nodes]
        split
        · simp
        · exact (stands.2 q member).free
      obtain ⟨after, later, afterGround, kept', nodes'⟩ := ih middleGround stands'
      refine ⟨after, ?_, afterGround, kept.trans kept', fun place => ?_⟩
      · rw [discard, run_bind, ran]
        exact later
      · rw [nodes', nodes, Prepared.locations_cons]
        by_cases first : place = beside (p.file.location top)
        · rw [if_pos (List.mem_cons.mpr (.inl first)), if_pos first, ite_self]
        · simp only [List.mem_cons, first, false_or, if_false]

-----------------------------------------------------------------------------------------
-- Writing files beside their places
-----------------------------------------------------------------------------------------

/-- Files of a batch were written beside their places, and else only directories were made. -/
structure AllPrepared (before files : Files) (root : Path) (top : Location)
    (batch : List StagedFile) (prepared : List Prepared) : Prop where
  ground : files.Grounded root top
  drafted : Drafted before files top batch (Prepared.locations top prepared)
  among : ∀ p ∈ prepared, p.file ∈ batch
  stands : ∀ p ∈ prepared, p.Stands files root top
  draft : ∀ p ∈ prepared, ∃ q ∈ prepared,
    beside (q.file.location top) = beside (p.file.location top)
    ∧ files.node? (beside (p.file.location top)) = some (plainFile q.file.content)

namespace AllPrepared

variable {prepared : List Prepared} {file : StagedFile}

theorem nil (ground : before.Grounded root top) : AllPrepared before before root top batch [] :=
  ⟨ground, .refl before, by simp, by simp, by simp⟩

/-- Directories above a file of the batch do not touch the files that were written. -/
theorem grows (all : AllPrepared before files root top batch prepared)
    (whole : Batch before top batch) (member : file ∈ batch) (ground : after.Grounded root top)
    (grows : Grows files after (IsAbove top · (file.location top)))
    : AllPrepared before after root top batch prepared := by
  have same (p : Prepared) (among : p ∈ prepared)
      : after.node? (beside (p.file.location top)) = files.node? (beside (p.file.location top)) := by
    rcases grows.node (beside (p.file.location top)) with same | ⟨-, -, lies⟩
    · exact same
    · exact absurd lies.within (whole.apart p.file (all.among p among) file member)
  refine ⟨ground, all.drafted.grows member grows, all.among, ?_, ?_⟩
  · intro p among
    exact (all.stands p among).mono grows.keeps (by rw [same p among]; exact (all.stands p among).free)
  · intro p among
    rw [same p among]
    exact all.draft p among

/-- No temporary file can be run as a program, neither one that is overwritten. -/
theorem executable (all : AllPrepared before files root top batch prepared)
    (whole : Batch before top batch) (member : file ∈ batch)
    : files.executable (beside (file.location top)) = false := by
  by_cases drafted : beside (file.location top) ∈ Prepared.locations top prepared
  · obtain ⟨p, among, same⟩ := List.mem_map.mp drafted
    obtain ⟨q, -, -, there⟩ := all.draft p among
    simp [Files.executable, ← same, there, plainFile]
  · simp [Files.executable, all.drafted.unused whole member drafted]

/-- A file that is written beside its place joins those before it. -/
theorem written (all : AllPrepared before files root top batch prepared)
    (member : file ∈ batch) {temporary : Path}
    (found : temporaryPath (root.join file.path) = .ok temporary)
    (takes : files.Takes top (beside (file.location top)))
    (reach : after.Reaches root top temporary (beside (file.location top)))
    (set : after = files.setNode (beside (file.location top)) (plainFile file.content))
    : AllPrepared before after root top batch
        (prepared ++ [⟨temporary, root.join file.path, file⟩]) := by
  have nodes (place : Location) : after.node? place
      = if place = beside (file.location top) then some (plainFile file.content)
        else files.node? place := set ▸ node?_setNode takes.ne_nil _ place
  have kept : Keeps files after := set ▸ takes.keeps_setNode _
  have locations : Prepared.locations top (prepared ++ [⟨temporary, root.join file.path, file⟩])
      = Prepared.locations top prepared ++ [beside (file.location top)] := by
    simp [Prepared.locations]
  refine ⟨set ▸ all.ground.setNode takes _, ?_, ?_, ?_, ?_⟩
  · refine all.drafted.change (set ▸ rfl) fun place settled => ?_
    rw [locations, List.mem_append, List.mem_singleton, not_or] at settled
    exact .inl ⟨by rw [nodes, if_neg settled.2], settled.1⟩
  · intro p among
    rcases List.mem_append.mp among with old | new
    · exact all.among p old
    · exact List.mem_singleton.mp new ▸ member
  · intro p among
    rcases List.mem_append.mp among with old | new
    · refine (all.stands p old).mono kept ?_
      rw [nodes]
      split
      · simp [plainFile]
      · exact (all.stands p old).free
    · obtain rfl := List.mem_singleton.mp new
      exact ⟨rfl, found, reach, by simp [nodes, plainFile]⟩
  · intro p among
    by_cases again : beside (p.file.location top) = beside (file.location top)
    · exact ⟨_, List.mem_append_right _ List.mem_cons_self, again.symm, by rw [nodes, if_pos again]⟩
    · rcases List.mem_append.mp among with old | new
      · obtain ⟨q, there, same, node⟩ := all.draft p old
        exact ⟨q, List.mem_append_left _ there, same, by rw [nodes, if_neg again, node]⟩
      · obtain rfl := List.mem_singleton.mp new
        exact absurd rfl again

/-- Once the files that were written are removed, only directories are left. -/
theorem discarded (all : AllPrepared before files root top batch prepared)
    (whole : Batch before top batch)
    : ∃ after,
        (discard prepared).run.run files = (.ok (), after)
        ∧ after.Grounded root top
        ∧ Drafted before after top batch [] := by
  obtain ⟨after, ran, ground, kept, nodes⟩ := discard_ok all.ground all.stands
  refine ⟨after, ran, ground, all.drafted.change kept.base fun place _ => ?_⟩
  rw [nodes]
  split
  · next drafted =>
      obtain ⟨p, among, rfl⟩ := List.mem_map.mp drafted
      exact .inr (whole.unused p.file (all.among p among)).symm
  · next settled => exact .inl ⟨rfl, settled⟩

/-- Nothing is in the way of the next file, unless something was from the start. -/
theorem admits (all : AllPrepared before files root top batch prepared)
    (whole : Batch before top batch) (member : file ∈ batch)
    (admits : Admits before root top file.path)
    : Admits files root top file.path
      ∧ files.node? (beside (file.location top)) ≠ some .directory := by
  refine ⟨⟨admits.fits, admits.fitsBeside, admits.short, admits.clear.short, ?_⟩, ?_⟩
  · intro way content executable within found
    have inside : top ++ way <+: file.location top :=
      (List.prefix_append_right_inj top).mpr (within.trans (List.dropLast_prefix _))
    by_cases drafted : top ++ way ∈ Prepared.locations top prepared
    · obtain ⟨p, among, same⟩ := List.mem_map.mp drafted
      exact whole.apart p.file (all.among p among) file member (same ▸ inside)
    · rcases all.drafted.node _ (List.prefix_append ..) drafted with same | ⟨-, open_, -⟩
      · exact admits.clear.free way content executable within (same ▸ found)
      · exact absurd (found.symm.trans open_) (by simp)
  · by_cases drafted : beside (file.location top) ∈ Prepared.locations top prepared
    · obtain ⟨p, among, same⟩ := List.mem_map.mp drafted
      exact same ▸ (all.stands p among).free
    · simp [all.drafted.unused whole member drafted]

end AllPrepared

/-- Files of a batch are written beside their places, those before them being written already: all
of them, or none is left because something is in the way of one; by induction on the files.
-/
theorem prepare_outcome (whole : Batch before top batch) {entries : List StagedFile}
    (members : ∀ file ∈ entries, file ∈ batch) {prepared : List Prepared}
    (all : AllPrepared before files root top batch prepared)
    {result : Except Failure (List Prepared)}
    (ran : (prepare root prepared entries).run.run files = (result, after))
    : (∀ failure, result = .error failure →
        after.Grounded root top
        ∧ Drafted before after top batch []
        ∧ ∃ file ∈ batch, ¬ Admits before root top file.path)
      ∧ ∀ done, result = .ok done →
        done.map (·.file) = prepared.map (·.file) ++ entries
        ∧ AllPrepared before after root top batch done := by
  induction entries generalizing prepared files with
  | nil =>
      cases ran
      exact ⟨nofun, fun done same => by cases same; exact ⟨by simp, all⟩⟩
  | cons file rest ih =>
      rw [List.forall_mem_cons] at members
      rw [prepare, run_bind, FileAction.run_orUndo] at ran
      rcases wrote : (writeTemporary (root.join file.path) file.content).run.run files with
        ⟨failure | temporary, middle⟩
      · obtain ⟨outcome, ground, kept⟩ :=
          (whole.target file members.1).writeTemporary_outcome all.ground wrote
        have blocked : ¬ Admits before root top file.path := by
          intro admits
          obtain ⟨admits, free⟩ := all.admits whole members.1 admits
          obtain ⟨temporary, passed⟩ := (whole.target file members.1).writeTemporary_ok all.ground
            admits free ((whole.target file members.1).not_isAbove_beside top) file.content
          rw [wrote] at passed
          cases passed
        cases outcome with
        | failed grows =>
            obtain ⟨cleaned, discards, cleanGround, drafted⟩ :=
              (all.grows whole members.1 ground grows).discarded whole
            rw [StagedFile.content] at wrote
            simp only [wrote, discards] at ran
            cases ran
            exact ⟨fun _ _ => ⟨cleanGround, drafted, file, members.1, blocked⟩, nofun⟩
      · obtain ⟨outcome, ground, kept⟩ :=
          (whole.target file members.1).writeTemporary_outcome all.ground wrote
        cases outcome with
        | written grows middleGround found takes reach set =>
            have made := all.grows whole members.1 middleGround grows
            rw [← StagedFile.location, made.executable whole members.1] at set
            rw [StagedFile.content] at wrote
            simp only [wrote] at ran
            obtain ⟨fails, ends⟩ := ih members.2 (made.written members.1 found takes reach set) ran
            refine ⟨fails, fun done same => ?_⟩
            obtain ⟨files, all⟩ := ends done same
            exact ⟨by simp [files], all⟩

-----------------------------------------------------------------------------------------
-- Moving files to their places
-----------------------------------------------------------------------------------------

/-- What a batch that does not go through may leave: directories above its files, and files with the
content they had that cannot be run as programs any more.
-/
structure Residue (before after : Files) (top : Location) (batch : List StagedFile) : Prop where
  base : after.base = before.base
  node : ∀ place, top <+: place →
    after.node? place = before.node? place
    ∨ (before.node? place = none
      ∧ after.node? place = some .directory
      ∧ ∃ file ∈ batch, IsAbove top place (file.location top))
    ∨ ∃ file ∈ batch,
        place = file.location top
        ∧ ∃ content executable,
            before.node? place = some (.file content executable)
            ∧ after.node? place = some (plainFile content)

theorem Drafted.residue (drafted : Drafted before after top batch [])
    : Residue before after top batch :=
  ⟨drafted.base, fun place below =>
    (drafted.node place below (by simp)).imp_right fun ⟨missing, made⟩ => .inl ⟨missing, made⟩⟩

/-- Files of a batch were moved to their places, others stand beside theirs, and else only
directories were made; those that were there stayed.
-/
structure AllPlaced (before files : Files) (root : Path) (top : Location) (batch : List StagedFile)
    (moved : List StagedFile) (prepared : List Prepared)
    : Prop where
  ground : files.Grounded root top
  drafted : Drafted before files top batch
    (Prepared.locations top prepared ++ moved.map (·.location top))
  among : ∀ p ∈ prepared, p.file ∈ batch
  stands : ∀ p ∈ prepared, p.Stands files root top
  members : ∀ file ∈ moved, file ∈ batch
  accepts : ∀ file ∈ moved, Accepts files root top file.path
  free : ∀ file ∈ moved, files.node? (file.location top) ≠ some .directory
  open_ : ∀ place, top <+: place → before.node? place = some .directory →
    files.node? place = some .directory

namespace AllPlaced

variable {moved : List StagedFile} {prepared : List Prepared}

/-- Writing files beside their places keeps the directories, for nothing was where they are written. -/
theorem of_prepared (all : AllPrepared before files root top batch prepared)
    (whole : Batch before top batch)
    : AllPlaced before files root top batch [] prepared := by
  refine ⟨all.ground, by simpa using all.drafted, all.among, all.stands, by simp, by simp, by simp,
    fun place below open_ => ?_⟩
  by_cases drafted : place ∈ Prepared.locations top prepared
  · obtain ⟨p, among, rfl⟩ := List.mem_map.mp drafted
    exact absurd (open_.symm.trans (whole.unused p.file (all.among p among))) (by simp)
  · rcases all.drafted.node place below drafted with same | ⟨missing, -⟩
    · exact same.trans open_
    · exact absurd (open_.symm.trans missing) (by simp)

/-- Files that still stand beside their places are removed. -/
theorem discarded (all : AllPlaced before files root top batch moved prepared)
    (whole : Batch before top batch)
    : ∃ after,
        (discard prepared).run.run files = (.ok (), after)
        ∧ AllPlaced before after root top batch moved [] := by
  obtain ⟨after, ran, ground, kept, nodes⟩ := discard_ok all.ground all.stands
  refine ⟨after, ran, ground, ?_, by simp, by simp, all.members,
    fun file member => (all.accepts file member).mono kept, fun file member => ?_,
    fun place below open_ => kept.directories place (all.open_ place below open_)⟩
  · refine all.drafted.change kept.base fun place settled => ?_
    rw [nodes]
    split
    · next drafted =>
        obtain ⟨p, among, rfl⟩ := List.mem_map.mp drafted
        exact .inr (whole.unused p.file (all.among p among)).symm
    · next elsewhere =>
        refine .inl ⟨rfl, fun found => ?_⟩
        rcases List.mem_append.mp found with drafted | placed
        · exact elsewhere drafted
        · exact settled (List.mem_append_right _ placed)
  · rw [nodes]
    split
    · simp
    · exact all.free file member

/-- Files that were moved are put back, once no file stands beside its place any more. -/
theorem restored (all : AllPlaced before files root top batch moved [])
    (whole : Batch before top batch)
    : ∃ after,
        (restoreFiles root (writtenOf moved).reverse).run.run files = (.ok (), after)
        ∧ after.Grounded root top
        ∧ Residue before after top batch := by
  have entries {entry : Path × Option ByteArray} (member : entry ∈ (writtenOf moved).reverse)
      : ∃ file ∈ moved, (file.path, file.loaded) = entry :=
    List.mem_map.mp (List.mem_reverse.mp member)
  have apart (file : StagedFile) (member : file ∈ moved) (other : StagedFile) (member' : other ∈ moved)
      : beside (file.location top) ≠ other.location top := fun same =>
    whole.apart file (all.members file member) other (all.members other member')
      (same ▸ List.prefix_rfl)
  have drafted := all.drafted
  simp only [Prepared.locations, List.map_nil, List.nil_append] at drafted
  have each : ∀ entry ∈ (writtenOf moved).reverse, Restorable before files root top entry := by
    intro entry member
    obtain ⟨file, among, rfl⟩ := entries member
    have inside := all.members file among
    refine ⟨whole.target file inside, all.accepts file among, all.free file among, ?_,
      whole.loaded file inside⟩
    refine drafted.unused whole inside fun found => ?_
    obtain ⟨other, among', same⟩ := List.mem_map.mp found
    exact apart file among other among' same.symm
  obtain ⟨after, ran, ground, kept, nodes⟩ :=
    restoreFiles_ok all.ground each fun entry member other member' => by
      obtain ⟨file, among, rfl⟩ := entries member
      obtain ⟨file', among', rfl⟩ := entries member'
      exact apart file among file' among'
  have locations (place : Location) : place ∈ Written.locations top (writtenOf moved).reverse
      ↔ place ∈ moved.map (·.location top) := by
    simp [Written.locations, writtenOf, StagedFile.location]
  refine ⟨after, ran, ground, kept.base.trans drafted.base, fun place below => ?_⟩
  rw [nodes]
  split
  · next placed =>
      obtain ⟨file, among, rfl⟩ := List.mem_map.mp ((locations place).mp placed)
      have inside := all.members file among
      have free := all.free file among
      rw [Files.content?]
      cases was : before.node? (file.location top) with
      | none => exact .inl rfl
      | some node =>
          cases node with
          | file content executable =>
              exact .inr (.inr ⟨file, inside, rfl, content, executable, rfl, rfl⟩)
          | directory => exact absurd (all.open_ _ below was) free
  · next elsewhere =>
      exact (drafted.node place below (fun found => elsewhere ((locations place).mpr found))).imp_right
        fun ⟨missing, made⟩ => .inl ⟨missing, made⟩

/-- What moving one more file to its place does to the tree. -/
theorem nodes {p : Prepared} (all : AllPlaced before files root top batch moved (p :: prepared))
    (whole : Batch before top batch) (ran : files.rename p.temporary p.target = .ok after)
    : after.Grounded root top
      ∧ Keeps files after
      ∧ ∃ content executable,
        files.node? (beside (p.file.location top)) = some (.file content executable)
        ∧ ∀ place, after.node? place
          = if place = p.file.location top then some (.file content executable)
            else if place = beside (p.file.location top) then none
            else files.node? place := by
  have stand := all.stands p List.mem_cons_self
  have target := whole.target p.file (all.among p List.mem_cons_self)
  have dropped := stand.reach.takes stand.free
  obtain ⟨content, executable, found, takes, set⟩ := all.ground.rename ran
  have at_ : files.locate p.temporary = beside (p.file.location top) :=
    target.locate_temporary all.ground (stand.target ▸ stand.temporary)
  have at_target : files.locate p.target = p.file.location top := by
    rw [stand.target]
    exact target.locate all.ground
  rw [at_] at found set
  rw [at_target] at takes set
  have takes' := takes.dropNode dropped
  refine ⟨set ▸ (all.ground.dropNode dropped).setNode takes' _,
    set ▸ dropped.keeps_dropNode.trans (takes'.keeps_setNode _), content, executable, found,
    fun place => ?_⟩
  rw [set, node?_setNode takes.ne_nil, node?_dropNode dropped.ne_nil]

/-- Moving one more file to its place, where it can be written again. -/
theorem rename {p : Prepared} (all : AllPlaced before files root top batch moved (p :: prepared))
    (whole : Batch before top batch) (ran : files.rename p.temporary p.target = .ok after)
    : AllPlaced before after root top batch (moved ++ [p.file]) prepared := by
  obtain ⟨ground, kept, content, executable, -, nodes⟩ := all.nodes whole ran
  obtain ⟨member, among⟩ := List.forall_mem_cons.mp all.among
  obtain ⟨⟨named, temporary, reach, -⟩, stands⟩ := List.forall_mem_cons.mp all.stands
  have target := whole.target p.file member
  rw [named] at ran temporary
  have reached := all.ground.reaches_of_canHold (target.under root) target.down
    (canHold_of_rename ran)
  rw [target.locate all.ground, ← StagedFile.location] at reached
  have free (place : Location) (free : files.node? place ≠ some .directory)
      : after.node? place ≠ some .directory := by
    rw [nodes]
    split
    · simp
    · split
      · simp
      · exact free
  refine ⟨ground, ?_, among, ?_, ?_, ?_, ?_,
    fun place below open_ => kept.directories place (all.open_ place below open_)⟩
  · refine all.drafted.change kept.base fun place settled => ?_
    simp only [List.map_append, List.map_cons, List.map_nil, List.mem_append, List.mem_singleton,
      not_or] at settled
    rw [nodes, if_neg settled.2.2]
    split
    · next drafted => exact .inr (drafted ▸ (whole.unused p.file member).symm)
    · next other =>
        refine .inl ⟨rfl, ?_⟩
        rw [Prepared.locations_cons]
        simp only [List.cons_append, List.mem_cons, List.mem_append, not_or]
        exact ⟨other, settled.1, settled.2.1⟩
  · exact fun q inside => (stands q inside).mono kept (free _ (stands q inside).free)
  · intro file inside
    rcases List.mem_append.mp inside with old | new
    · exact all.members file old
    · exact List.mem_singleton.mp new ▸ member
  · intro file inside
    rcases List.mem_append.mp inside with old | new
    · exact (all.accepts file old).mono kept
    · obtain rfl := List.mem_singleton.mp new
      exact ⟨reached.mono kept, p.temporary, temporary, reach.mono kept⟩
  · intro file inside
    rcases List.mem_append.mp inside with old | new
    · exact free _ (all.free file old)
    · obtain rfl := List.mem_singleton.mp new
      simp [nodes]

end AllPlaced

/-- Files that stand beside their places are moved there, others having been moved already: all of
them, or every file is put back; by induction on the files that are still to be moved.
-/
theorem place_outcome (whole : Batch before top batch) {prepared : List Prepared}
    {moved : List StagedFile} (all : AllPlaced before files root top batch moved prepared)
    {result : Except Failure Written}
    (ran : (place root (writtenOf moved) prepared).run.run files = (result, after))
    : (∀ failure, result = .error failure →
        after.Grounded root top ∧ Residue before after top batch)
      ∧ ∀ written, result = .ok written →
        written = writtenOf (moved ++ prepared.map (·.file))
        ∧ AllPlaced before after root top batch (moved ++ prepared.map (·.file)) [] := by
  induction prepared generalizing moved files with
  | nil =>
      cases ran
      exact ⟨nofun, fun written same => by cases same; simpa using all⟩
  | cons p rest ih =>
      rw [place, run_bind, FileAction.run_orUndo, FileAction.run_change] at ran
      cases renamed : files.rename p.temporary p.target with
      | error fault =>
          obtain ⟨cleaned, discards, cleanAll⟩ := all.discarded whole
          obtain ⟨restored, restores, ground, residue⟩ := cleanAll.restored whole
          simp only [renamed, run_bind, discards, restores] at ran
          cases ran
          exact ⟨fun _ _ => ⟨ground, residue⟩, nofun⟩
      | ok middle =>
          simp only [renamed] at ran
          have next := all.rename whole renamed
          have written : writtenOf moved ++ [(p.file.path, p.file.loaded)]
              = writtenOf (moved ++ [p.file]) := by simp [writtenOf]
          rw [written] at ran
          simpa using ih next ran

-----------------------------------------------------------------------------------------
-- Whole commits
-----------------------------------------------------------------------------------------

/-- All files of a batch are at their places, and else only directories were made. -/
abbrev AllMoved (before files : Files) (root : Path) (top : Location) (batch : List StagedFile)
    : Prop :=
  AllPlaced before files root top batch batch []

theorem AllMoved.sameBelow {tree : Files} (all : AllMoved before files root top batch)
    (same : SameBelow root top files tree)
    : AllMoved before tree root top batch := by
  refine ⟨same.grounded all.ground, ?_, by simp, by simp, all.members, ?_, ?_,
    fun place below open_ => (same.node place below).trans (all.open_ place below open_)⟩
  · refine ⟨same.base.trans all.drafted.base, fun place below settled => ?_⟩
    rw [same.node place below]
    exact all.drafted.node place below settled
  · intro file member
    obtain ⟨target, temporary, found, reach⟩ := all.accepts file member
    exact ⟨same.reaches target, temporary, found, same.reaches reach⟩
  · intro file member
    rw [same.node (file.location top) (List.prefix_append ..)]
    exact all.free file member

/-- A commit to the tree moves every changed file to its place, or leaves no file changed. -/
theorem commit_result {workspace : Workspace} (wet : workspace.dryRun = false) {stage : Stage}
    (ground : before.Grounded workspace.root top) (whole : Batch before top stage.changed)
    {result : Except Failure (Workspace × Written)}
    (ran : (workspace.commit stage).run.run before = (result, after))
    : (∀ failure, result = .error failure →
        after.Grounded workspace.root top ∧ Residue before after top stage.changed)
      ∧ ∀ value, result = .ok value →
        value = (workspace, writtenOf stage.changed)
        ∧ AllMoved before after workspace.root top stage.changed := by
  simp only [commit, wet, Bool.false_eq_true, if_false, run_bind] at ran
  rcases prepares : (prepare workspace.root [] stage.changed).run.run before with
    ⟨failure | prepared, middle⟩
  · obtain ⟨ground, drafted, -⟩ :=
      (prepare_outcome whole (fun _ => id) (.nil ground) prepares).1 failure rfl
    simp only [prepares] at ran
    cases ran
    exact ⟨fun _ _ => ⟨ground, drafted.residue⟩, nofun⟩
  · obtain ⟨files, all⟩ :=
      (prepare_outcome whole (fun _ => id) (.nil ground) prepares).2 prepared rfl
    simp only [List.map_nil, List.nil_append] at files
    rcases places : (place workspace.root [] prepared).run.run middle with
      ⟨failure | written, final⟩
    · have fails := (place_outcome whole (.of_prepared all whole) places).1 failure rfl
      simp only [prepares, places] at ran
      cases ran
      exact ⟨fun _ _ => fails, nofun⟩
    · have ends := (place_outcome whole (.of_prepared all whole) places).2 written rfl
      rw [List.nil_append, files] at ends
      obtain ⟨rfl, moved⟩ := ends
      simp only [prepares, places] at ran
      cases ran
      exact ⟨nofun, fun value same => by cases same; exact ⟨rfl, moved⟩⟩

/-- What was written can be put back, also after changes that are not below the root. -/
theorem restore_result {workspace : Workspace} (wet : workspace.dryRun = false)
    (all : AllMoved before files workspace.root top batch) (whole : Batch before top batch)
    : ∃ after,
        (workspace.restore (writtenOf batch)).run.run files = (.ok workspace, after)
        ∧ after.Grounded workspace.root top
        ∧ Residue before after top batch := by
  obtain ⟨after, ran, restored⟩ := all.restored whole
  refine ⟨after, ?_, restored⟩
  simp only [restore, wet, Bool.false_eq_true, if_false, run_bind, ran]
  rfl

end Workspace

end Groundwork
