import Groundwork.Proofs.Run.Staging
import Groundwork.Proofs.Text.Lines
import Groundwork.Proofs.Workspace.Reading

/-!
Commits of stages that were loaded from a tree. A commit that fails leaves every file as it was, and
one that goes through writes the files that were changed and no others, as long as nothing has the name
of a temporary file.
-/

namespace Groundwork

open Files Path Workspace

variable {seen before after : Files} {root : Path} {top : Location} {workspace : Workspace}
  {stage : Stage}

-----------------------------------------------------------------------------------------
-- Trees with the same contents
-----------------------------------------------------------------------------------------

/-- Below the top every file has the content it had, and only directories above some locations were
made.
-/
structure SameContents (top : Location) (locations : List Location) (before after : Files) : Prop where
  content : ∀ place, top <+: place → after.content? place = before.content? place
  kept : ∀ place, top <+: place → before.node? place = some .directory →
    after.node? place = some .directory
  made : ∀ place, top <+: place → after.node? place = some .directory →
    before.node? place = some .directory
    ∨ before.node? place = none ∧ ∃ location ∈ locations, IsAbove top place location

theorem SameContents.refl (top : Location) (locations : List Location) (files : Files)
    : SameContents top locations files files :=
  ⟨fun _ _ => rfl, fun _ _ => id, fun _ _ => .inl⟩

/-- A residue has the contents that were there before; by cases on what is at a location. -/
theorem Workspace.Residue.sameContents {files tree : Files} {batch : List StagedFile}
    (residue : Residue files tree top batch) {locations : List Location}
    (among : ∀ file ∈ batch, file.location top ∈ locations)
    : SameContents top locations files tree := by
  refine ⟨fun place below => ?_, fun place below open_ => ?_, fun place below open_ => ?_⟩
  · rcases residue.node place below with same | ⟨missing, made, -⟩ | ⟨-, -, -, _, _, was, now⟩
    · rw [content?, content?, same]
    · simp [content?, missing, made]
    · simp [content?, was, now, plainFile]
  · rcases residue.node place below with same | ⟨missing, -⟩ | ⟨-, -, -, _, _, was, -⟩
    · rw [same, open_]
    · exact absurd (open_.symm.trans missing) (by simp)
    · exact absurd (open_.symm.trans was) (by simp)
  · rcases residue.node place below with same | ⟨missing, -, file, inside, lies⟩
      | ⟨-, -, -, _, _, -, now⟩
    · exact .inl (same ▸ open_)
    · exact .inr ⟨missing, _, among file inside, lies⟩
    · exact absurd (open_.symm.trans now) (by simp [plainFile])

-----------------------------------------------------------------------------------------
-- Stages that were loaded from a tree
-----------------------------------------------------------------------------------------

/-- Stages that come about by loading files of a workspace from one tree, by paths that may name
targets, and by setting contents.
-/
inductive Stage.LoadedFrom (workspace : Workspace) (seen : Files) : Stage → Prop
  | empty : LoadedFrom workspace seen {}
  | load {stage after : Stage} {path : Path} {content : Option ByteArray}
    (earlier : LoadedFrom workspace seen stage) (sound : path.fault? = none)
    (spelled : path.IsSpelled)
    (loads : stage.load workspace seen path = .ok (content, after))
    : LoadedFrom workspace seen after
  | set {stage after : Stage} {path : Path} {content : ByteArray}
    (earlier : LoadedFrom workspace seen stage) (sets : stage.set path content = .ok after)
    : LoadedFrom workspace seen after

/-- A file that is loaded first and then set is staged with the content that was read and the one that
was set.
-/
theorem Stage.LoadedFrom.write (built : stage.LoadedFrom workspace seen) {path : Path}
    {loaded : Option ByteArray} (sound : path.fault? = none) (spelled : path.IsSpelled)
    (new : stage.files.get? path.components = none)
    (reading : workspace.read seen path = .ok loaded) (content : ByteArray)
    : Stage.LoadedFrom workspace seen
        { files := stage.files.insert path.components ⟨path, loaded, some content⟩ } := by
  have loads : stage.load workspace seen path
      = .ok (loaded, { files := stage.files.insert path.components ⟨path, loaded, loaded⟩ }) := by
    simp [Stage.load, new, reading, bind, Except.bind]
  refine (built.load sound spelled loads).set (show Stage.set _ path content = _ from ?_)
  simp [Stage.set, Dictionary.get?_insert, Dictionary.insert_insert]

/-- What was staged of one file holds what was read of it, and has a content if it had one then. -/
structure StagedFile.ReadFrom (workspace : Workspace) (seen : Files) (file : StagedFile) : Prop where
  sound : file.path.fault? = none
  spelled : file.path.IsSpelled
  loaded : workspace.read seen file.path = .ok file.loaded
  current : file.current = none → file.loaded = none

/-- Every file of a stage is under what its path names, in order, as it was read. -/
structure Stage.ReadFrom (workspace : Workspace) (seen : Files) (stage : Stage) : Prop where
  key : ∀ entry ∈ stage.files, entry.1 = entry.2.path.components
  file : ∀ entry ∈ stage.files, entry.2.ReadFrom workspace seen
  ordered : stage.files.Pairwise (·.1 < ·.1)

theorem Stage.ReadFrom.insert (reads : stage.ReadFrom workspace seen) {path : Path}
    {file : StagedFile} (key : path.components = file.path.components)
    (of_file : file.ReadFrom workspace seen)
    : Stage.ReadFrom workspace seen { files := stage.files.insert path.components file } := by
  refine ⟨fun entry member => ?_, fun entry member => ?_, Dictionary.pairwise_insert _ _ reads.ordered⟩
  · rcases Dictionary.mem_insert member with rfl | member
    · exact key
    · exact reads.key entry member
  · rcases Dictionary.mem_insert member with rfl | member
    · exact of_file
    · exact reads.file entry member

/-- Loading leaves a stage as it is, or puts what is read of a file into it. -/
theorem Stage.load_cases {after : Stage} {path : Path} {content : Option ByteArray}
    (loads : stage.load workspace seen path = .ok (content, after))
    : after = stage
      ∨ ∃ loaded, workspace.read seen path = .ok loaded
        ∧ after = { files := stage.files.insert path.components ⟨path, loaded, loaded⟩ } := by
  rw [load] at loads
  cases known : stage.files.get? path.components with
  | some file =>
      simp only [known] at loads
      cases loads
      exact .inl rfl
  | none =>
      simp only [known] at loads
      cases reading : workspace.read seen path with
      | error failure => simp [reading, bind, Except.bind] at loads
      | ok loaded =>
          simp only [reading, bind, Except.bind] at loads
          cases loads
          exact .inr ⟨_, rfl, rfl⟩

/-- Setting changes the content that a file of the stage is to have. -/
theorem Stage.set_cases {after : Stage} {path : Path} {content : ByteArray}
    (sets : stage.set path content = .ok after)
    : ∃ file, stage.files.get? path.components = some file
        ∧ after = { files :=
            stage.files.insert path.components { file with current := some content } } := by
  rw [set] at sets
  cases known : stage.files.get? path.components with
  | none => simp [known] at sets
  | some file =>
      simp only [known] at sets
      cases sets
      exact ⟨file, rfl, rfl⟩

/-- Loading and setting keep what a stage holds as it was read; by induction on how it came about. -/
theorem Stage.LoadedFrom.readFrom (built : stage.LoadedFrom workspace seen)
    : stage.ReadFrom workspace seen := by
  induction built with
  | empty => exact ⟨by simp, by simp, .nil⟩
  | load _ sound spelled loads reads =>
      rcases load_cases loads with rfl | ⟨loaded, reading, rfl⟩
      · exact reads
      · exact reads.insert rfl ⟨sound, spelled, reading, id⟩
  | set _ sets reads =>
      obtain ⟨file, known, rfl⟩ := set_cases sets
      have member := Dictionary.mem_of_get? known
      obtain ⟨sound, spelled, loaded, -⟩ := reads.file _ member
      exact reads.insert (reads.key _ member) ⟨sound, spelled, loaded, by simp⟩

/-- A file is to be written exactly if its content is to be another one than was read. -/
theorem StagedFile.ReadFrom.isChanged_iff {file : StagedFile} (reads : file.ReadFrom workspace seen)
    : file.isChanged = true ↔ file.current ≠ file.loaded := by
  cases now : file.current with
  | none => simp [StagedFile.isChanged, now, reads.current now]
  | some content => simp [StagedFile.isChanged, now]

theorem Stage.ReadFrom.mem_changed (reads : stage.ReadFrom workspace seen) {file : StagedFile}
    : file ∈ stage.changed ↔ (∃ key, (key, file) ∈ stage.files) ∧ file.current ≠ file.loaded := by
  rw [Stage.changed, List.mem_filter, List.mem_map]
  constructor
  · rintro ⟨⟨entry, member, rfl⟩, changed⟩
    exact ⟨⟨entry.1, member⟩, (reads.file entry member).isChanged_iff.mp changed⟩
  · rintro ⟨⟨key, member⟩, differs⟩
    exact ⟨⟨_, member, rfl⟩, (reads.file _ member).isChanged_iff.mpr differs⟩

/-- Nothing in the tree, no target and no directory above one has the name of a temporary file of a
stage.
-/
structure Stage.HasFreshNames (stage : Stage) (files : Files) (top : Location) : Prop where
  unused : ∀ path ∈ stage.changedPaths, files.node? (beside (top ++ path.names)) = none
  apart : ∀ path ∈ stage.changedPaths, ∀ other ∈ stage.changedPaths,
    ¬ beside (top ++ path.names) <+: top ++ other.names

/-- The changed files of a stage as it was read form a batch, also if other files changed since. -/
theorem Stage.ReadFrom.batch (reads : stage.ReadFrom workspace seen)
    (plain : workspace.overlay = []) (ground : seen.Grounded workspace.root top)
    (unchanged : ∀ path ∈ stage.changedPaths,
      before.content? (top ++ path.names) = seen.content? (top ++ path.names))
    (fresh : stage.HasFreshNames before top)
    : Batch before top stage.changed := by
  have path (file : StagedFile) (member : file ∈ stage.changed) : file.path ∈ stage.changedPaths :=
    List.mem_map_of_mem member
  have read (file : StagedFile) (member : file ∈ stage.changed)
      : file.ReadFrom workspace seen
        ∧ seen.node? (top ++ file.path.names) ≠ some .directory
        ∧ seen.content? (top ++ file.path.names) = file.loaded := by
    obtain ⟨⟨key, inside⟩, -⟩ := reads.mem_changed.mp member
    have of_file := reads.file _ inside
    exact ⟨of_file, content?_of_read ground rfl plain of_file.sound of_file.loaded⟩
  refine ⟨fun file member => ?_, fun file member => ?_, fun file member => ?_,
    fun file member other member' => ?_⟩
  · obtain ⟨of_file, free, -⟩ := read file member
    refine ⟨of_file.sound, of_file.spelled, fun none => free ?_⟩
    rw [none, List.append_nil]
    exact ground.open_
  · exact (unchanged _ (path file member)).trans (read file member).2.2
  · exact fresh.unused _ (path file member)
  · exact fresh.apart _ (path file member) _ (path other member')

-----------------------------------------------------------------------------------------
-- Commits that fail
-----------------------------------------------------------------------------------------

/-- A commit to the tree that fails leaves every file below the root with its content, no other one and
no temporary file; it may have made directories above the files that it was to write.
-/
theorem Workspace.commit_failed {failure : Failure} (wet : workspace.dryRun = false)
    (plain : workspace.overlay = []) (seenGround : seen.Grounded workspace.root top)
    (ground : before.Grounded workspace.root top) (built : stage.LoadedFrom workspace seen)
    (unchanged : ∀ path ∈ stage.changedPaths,
      before.content? (top ++ path.names) = seen.content? (top ++ path.names))
    (fresh : stage.HasFreshNames before top)
    (failed : (workspace.commit stage).run.run before = (.error failure, after))
    : SameContents top (stage.changedPaths.map (top ++ ·.names)) before after
      ∧ ∀ path ∈ stage.changedPaths, after.node? (beside (top ++ path.names)) = none := by
  have whole := built.readFrom.batch plain seenGround unchanged fresh
  obtain ⟨-, residue⟩ := (commit_result wet ground whole failed).1 failure rfl
  refine ⟨residue.sameContents fun file member => ?_, fun path member => ?_⟩
  · exact List.mem_map.mpr ⟨file.path, List.mem_map_of_mem member, rfl⟩
  · obtain ⟨file, inside, rfl⟩ := List.mem_map.mp member
    have below := (whole.target file inside).below_beside top
    rcases residue.node _ below with same | ⟨-, -, other, inside', lies⟩ | ⟨other, inside', here, -⟩
    · exact same.trans (fresh.unused _ member)
    · exact absurd lies.within (whole.apart file inside other inside')
    · exact absurd (here ▸ List.prefix_rfl) (whole.apart file inside other inside')

/-- A tree with a file and another node right below the top. -/
def Files.holding (name : String) (node : FileNode) : Files :=
  (Files.empty.setNode ["a"] (plainFile "old".toUTF8)).setNode [name] node

theorem Files.holding_grounded {name : String} (other : name ≠ "a") (node : FileNode)
    : (holding name node).Grounded ⟨"", [""]⟩ [] := by
  have first : (Files.empty.setNode ["a"] (plainFile "old".toUTF8)).Grounded ⟨"", [""]⟩ [] :=
    grounded_empty.setNode ⟨by simp [node?, Files.empty, Dictionary.get?], [], "a", rfl, fun _ => rfl⟩ _
  refine first.setNode ⟨?_, [], name, rfl, fun _ => rfl⟩ _
  rw [node?_setNode (by simp), if_neg (by simpa using other)]
  simp [node?, Files.empty, Dictionary.get?]

/-- A stage that changes a file and writes another one. -/
def Stage.changing : Stage where
  files :=
    [([.name "a"], ⟨⟨"a", []⟩, some "old".toUTF8, some "new".toUTF8⟩),
      ([.name "z"], ⟨⟨"z", []⟩, none, some "last".toUTF8⟩)]

theorem Stage.changing_loadedFrom
    (first : workspace.read seen ⟨"a", []⟩ = .ok (some "old".toUTF8))
    (second : workspace.read seen ⟨"z", []⟩ = .ok none)
    : changing.LoadedFrom workspace seen := by
  have one := Stage.LoadedFrom.empty.write (by decide) ⟨"a", by decide⟩ rfl first "new".toUTF8
  exact one.write (by decide) ⟨"z", by decide⟩ rfl second "last".toUTF8

/-- The names of its temporary files are fresh where nothing has them. -/
theorem Stage.changing_hasFreshNames (first : before.node? [".a.scaffold-tmp"] = none)
    (second : before.node? [".z.scaffold-tmp"] = none)
    : changing.HasFreshNames before [] := by
  have paths : changing.changedPaths = [⟨"a", []⟩, ⟨"z", []⟩] := by decide +kernel
  refine ⟨?_, ?_⟩ <;> rw [paths]
  · simp only [List.forall_mem_cons]
    exact ⟨first, second, by simp⟩
  · decide +kernel

/-- A commit that fails, as a directory has come to be in the place of its second file, leaves the first
one as it was.
-/
theorem Workspace.commit_failed_blocked
    : ∃ failure after,
        ((Workspace.mk ⟨"", [""]⟩ false []).commit .changing).run.run
            ((Files.holding "b" (plainFile "kept".toUTF8)).setNode ["z"] .directory)
          = (.error failure, after)
        ∧ after.content? ["a"] = some "old".toUTF8
        ∧ after.node? [".z.scaffold-tmp"] = none := by
  let seen := Files.holding "b" (plainFile "kept".toUTF8)
  let before := seen.setNode ["z"] .directory
  have ground := Files.holding_grounded (show "b" ≠ "a" by decide) (plainFile "kept".toUTF8)
  have free : seen.node? ["z"] ≠ some .directory := by
    rw [show seen.node? ["z"] = none from rfl]
    simp
  have ground' : before.Grounded ⟨"", [""]⟩ [] := ground.setNode ⟨free, [], "z", rfl, fun _ => rfl⟩ _
  have unchanged : ∀ path ∈ Stage.changing.changedPaths,
      before.content? ([] ++ path.names) = seen.content? ([] ++ path.names) := by
    have paths : Stage.changing.changedPaths = [⟨"a", []⟩, ⟨"z", []⟩] := by decide +kernel
    rw [paths]
    simp only [List.forall_mem_cons]
    exact ⟨rfl, rfl, by simp⟩
  have fails : (((Workspace.mk ⟨"", [""]⟩ false []).commit .changing).run.run before).1.toOption.isNone := by
    decide +kernel
  rcases ran : ((Workspace.mk ⟨"", [""]⟩ false []).commit .changing).run.run before with
    ⟨failure | value, after⟩
  · obtain ⟨same, unused⟩ := commit_failed rfl rfl ground ground' (Stage.changing_loadedFrom rfl rfl)
      unchanged (Stage.changing_hasFreshNames rfl rfl) ran
    refine ⟨failure, after, rfl, same.content ["a"] List.nil_prefix, unused ⟨"z", []⟩ ?_⟩
    decide +kernel
  · rw [ran] at fails
    cases fails

-----------------------------------------------------------------------------------------
-- Commits that go through
-----------------------------------------------------------------------------------------

/-- After a commit that goes through, the files that were written have their new contents, and every
other place below the root has the content it had, or none as before.
-/
theorem Workspace.content?_of_commit {kept : Workspace} {written : Written}
    (wet : workspace.dryRun = false) (ground : before.Grounded workspace.root top)
    (whole : Batch before top stage.changed)
    (ran : (workspace.commit stage).run.run before = (.ok (kept, written), after))
    : (∀ file ∈ stage.changed, after.content? (file.location top) = some file.content)
      ∧ ∀ place, top <+: place → (∀ file ∈ stage.changed, place ≠ file.location top) →
          after.content? place = before.content? place := by
  obtain ⟨-, all⟩ := (commit_result wet ground whole ran).2 _ rfl
  obtain ⟨committed, -⟩ := committed_of_commit wet ground whole ran
  refine ⟨fun file member => ?_, fun place below elsewhere => ?_⟩
  · rw [content?, committed.placed file member, plainFile]
  · have settled : place ∉ Prepared.locations top [] ++ stage.changed.map (·.location top) := by
      intro found
      obtain ⟨file, member, here⟩ := List.mem_map.mp found
      exact elsewhere file member here.symm
    rw [content?, content?]
    rcases all.drafted.node place below settled with same | ⟨missing, made, -⟩
    · rw [same]
    · rw [missing, made]

/-- The content of a file that is to be changed is the one that was set. -/
theorem StagedFile.ReadFrom.content {file : StagedFile} (reads : file.ReadFrom workspace seen)
    (differs : file.current ≠ file.loaded)
    : some file.content = file.current := by
  cases now : file.current with
  | none => exact absurd (now.trans (reads.current now).symm) differs
  | some content => simp [StagedFile.content, now]

/-- After a commit that goes through, every staged file that has a content is there and is read as it
was spelled; by cases on whether it was written.
-/
theorem Workspace.read_of_commit {kept : Workspace} {written : Written}
    (wet : workspace.dryRun = false) (plain : workspace.overlay = [])
    (ground : before.Grounded workspace.root top) (reads : stage.ReadFrom workspace before)
    (whole : Batch before top stage.changed)
    (ran : (workspace.commit stage).run.run before = (.ok (kept, written), after))
    {key : PathKey} {file : StagedFile} (member : (key, file) ∈ stage.files)
    (held : file.current.isSome)
    : ∃ content,
        after.content? (top ++ file.path.names) = some content
        ∧ after.read (workspace.root.join file.path) = .ok content := by
  obtain ⟨-, all⟩ := (commit_result wet ground whole ran).2 _ rfl
  obtain ⟨placed, others⟩ := content?_of_commit wet ground whole ran
  by_cases differs : file.current = file.loaded
  · obtain ⟨content, now⟩ := Option.isSome_iff_exists.mp held
    have of_file := reads.file _ member
    have found := (content?_of_read ground rfl plain of_file.sound of_file.loaded).2
    have reach : before.Reaches workspace.root top (workspace.root.join file.path)
        (top ++ file.path.names) :=
      reaches_of_read ground rfl plain of_file.sound (by rw [of_file.loaded, ← differs, now])
    have there : ∃ content, after.content? (top ++ file.path.names) = some content := by
      by_cases among : ∃ other ∈ stage.changed, top ++ file.path.names = other.location top
      · obtain ⟨other, inside, here⟩ := among
        exact ⟨other.content, here ▸ placed other inside⟩
      · refine ⟨content, ?_⟩
        rw [others _ (List.prefix_append ..) fun other inside here => among ⟨other, inside, here⟩,
          found, ← differs, now]
    obtain ⟨content, there⟩ := there
    refine ⟨content, there, read_of_reaches (reach.of_found all.ground ?_) all.ground there⟩
    obtain ⟨executable, node⟩ := content?_eq_some.mp there
    rw [node]
    rfl
  · have changed := reads.mem_changed.mpr ⟨⟨key, member⟩, differs⟩
    exact ⟨file.content, placed file changed,
      read_of_reaches (all.accepts file changed).target all.ground (placed file changed)⟩

/-- A commit to the tree that goes through lists the files whose contents were to be others than those
that were read, in the order of their paths and with what they held; these files have their new
contents, and every other place below the root has the content it had, or none as before.
-/
theorem Workspace.commit_writes {kept : Workspace} {written : Written}
    (wet : workspace.dryRun = false) (plain : workspace.overlay = [])
    (ground : before.Grounded workspace.root top) (built : stage.LoadedFrom workspace before)
    (fresh : stage.HasFreshNames before top)
    (ran : (workspace.commit stage).run.run before = (.ok (kept, written), after))
    : (∀ path loaded, (path, loaded) ∈ written ↔
        ∃ key file, (key, file) ∈ stage.files
          ∧ file.path = path ∧ file.loaded = loaded ∧ file.current ≠ file.loaded)
      ∧ written.Pairwise (·.1.components < ·.1.components)
      ∧ (∀ key file, (key, file) ∈ stage.files → file.current ≠ file.loaded →
          after.content? (top ++ file.path.names) = file.current
          ∧ before.content? (top ++ file.path.names) = file.loaded)
      ∧ ∀ place, top <+: place → (∀ entry ∈ written, place ≠ top ++ entry.1.names) →
          after.content? place = before.content? place := by
  have reads := built.readFrom
  have whole := reads.batch plain ground (fun _ _ => rfl) fresh
  obtain ⟨listed, -⟩ := (commit_result wet ground whole ran).2 _ rfl
  obtain ⟨placed, others⟩ := content?_of_commit wet ground whole ran
  obtain rfl : written = writtenOf stage.changed := (Prod.mk.inj listed).2
  refine ⟨fun path loaded => ?_, ?_, fun key file member differs => ?_, fun place below elsewhere => ?_⟩
  · rw [writtenOf, List.mem_map]
    constructor
    · rintro ⟨file, member, same⟩
      obtain ⟨⟨key, inside⟩, differs⟩ := reads.mem_changed.mp member
      obtain ⟨rfl, rfl⟩ := Prod.mk.inj same
      exact ⟨key, file, inside, rfl, rfl, differs⟩
    · rintro ⟨key, file, inside, rfl, rfl, differs⟩
      exact ⟨file, reads.mem_changed.mpr ⟨⟨key, inside⟩, differs⟩, rfl⟩
  · have ordered : (stage.files.map (·.2)).Pairwise (·.path.components < ·.path.components) := by
      refine List.pairwise_map.mpr (reads.ordered.imp_of_mem fun {one two} member member' before => ?_)
      rwa [← reads.key one member, ← reads.key two member']
    exact List.pairwise_map.mpr (ordered.filter _)
  · have changed := reads.mem_changed.mpr ⟨⟨key, member⟩, differs⟩
    exact ⟨(placed file changed).trans ((reads.file _ member).content differs), whole.loaded file changed⟩
  · exact others place below fun file member =>
      elsewhere (file.path, file.loaded) (List.mem_map_of_mem member)

/-- A commit that goes through leaves the file that was not staged. -/
theorem Workspace.commit_writes_changing
    : ∃ kept written after,
        ((Workspace.mk ⟨"", [""]⟩ false []).commit .changing).run.run
            (.holding "b" (plainFile "kept".toUTF8))
          = (.ok (kept, written), after)
        ∧ (⟨"a", []⟩, some "old".toUTF8) ∈ written
        ∧ after.content? ["a"] = some "new".toUTF8 := by
  have ground := Files.holding_grounded (show "b" ≠ "a" by decide) (plainFile "kept".toUTF8)
  have passes : (((Workspace.mk ⟨"", [""]⟩ false []).commit .changing).run.run
      (.holding "b" (plainFile "kept".toUTF8))).1.toOption.isSome := by
    decide +kernel
  rcases ran : ((Workspace.mk ⟨"", [""]⟩ false []).commit .changing).run.run
      (.holding "b" (plainFile "kept".toUTF8)) with ⟨failure | ⟨kept, written⟩, after⟩
  · rw [ran] at passes
    cases passes
  · obtain ⟨listed, -, changed, -⟩ := commit_writes rfl rfl ground
      (Stage.changing_loadedFrom rfl rfl) (Stage.changing_hasFreshNames rfl rfl) ran
    have member := @List.mem_cons_self _ (([.name "a"] : PathKey),
      StagedFile.mk ⟨"a", []⟩ (some "old".toUTF8) (some "new".toUTF8)) []
    have differs : some "new".toUTF8 ≠ some "old".toUTF8 := by decide +kernel
    have inside := List.mem_append_left [(([.name "z"] : PathKey),
      StagedFile.mk ⟨"z", []⟩ none (some "last".toUTF8))] member
    exact ⟨kept, written, after, rfl, (listed _ _).mpr ⟨_, _, inside, rfl, rfl, differs⟩,
      (changed _ _ inside differs).1⟩

/-- A commit that goes through may remove a file that was not staged, which has the name of a temporary
file.
-/
theorem Workspace.commit_removes_other
    : ∃ kept written after,
        Stage.changing.LoadedFrom ⟨⟨"", [""]⟩, false, []⟩
          (.holding ".a.scaffold-tmp" (plainFile "kept".toUTF8))
        ∧ ((Workspace.mk ⟨"", [""]⟩ false []).commit .changing).run.run
              (.holding ".a.scaffold-tmp" (plainFile "kept".toUTF8))
            = (.ok (kept, written), after)
        ∧ (Files.holding ".a.scaffold-tmp" (plainFile "kept".toUTF8)).content? [".a.scaffold-tmp"]
            = some "kept".toUTF8
        ∧ after.content? [".a.scaffold-tmp"] = none := by
  have passes : (((Workspace.mk ⟨"", [""]⟩ false []).commit .changing).run.run
      (.holding ".a.scaffold-tmp" (plainFile "kept".toUTF8))).1.toOption.isSome
      ∧ (((Workspace.mk ⟨"", [""]⟩ false []).commit .changing).run.run
        (.holding ".a.scaffold-tmp" (plainFile "kept".toUTF8))).2.content? [".a.scaffold-tmp"]
        = none := by
    decide +kernel
  rcases ran : ((Workspace.mk ⟨"", [""]⟩ false []).commit .changing).run.run
      (.holding ".a.scaffold-tmp" (plainFile "kept".toUTF8)) with ⟨failure | ⟨kept, written⟩, after⟩
  · rw [ran] at passes
    obtain ⟨passed, -⟩ := passes
    cases passed
  · rw [ran] at passes
    exact ⟨kept, written, after, Stage.changing_loadedFrom rfl rfl, rfl, rfl, passes.2⟩

end Groundwork
