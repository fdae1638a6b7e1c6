import Groundwork.Proofs.Workspace.Reading

/-!
Contents kept beside the tree, against the tree that they would be written to: targets are read with
the same result from both, and what was staged from one of them could be committed to the other.
-/

namespace Groundwork.Workspace

open Files Path

variable {before after tree files : Files} {root path : Path} {top : Location} {targets : List Path}
  {overlay : Dictionary PathKey ByteArray} {batch : List StagedFile}

-----------------------------------------------------------------------------------------
-- Targets that can be foreseen
-----------------------------------------------------------------------------------------

/-- The system has room for the names of a target, for its path, and for the file beside it. -/
structure FitsLimits (root path : Path) : Prop where
  names : ∀ name ∈ path.names, name.utf8ByteSize ≤ nameLimit
  short : ∀ name ∈ path.names.getLast?, (temporaryName name).utf8ByteSize ≤ nameLimit
  whole : (root.join path).toString.utf8ByteSize < pathLimit
  beside : ∀ temporary, temporaryPath (root.join path) = .ok temporary →
    temporary.toString.utf8ByteSize < pathLimit

/-- Targets that are written as usual, within the limits, and none of which lies above another. -/
structure ForeseenTargets (root : Path) (targets : List Path) : Prop where
  sound : ∀ path ∈ targets, path.fault? = none
  normal : ∀ path ∈ targets, path.IsNormal
  separate : ∀ path ∈ targets, ∀ other ∈ targets, path.names <+: other.names →
    path.names = other.names
  limits : ∀ path ∈ targets, FitsLimits root path

namespace ForeseenTargets

variable {other : Path}

/-- Targets with the same names name the same. -/
theorem components_congr (foreseen : ForeseenTargets root targets) (member : path ∈ targets)
    (member' : other ∈ targets) (same : path.names = other.names)
    : path.components = other.components := by
  rw [(foreseen.normal path member).components (foreseen.sound path member),
    (foreseen.normal other member').components (foreseen.sound other member'), same]

/-- No target lies above another one. -/
theorem not_isAbove (foreseen : ForeseenTargets root targets) (member : path ∈ targets)
    (member' : other ∈ targets)
    : ¬ IsAbove top (top ++ path.names) (top ++ other.names) := by
  intro lies
  have within := (List.prefix_append_right_inj top).mp lies.within
  exact lies.other (by rw [foreseen.separate path member other member' within])

/-- A target is followed if one with the same names is: it has no other segments but empty ones. -/
theorem refusal?_congr (foreseen : ForeseenTargets root targets) (member : path ∈ targets)
    (member' : other ∈ targets) (same : path.names = other.names)
    (fits : refusal? (root.join path) = none)
    : refusal? (root.join other) = none := by
  obtain ⟨before, -, joined⟩ := segments_join root
  obtain ⟨clean, -, -⟩ := refusal?_eq_none.mp fits
  rw [joined path (fault?_eq_none (foreseen.sound path member)).2.1] at clean
  refine refusal?_eq_none.mpr
    ⟨?_, isEmpty_join (foreseen.sound other member'), (foreseen.limits other member').whole⟩
  rw [joined other (fault?_eq_none (foreseen.sound other member')).2.1]
  intro segment among
  rcases List.mem_append.mp among with inner | own
  · exact clean segment (List.mem_append_left _ inner)
  · rcases (foreseen.normal other member').mem_names own with rfl | name
    · simp
    · have mine : segment ∈ path.segments := (List.mem_filter.mp (same ▸ name : segment ∈ path.names)).1
      exact clean segment (List.mem_append_right _ mine)

end ForeseenTargets

/-- The temporary file beside a target has a path that is followed if the target's is, unless it is too
long.
-/
theorem IsTarget.refusal?_temporary (target : IsTarget path) (fits : refusal? (root.join path) = none)
    {temporary : Path} (found : temporaryPath (root.join path) = .ok temporary)
    (short : temporary.toString.utf8ByteSize < pathLimit)
    : refusal? temporary = none := by
  obtain ⟨parent, name, above, named, parents, -, names, -⟩ :=
    (target.under root).parent? target.named target.down
  have own : name ∈ path.segments :=
    (List.mem_filter.mp (show name ∈ namesOf path.segments by simp [names])).1
  have whole : '/' ∉ (temporaryName name).toList := by
    simpa [toList_temporaryName] using target.spelled.no_slash name own
  have renamed : temporary = parent.join ⟨temporaryName name, []⟩ := by
    simp only [temporaryPath, named] at found
    cases found
    simp only [withFileName, named, parents]
    exact congrArg parent.join (ofString_of_no_slash whole)
  obtain ⟨before, within, joined⟩ := segments_join parent
  have segments : temporary.segments = before ++ [temporaryName name] :=
    renamed ▸ joined ⟨temporaryName name, []⟩ (by simp [isAbsolute])
  obtain ⟨clean, -, -⟩ := refusal?_eq_none.mp fits
  have plain := isName_temporaryName name
  refine refusal?_eq_none.mpr ⟨fun segment member => ?_, ?_, short⟩
  · rw [segments] at member
    rcases List.mem_append.mp member with inner | last
    · rcases segments_parent? parents segment (within segment inner) with rfl | among
      · simp
      · exact clean segment among
    · rw [List.mem_singleton.mp last, toList_temporaryName]
      obtain ⟨_, -, joined⟩ := segments_join root
      have among : name ∈ (root.join path).segments := by
        rw [joined path (fault?_eq_none target.sound).2.1]
        exact List.mem_append_right _ own
      have ending : ".scaffold-tmp".toList.all (fun c => c.toNat ≠ 0) = true := by decide
      intro c inside
      rcases List.mem_cons.mp inside with rfl | inside
      · decide
      · rcases List.mem_append.mp inside with inside | inside
        · exact clean name among c inside
        · exact of_decide_eq_true (List.all_eq_true.mp ending c inside)
  · cases empty : temporary.isEmpty with
    | false => rfl
    | true =>
        obtain ⟨head, tail⟩ : temporary.head = "" ∧ temporary.tail = [] := by
          simpa [Path.isEmpty] using empty
        have last : temporaryName name ∈ temporary.segments := by simp [segments]
        simp only [Path.segments, head, tail, List.mem_singleton] at last
        have counts := plain.counts
        rw [last] at counts
        exact absurd counts (by decide)

-----------------------------------------------------------------------------------------
-- Targets that could be read
-----------------------------------------------------------------------------------------

/-- A target that could be read is followed, and no file is on the way to it. -/
theorem clear_of_read (ground : files.Grounded root top) (sound : path.fault? = none)
    {loaded : Option ByteArray}
    (read : (Workspace.mk root false []).read files path = .ok loaded)
    : refusal? (root.join path) = none
      ∧ ∀ way more content executable, path.names = way ++ more → more ≠ [] →
          files.node? (top ++ way) ≠ some (.file content executable) := by
  obtain ⟨-, relative, down⟩ := fault?_eq_none sound
  have fault_of {fault : FileFault} (leads : files.place (root.join path) = .error fault)
      : fault = .notFound := by
    simp only [Workspace.read, Dictionary.get?, read_eq, leads, Except.bind] at read
    cases fault <;> first | rfl | cases read
  have fits : refusal? (root.join path) = none := by
    cases refused : refusal? (root.join path) with
    | none => rfl
    | some fault =>
        have leads : files.place (root.join path) = .error fault := by rw [place_eq, refused]
        obtain rfl := fault_of leads
        exact absurd (isEmpty_of_refusal? refused) (by simp [isEmpty_join sound])
  refine ⟨fits, fun way more content executable names some found => ?_⟩
  obtain ⟨fault, blocked, other⟩ := ground.walk_blocked List.prefix_rfl down names some found
  rw [← ground.place_under (join_under relative) fits] at blocked
  exact other (fault_of blocked)

/-- A file can be written beside a target that could be read. -/
theorem IsTarget.admits_of_read (target : IsTarget path) (limits : FitsLimits root path)
    (ground : files.Grounded root top) {loaded : Option ByteArray}
    (read : (Workspace.mk root false []).read files path = .ok loaded)
    : Admits files root top path := by
  obtain ⟨fits, free⟩ := clear_of_read ground target.sound read
  refine ⟨fits, fun temporary found =>
    target.refusal?_temporary fits found (limits.beside temporary found), limits.short,
    fun name member => limits.names name (List.dropLast_subset _ member), ?_⟩
  intro way content executable within found
  obtain ⟨above, name, names, -⟩ := target.last
  rw [names, List.dropLast_concat] at within
  obtain ⟨more, split⟩ := within
  exact free way (more ++ [name]) content executable (by rw [names, ← split, List.append_assoc])
    (by simp) found

/-- What was staged of foreseen targets is ready to be committed. -/
theorem ForeseenTargets.ready (foreseen : ForeseenTargets root targets)
    (ground : files.Grounded root top) (whole : Batch files top batch)
    (members : ∀ file ∈ batch, file.path ∈ targets)
    (reads : ∀ file ∈ batch,
      (Workspace.mk root false []).read files file.path = .ok file.loaded)
    (distinct : (batch.map (·.path.components)).Nodup)
    : Ready files root top batch := by
  refine ⟨fun file member => ?_, fun file member => ?_, fun file member => ?_, ?_,
    fun file member other member' => ?_⟩
  · exact (content?_of_read ground rfl rfl (foreseen.sound _ (members file member)) (reads file member)).1
  · exact (whole.target file member).admits_of_read (foreseen.limits _ (members file member)) ground
      (reads file member)
  · exact (foreseen.normal _ (members file member)).last (foreseen.sound _ (members file member))
  · refine List.Nodup.map_on ?_ distinct.of_map
    intro file member other member' same
    have names := List.append_cancel_left same
    have named := foreseen.components_congr (members file member) (members other member') names
    exact List.inj_on_of_nodup_map distinct member member' named
  · exact foreseen.not_isAbove (members file member) (members other member')

-----------------------------------------------------------------------------------------
-- Contents beside the tree
-----------------------------------------------------------------------------------------

/-- The second tree holds what is kept beside the first one, and is like it along all targets of which
nothing is kept.
-/
structure Foreseen (before after : Files) (overlay : Dictionary PathKey ByteArray) (root : Path)
    (top : Location) (targets : List Path)
    : Prop where
  held : ∀ path ∈ targets, ∀ content, overlay.get? path.components = some content →
    after.content? (top ++ path.names) = some content ∧ refusal? (root.join path) = none
  free : ∀ path ∈ targets, overlay.get? path.components = none →
    LikeAlong before after top path.names

/-- A tree foresees itself, if names are short enough to tell what is missing. -/
theorem Foreseen.refl (foreseen : ForeseenTargets root targets) (files : Files)
    : Foreseen files files [] root top targets := by
  refine ⟨fun path member content kept => ?_, fun path member _ => ?_⟩
  · cases kept
  · exact ⟨fun _ _ => .inl rfl, id, fun _ => (foreseen.limits path member).names⟩

/-- The second tree may change where no target is, if directories are all that is made on the way of
one.
-/
theorem Foreseen.change (holds : Foreseen before after overlay root top targets)
    (node : ∀ path ∈ targets, tree.node? (top ++ path.names) = after.node? (top ++ path.names))
    (like : ∀ path ∈ targets, ∀ way, way <+: path.names → LikeAt after tree (top ++ way))
    : Foreseen before tree overlay root top targets := by
  refine ⟨fun path member content kept => ?_, fun path member none => ?_⟩
  · obtain ⟨found, fits⟩ := holds.held path member content kept
    refine ⟨?_, fits⟩
    rw [← found, content?, content?, node path member]
  · exact (holds.free path member none).trans (like path member) fun missing => by
      rw [node path member, missing]

theorem Foreseen.sameBelow (holds : Foreseen before after overlay root top targets)
    (same : SameBelow root top after tree)
    : Foreseen before tree overlay root top targets :=
  holds.change (fun _ _ => same.node _ (List.prefix_append ..))
    fun _ _ _ _ => .inl (same.node _ (List.prefix_append ..))

/-- Targets are read beside the first tree with the same result as from the second. -/
theorem Foreseen.read {workspace : Workspace}
    (holds : Foreseen before after workspace.overlay workspace.root top targets)
    (foreseen : ForeseenTargets workspace.root targets)
    (ground : before.Grounded workspace.root top) (other : after.Grounded workspace.root top)
    (member : path ∈ targets)
    : workspace.read before path = (Workspace.mk workspace.root false []).read after path := by
  have sound := foreseen.sound path member
  obtain ⟨-, relative, down⟩ := fault?_eq_none sound
  have under : (workspace.root.join path).Under workspace.root path.segments := join_under relative
  have nothing : Dictionary.get? ([] : Dictionary PathKey ByteArray) path.components = none := rfl
  cases kept : workspace.overlay.get? path.components with
  | none =>
      have same := read_congr ground other under down (holds.free path member kept)
      simp only [Workspace.read, kept, nothing, same]
  | some content =>
      obtain ⟨found, fits⟩ := holds.held path member content kept
      obtain ⟨executable, there⟩ := content?_eq_some.mp found
      obtain ⟨init, name, split, plain⟩ := (foreseen.normal path member).last sound
      have names : path.names = namesOf init ++ [name] := by
        rw [Path.names, split, namesOf_append, plain.namesOf_cons, namesOf_nil]
      have short := (foreseen.limits path member).names
      rw [names] at found there short
      rw [← List.append_assoc] at there
      have open_ := other.above (List.prefix_append ..) [name] (List.cons_ne_nil _ _)
        (congrArg Option.isSome there)
      have reach := other.reaches_last fits (split ▸ under)
        (fun found => down (split ▸ List.mem_append_left _ found)) plain
        (fun inner among => short inner (List.mem_append_left _ among)) (short name (by simp)) open_
      simp only [Workspace.read, kept, nothing, read_of_reaches reach other found]

-----------------------------------------------------------------------------------------
-- Commits beside the tree
-----------------------------------------------------------------------------------------

/-- What a dry commit keeps of a batch are the contents of its files, and everything kept before under
other keys; by induction on the batch.
-/
theorem get?_lay (workspace : Workspace)
    (distinct : (batch.map (·.path.components)).Nodup)
    : (∀ file ∈ batch,
        (workspace.lay batch).overlay.get? file.path.components = some file.content)
      ∧ ∀ key, (∀ file ∈ batch, file.path.components ≠ key) →
        (workspace.lay batch).overlay.get? key = workspace.overlay.get? key := by
  induction batch generalizing workspace with
  | nil => exact ⟨by simp, fun _ _ => rfl⟩
  | cons file rest ih =>
      rw [List.map_cons, List.nodup_cons] at distinct
      let next : Workspace :=
        { workspace with overlay := workspace.overlay.insert file.path.components file.content }
      have laid : workspace.lay (file :: rest) = next.lay rest := rfl
      obtain ⟨each, others⟩ := ih next distinct.2
      rw [laid]
      refine ⟨List.forall_mem_cons.mpr ⟨?_, each⟩, fun key elsewhere => ?_⟩
      · rw [others]
        · simp [next, Dictionary.get?_insert]
        · exact fun other member same => distinct.1 (List.mem_map.mpr ⟨other, member, same⟩)
      · rw [List.forall_mem_cons] at elsewhere
        rw [others key elsewhere.2]
        simp [next, Dictionary.get?_insert, elsewhere.1]

/-- A dry commit keeps what a commit to the second tree writes there; by cases on whether a target is
one of the batch.
-/
theorem Foreseen.commit {workspace : Workspace}
    (holds : Foreseen before after workspace.overlay root top targets)
    (foreseen : ForeseenTargets root targets) (members : ∀ file ∈ batch, file.path ∈ targets)
    (distinct : (batch.map (·.path.components)).Nodup) (ready : Ready after root top batch)
    (whole : Batch after top batch) (committed : Committed after tree root top batch)
    : Foreseen before tree (workspace.lay batch).overlay root top targets := by
  obtain ⟨each, others⟩ := get?_lay workspace distinct
  -- Where a target lies that is none of the batch, nothing changed.
  have still {path : Path} (member : path ∈ targets)
      (elsewhere : ∀ file ∈ batch, file.path.components ≠ path.components)
      : tree.node? (top ++ path.names) = after.node? (top ++ path.names) := by
    refine committed.rest _ (List.prefix_append ..) fun file inside => ⟨fun here => ?_, ?_⟩
    · exact elsewhere file inside (foreseen.components_congr (members file inside) member
        (List.append_cancel_left here).symm)
    · exact foreseen.not_isAbove member (members file inside)
  refine ⟨fun path member content kept => ?_, fun path member none => ?_⟩
  · by_cases among : ∃ file ∈ batch, file.path.components = path.components
    · obtain ⟨file, inside, same⟩ := among
      rw [← same, each file inside] at kept
      cases kept
      have names := names_congr same
      refine ⟨?_, foreseen.refusal?_congr (members file inside) member names
        (ready.admits file inside).fits⟩
      rw [← names, content?, show tree.node? (top ++ file.path.names) = some (plainFile file.content) from
        committed.placed file inside]
      rfl
    · have elsewhere : ∀ file ∈ batch, file.path.components ≠ path.components :=
        fun file inside same => among ⟨file, inside, same⟩
      rw [others _ elsewhere] at kept
      obtain ⟨found, fits⟩ := holds.held path member content kept
      refine ⟨?_, fits⟩
      rw [← found, content?, content?, still member elsewhere]
  · have elsewhere : ∀ file ∈ batch, file.path.components ≠ path.components := by
      intro file inside same
      rw [← same, each file inside] at none
      cases none
    rw [others _ elsewhere] at none
    refine (holds.free path member none).trans (fun way within => ?_) fun missing => by
      rw [still member elsewhere, missing]
    by_cases touched : ∃ file ∈ batch,
        top ++ way = file.location top ∨ IsAbove top (top ++ way) (file.location top)
    · obtain ⟨file, inside, here | lies⟩ := touched
      · have names := List.append_cancel_left here
        have same := foreseen.separate _ (members file inside) path member (names ▸ within)
        exact absurd (foreseen.components_congr (members file inside) member same)
          (elsewhere file inside)
      · have made := committed.made file inside _ lies
        cases old : after.node? (top ++ way) with
        | none => exact .inr (.inl ⟨old, made⟩)
        | some node =>
            cases node with
            | directory => exact .inl (made.trans old.symm)
            | file content executable =>
                obtain ⟨above, name, names, split⟩ := (whole.target file inside).last
                have inner : way <+: file.path.names.dropLast := by
                  rw [StagedFile.location, (split top).1] at lies
                  rw [names, List.dropLast_concat]
                  exact (List.prefix_append_right_inj top).mp (isAbove_append.mp lies).2
                exact absurd old ((ready.admits file inside).clear.free way content executable inner)
    · exact .inl (committed.rest _ (List.prefix_append ..) fun file inside =>
        ⟨fun here => touched ⟨file, inside, .inl here⟩,
          fun lies => touched ⟨file, inside, .inr lies⟩⟩)

end Groundwork.Workspace
