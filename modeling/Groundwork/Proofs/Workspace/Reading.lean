import Groundwork.Proofs.Files.Likeness
import Groundwork.Proofs.Workspace.Ready

/-!
What is read below a root: the content of the file at the location of a target, or nothing if the
location is free. New directories elsewhere make no difference.
-/

namespace Groundwork.Workspace

open Files Path

variable {files tree : Files} {root path : Path} {top : Location}

/-- A target is not the empty path, wherever the root is. -/
theorem isEmpty_join (sound : path.fault? = none) : (root.join path).isEmpty = false := by
  obtain ⟨filled, relative, -⟩ := fault?_eq_none sound
  cases empty : root.isEmpty with
  | true => simp [join, relative, empty, filled]
  | false =>
      have joined : (root.join path).tail ≠ [] := by
        rw [join, relative, empty]
        simp
      simp [Path.isEmpty, joined]

/-- Segments that lead to a node are not followed in vain, though something else may be wrong with
them; by induction on them.
-/
theorem walk_ne_notFound (ground : files.Grounded root top) {segments : List String}
    {from_ : Location} (below : top <+: from_) (down : ".." ∉ segments)
    (found : (files.node? (from_ ++ namesOf segments)).isSome)
    : files.walk from_ segments ≠ .error .notFound := by
  induction segments generalizing from_ with
  | nil =>
      obtain ⟨node, there⟩ := Option.isSome_iff_exists.mp found
      rw [walk_nil (by simpa using there)]
      simp
  | cons segment rest ih =>
      have later : ".." ∉ rest := fun found => down (List.mem_cons_of_mem _ found)
      cases here : files.node? from_ with
      | none =>
          cases names : namesOf (segment :: rest) with
          | nil => simp [names, here] at found
          | cons name more =>
              rw [names] at found
              exact absurd ((ground.above below _ (List.cons_ne_nil _ _) found).symm.trans here)
                (by simp)
      | some node =>
          cases node with
          | file content executable => simp [Files.walk, here]
          | directory =>
              cases idle : isIdle segment with
              | true =>
                  have names : namesOf (segment :: rest) = namesOf rest := by simp [namesOf, idle]
                  rw [walk_idle here idle]
                  exact ih below later (names ▸ found)
              | false =>
                  have plain : IsName segment := ⟨idle, fun same => down (by simp [same])⟩
                  rw [plain.namesOf_cons] at found
                  by_cases short : segment.utf8ByteSize ≤ nameLimit
                  · rw [List.append_cons] at found
                    have inner : top <+: from_ ++ [segment] := below.trans (List.prefix_append ..)
                    have next : (files.node? (from_ ++ [segment])).isSome := by
                      cases names : namesOf rest with
                      | nil => simpa [names] using found
                      | cons name more =>
                          rw [names] at found
                          simp [ground.above inner _ (List.cons_ne_nil _ _) found]
                    rw [walk_name here plain short, if_pos next]
                    exact ih inner later found
                  · simp [Files.walk, here, idle, plain.down, Nat.lt_of_not_le short]

/-- A target at whose location something is does not lead nowhere. -/
theorem place_ne_notFound (ground : files.Grounded root top) (sound : path.fault? = none)
    (found : (files.node? (top ++ path.names)).isSome)
    : files.place (root.join path) ≠ .error .notFound := by
  obtain ⟨-, relative, down⟩ := fault?_eq_none sound
  cases refused : refusal? (root.join path) with
  | none =>
      rw [ground.place_under (join_under relative) refused]
      exact walk_ne_notFound ground List.prefix_rfl down found
  | some fault =>
      rw [place_eq, refused]
      rintro ⟨⟩
      exact absurd (isEmpty_of_refusal? refused) (by simp [isEmpty_join sound])

/-- A target that can be read has the content that was read, or its location is free. -/
theorem content?_of_read (ground : files.Grounded root top) {workspace : Workspace}
    (at_ : workspace.root = root) (plain : workspace.overlay = []) (sound : path.fault? = none)
    {loaded : Option ByteArray} (read : workspace.read files path = .ok loaded)
    : files.node? (top ++ path.names) ≠ some .directory
      ∧ files.content? (top ++ path.names) = loaded := by
  obtain ⟨-, relative, down⟩ := fault?_eq_none sound
  have under : (root.join path).Under root path.segments := join_under relative
  have located : files.locate (root.join path) = top ++ path.names :=
    ground.locate_under under down
  simp only [Workspace.read, plain, Dictionary.get?, at_] at read
  cases result : files.read (root.join path) with
  | ok content =>
      simp only [result] at read
      cases read
      obtain ⟨executable, found⟩ := file_of_read result
      rw [located] at found
      exact ⟨by simp [found], by simp [Files.content?, found]⟩
  | error fault =>
      cases fault <;> simp only [result] at read <;> cases read
      have missing : files.node? (top ++ path.names) = none := by
        simp only [Files.read, bind, Except.bind] at result
        split at result
        · next fault leads =>
            cases result
            cases there : files.node? (top ++ path.names) with
            | none => rfl
            | some node => exact absurd leads (place_ne_notFound ground sound (by simp [there]))
        next place leads =>
          split at result <;> cases result
          rw [← located, ← (place_free leads).1]
          exact (place_free leads).2.1
      exact ⟨by simp [missing], by simp [Files.content?, missing]⟩

/-- A target that was read as a file can hold one. -/
theorem reaches_of_read (ground : files.Grounded root top) {workspace : Workspace}
    (at_ : workspace.root = root) (plain : workspace.overlay = []) (sound : path.fault? = none)
    {content : ByteArray} (read : workspace.read files path = .ok (some content))
    : files.Reaches root top (root.join path) (top ++ path.names) := by
  obtain ⟨-, relative, down⟩ := fault?_eq_none sound
  have under : (root.join path).Under root path.segments := join_under relative
  simp only [Workspace.read, plain, Dictionary.get?, at_, read_eq] at read
  cases leads : files.place (root.join path) with
  | error fault =>
      simp only [leads, Except.bind] at read
      cases fault <;> cases read
  | ok place =>
      cases place with
      | free => simp only [leads, Except.bind, Place.content] at read; cases read
      | taken location node =>
          cases node with
          | directory => simp only [leads, Except.bind, Place.content] at read; cases read
          | file held executable =>
              obtain rfl : location = top ++ path.names :=
                (place_taken leads).1.trans (ground.locate_under under down)
              exact ground.reaches under down leads (.inl ⟨held, executable, rfl⟩)

/-- A file is read where a path can hold one. -/
theorem read_of_reaches {location : Location} {content : ByteArray}
    (reach : files.Reaches root top path location) (ground : files.Grounded root top)
    (found : files.content? location = some content)
    : files.read path = .ok content := by
  obtain ⟨executable, there⟩ := content?_eq_some.mp found
  rw [read_eq, reach.found ground there]
  rfl

-----------------------------------------------------------------------------------------
-- Reading under other spellings
-----------------------------------------------------------------------------------------

/-- What is read under a path if some content of it is kept. -/
theorem read_of_kept {workspace : Workspace} {content : ByteArray}
    (kept : workspace.overlay.get? path.components = some content)
    : workspace.read files path = .ok (some content) := by
  simp only [read, kept]

/-- A path that names the same as one that was read with a content is read with that content or not at
all.
-/
theorem read_respelled {workspace : Workspace} {other : Path} {content : ByteArray}
    (same : path.components = other.components)
    (reads : workspace.read files path = .ok (some content))
    : workspace.read files other = .ok (some content)
      ∨ ∃ failure, workspace.read files other = .error failure := by
  cases kept : workspace.overlay.get? path.components with
  | some held =>
      rw [read_of_kept kept] at reads
      cases reads
      exact .inl (read_of_kept (same ▸ kept))
  | none =>
      have kept' : workspace.overlay.get? other.components = none := same ▸ kept
      simp only [read, kept, kept'] at reads ⊢
      cases found : files.read (workspace.root.join path) with
      | error fault =>
          rw [found] at reads
          cases fault <;> cases reads
      | ok held =>
          rw [found] at reads
          cases reads
          rcases Files.read_respelled same found with there | ⟨fault, blocked, other⟩
          · exact .inl (by rw [there])
          · refine .inr ?_
            rw [blocked]
            cases fault <;> first | exact absurd rfl other | exact ⟨_, rfl⟩

/-- Paths that name the same and can be read are read with the same content. -/
theorem eq_of_read_respelled {workspace : Workspace} {other : Path} {one two : Option ByteArray}
    (same : path.components = other.components) (reads : workspace.read files path = .ok one)
    (reads' : workspace.read files other = .ok two)
    : one = two := by
  cases one with
  | some content =>
      rcases read_respelled same reads with there | ⟨failure, failed⟩
      · exact Except.ok.inj (there.symm.trans reads')
      · cases failed.symm.trans reads'
  | none =>
      cases two with
      | none => rfl
      | some content =>
          rcases read_respelled same.symm reads' with there | ⟨failure, failed⟩
          · exact Except.ok.inj (reads.symm.trans there)
          · cases failed.symm.trans reads

-----------------------------------------------------------------------------------------
-- Reading and committing again
-----------------------------------------------------------------------------------------

section Again

variable {before after : Files} {batch : List StagedFile}

theorem Residue.likeAt (residue : Residue before after top batch) {place : Location}
    (below : top <+: place)
    : before.LikeAt after place := by
  rcases residue.node place below with same | ⟨missing, made, -⟩
    | ⟨-, -, -, content, executable, was, now⟩
  · exact .inl same
  · exact .inr (.inl ⟨missing, made⟩)
  · exact .inr (.inr ⟨content, executable, false, was, now⟩)

/-- What is left of residues is a residue; by cases on what the first leaves at a location. -/
theorem Residue.trans {middle : Files} (first : Residue before middle top batch)
    (second : Residue middle after top batch)
    : Residue before after top batch := by
  refine ⟨second.base.trans first.base, fun place below => ?_⟩
  rcases second.node place below with same | ⟨missing, made, lies⟩
    | ⟨file, member, here, content, executable, was, now⟩
  · rw [same]
    exact first.node place below
  · rcases first.node place below with same | ⟨-, open_, -⟩ | ⟨-, -, -, _, _, -, open_⟩
    · exact .inr (.inl ⟨same ▸ missing, made, lies⟩)
    · exact absurd (open_.symm.trans missing) (by simp)
    · exact absurd (open_.symm.trans missing) (by simp)
  · rcases first.node place below with same | ⟨-, open_, -⟩ | ⟨-, -, -, _, kept, was', is⟩
    · exact .inr (.inr ⟨file, member, here, content, executable, same ▸ was, now⟩)
    · exact absurd (open_.symm.trans was) (by simp)
    · cases is.symm.trans was
      exact .inr (.inr ⟨file, member, here, content, kept, was', now⟩)

/-- A batch that was ready is ready again where only a residue of it was left. -/
theorem Ready.residue (ready : Ready before root top batch)
    (residue : Residue before after top batch)
    : Ready after root top batch := by
  refine ⟨fun file member open_ => ?_, fun file member => ?_, ready.ends, ready.distinct, ready.apart⟩
  · rcases residue.node _ (List.prefix_append ..) with same | ⟨-, -, other, inside, lies⟩
      | ⟨other, -, -, content, executable, -, placed⟩
    · exact ready.free file member (same.symm.trans open_)
    · exact ready.apart file member other inside lies
    · exact absurd (open_.symm.trans placed) (by simp [plainFile])
  obtain ⟨fits, fitsBeside, short, clear⟩ := ready.admits file member
  refine ⟨fits, fitsBeside, short, clear.short, fun way content executable within found => ?_⟩
  obtain ⟨was, there⟩ := (residue.likeAt (List.prefix_append ..)).file found
  exact clear.free way content was within there

/-- All names of the files of a ready batch are short enough. -/
theorem Ready.short (ready : Ready before root top batch) (whole : Batch before top batch)
    {file : StagedFile} (member : file ∈ batch)
    : ∀ name ∈ file.path.names, name.utf8ByteSize ≤ nameLimit := by
  obtain ⟨above, last, names, -⟩ := (whole.target file member).last
  have admits := ready.admits file member
  intro name among
  rw [names] at among
  rcases List.mem_append.mp among with inner | final
  · have short := admits.clear.short
    rw [names, List.dropLast_concat] at short
    exact short name inner
  · obtain rfl := List.mem_singleton.mp final
    have long := admits.short name (by rw [names, List.getLast?_concat]; rfl)
    exact Nat.le_trans (size_le_temporaryName name) long

/-- A target is read with the same result where only a residue of a ready batch was left, if it has
a content or is one of the batch.
-/
theorem Residue.read_congr (residue : Residue before after top batch)
    (ground : before.Grounded root top) (other : after.Grounded root top)
    (whole : Batch before top batch) (ready : Ready before root top batch)
    (sound : path.fault? = none)
    (known : before.node? (top ++ path.names) = none →
      ∃ file ∈ batch, file.path.names = path.names)
    : after.read (root.join path) = before.read (root.join path) := by
  obtain ⟨-, relative, down⟩ := fault?_eq_none sound
  refine Files.read_congr ground other (join_under relative) down
    ⟨fun way _ => residue.likeAt (List.prefix_append ..), fun missing => ?_, fun missing => ?_⟩
  · obtain ⟨file, member, names⟩ := known missing
    rcases residue.node (top ++ path.names) (List.prefix_append ..) with same | ⟨-, -, other, inside, lies⟩
      | ⟨-, -, -, _, _, was, -⟩
    · exact same.trans missing
    · rw [← names] at lies
      exact absurd lies (ready.apart file member other inside)
    · exact absurd (was.symm.trans missing) (by simp)
  · obtain ⟨file, member, names⟩ := known missing
    have short := ready.short whole member
    rwa [names] at short

end Again

end Groundwork.Workspace
