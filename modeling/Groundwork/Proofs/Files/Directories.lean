import Groundwork.Proofs.Files.Place

/-!
Making directories. Whatever the outcome, directories are added on the way of the path and nothing
else changes.
-/

namespace Groundwork.Files

open Path

variable {files after : Files} {root path : Path} {top : Location}

-----------------------------------------------------------------------------------------
-- Trees that grow
-----------------------------------------------------------------------------------------

/-- A tree with more directories, at some locations where nothing was. -/
structure Grows (before after : Files) (made : Location → Prop) : Prop where
  base : after.base = before.base
  node : ∀ place, after.node? place = before.node? place
    ∨ before.node? place = none ∧ after.node? place = some .directory ∧ made place

/-- A location that the segments of a path pass through. -/
def OnWay (files : Files) (path : Path) (place : Location) : Prop :=
  ∃ before, before <+: path.steps ∧ place = follow (files.start path) before

namespace Grows

variable {middle : Files} {made : Location → Prop}

theorem refl (files : Files) : Grows files files made := ⟨rfl, fun _ => .inl rfl⟩

/-- What is there stays. -/
theorem found (grows : Grows files after made) {place : Location} {node : FileNode}
    (there : files.node? place = some node)
    : after.node? place = some node := by
  rcases grows.node place with same | ⟨none, -⟩
  · exact same.trans there
  · exact absurd (there.symm.trans none) (by simp)

theorem keeps (grows : Grows files after made) : Keeps files after :=
  ⟨grows.base, fun _ open_ => grows.found open_⟩

theorem mono {wider : Location → Prop} (grows : Grows files after made)
    (within : ∀ place, files.node? place = none → made place → wider place)
    : Grows files after wider :=
  ⟨grows.base, fun place =>
    (grows.node place).imp_right fun ⟨missing, open_, new⟩ =>
      ⟨missing, open_, within place missing new⟩⟩

theorem trans (first : Grows files middle made) (second : Grows middle after made)
    : Grows files after made := by
  refine ⟨second.base.trans first.base, fun place => ?_⟩
  rcases second.node place with later | ⟨none, open_, new⟩
  · rw [later]
    exact first.node place
  · rcases first.node place with same | ⟨-, there, -⟩
    · exact .inr ⟨same ▸ none, open_, new⟩
    · exact absurd (there.symm.trans none) (by simp)

end Grows

theorem OnWay.start {before : List String} (split : before <+: path.steps)
    : files.OnWay path (follow (files.start path) before) :=
  ⟨before, split, rfl⟩

theorem OnWay.locate (files : Files) (path : Path) : files.OnWay path (files.locate path) :=
  ⟨path.steps, List.prefix_rfl, rfl⟩

/-- The way of a parent is part of the way of the path, for its idle end leads nowhere else. -/
theorem OnWay.of_parent? {parent : Path} {place : Location} (found : path.parent? = some parent)
    (way : files.OnWay parent place)
    : files.OnWay path place := by
  obtain ⟨same, core, cut, idle, split, steps, ends⟩ := steps_parent?_drops found
  obtain ⟨before, within, rfl⟩ := way
  have start : files.start parent = files.start path := by simp [Files.start, same]
  rw [steps] at within
  rw [start]
  obtain ⟨rest, whole⟩ := within
  rcases List.append_eq_append_iff.mp whole with ⟨extra, longer, -⟩ | ⟨extra, longer, tail⟩
  · exact .start ⟨extra ++ cut, by rw [← List.append_assoc, ← longer, split]⟩
  · rw [longer, follow_append, follow_idle (tail ▸ ends).left]
    exact .start ⟨cut, split.symm⟩

/-- A path under another passes through what that one passes through, and through the locations of its
own names.
-/
theorem OnWay.under {more : List String} (under : path.Under root more) (down : ".." ∉ more)
    {place : Location} (way : files.OnWay path place)
    : files.OnWay root place
      ∨ ∃ before, before <+: namesOf more ∧ place = files.locate root ++ before := by
  obtain ⟨same, core, idle, split, ends, steps⟩ := under
  obtain ⟨before, ⟨rest, whole⟩, rfl⟩ := way
  have started : files.start path = files.start root := by simp [Files.start, same]
  rw [steps] at whole
  rw [started]
  rcases List.append_eq_append_iff.mp whole with ⟨extra, longer, -⟩ | ⟨extra, longer, tail⟩
  · exact .inl (.start ⟨extra ++ idle, by rw [← List.append_assoc, ← longer, split]⟩)
  · have inner : ".." ∉ extra := fun found => down (tail ▸ List.mem_append_left _ found)
    refine .inr ⟨namesOf extra, ⟨namesOf rest, by rw [tail, namesOf_append]⟩, ?_⟩
    rw [Files.locate, split, follow_append _ core idle, follow_idle ends, longer, follow_append,
      follow_names inner]

/-- All that a path passes through are directories if it leads to one. -/
theorem directory_of_onWay {location : Location}
    (leads : files.place path = .ok (.taken location .directory)) {place : Location}
    (way : files.OnWay path place)
    : files.node? place = some .directory := by
  obtain ⟨before, ⟨rest, split⟩, rfl⟩ := way
  exact walk_through (place_of_fits (fits_of_place leads) ▸ leads) split.symm

/-- Below a root, a path passes through directories that are there and through the locations of its
names.
-/
theorem Grounded.onWay_under (ground : files.Grounded root top) {more : List String}
    (under : path.Under root more) (down : ".." ∉ more) {place : Location}
    (way : files.OnWay path place)
    : files.node? place = some .directory ∨ top <+: place ∧ place <+: top ++ namesOf more := by
  rcases way.under under down with above | ⟨before, within, rfl⟩
  · exact .inl (directory_of_onWay ground.leads above)
  · rw [← (place_taken ground.leads).1]
    exact .inr ⟨List.prefix_append .., List.prefix_append_right_inj _ |>.mpr within⟩

-----------------------------------------------------------------------------------------
-- What making directories leaves behind
-----------------------------------------------------------------------------------------

/-- One directory is made at the location of its path, where nothing was. -/
theorem admits_of_makeDirectory (made : files.makeDirectory path = .ok after)
    : files.Admits (files.locate path)
      ∧ files.node? (files.locate path) = none
      ∧ after = files.setNode (files.locate path) .directory := by
  simp only [Files.makeDirectory, bind, Except.bind] at made
  split at made
  · cases made
  next place leads =>
    split at made
    · cases made
    · next parent name slash =>
        cases made
        obtain ⟨same, missing, open_⟩ := place_free leads
        rw [← same]
        exact ⟨⟨by simp [missing], fun _ => ⟨parent, name, rfl, open_⟩⟩, missing, rfl⟩

theorem grows_of_makeDirectory (made : files.makeDirectory path = .ok after)
    : Grows files after (files.OnWay path) := by
  obtain ⟨admits, missing, rfl⟩ := admits_of_makeDirectory made
  refine ⟨rfl, fun place => ?_⟩
  rw [node?_setNode (ne_nil_of_free admits.free)]
  split
  · next here => exact .inr ⟨here ▸ missing, rfl, here ▸ .locate files path⟩
  · exact .inl rfl

/-- Making directories keeps what making one directory keeps, also if it fails; by induction on the
fuel, for the directories above are made before the tree is tried again.
-/
theorem makeDirectoriesFrom_induction {motive : Files → Prop} (before : motive files)
    (step : ∀ files path after, motive files → files.makeDirectory path = .ok after → motive after)
    (fuel : Nat) (path : Path)
    : motive (files.makeDirectoriesFrom fuel path).1 := by
  induction fuel generalizing path with
  | zero => exact before
  | succ fuel ih =>
      rw [Files.makeDirectoriesFrom]
      split
      · exact before
      · split
        · next made tried => exact step _ _ _ before tried
        · split
          · exact before
          · next parent found =>
              have above := ih parent
              split
              · next tree fault ran => simpa only [ran] using above
              · next tree _ ran =>
                  rw [ran] at above
                  split
                  · next made tried => exact step _ _ _ above tried
                  · split <;> exact above
        · split <;> exact before

/-- Making directories adds directories on the way of the path, also if it fails; by induction on
the fuel.
-/
theorem makeDirectoriesFrom_grows (fuel : Nat) (path : Path)
    : Grows files (files.makeDirectoriesFrom fuel path).1 (files.OnWay path) := by
  induction fuel generalizing path with
  | zero => exact .refl _
  | succ fuel ih =>
      rw [Files.makeDirectoriesFrom]
      split
      · exact .refl _
      · split
        · next made tried => exact grows_of_makeDirectory tried
        · split
          · exact .refl _
          · next parent found =>
              have grown : Grows files (files.makeDirectoriesFrom fuel parent).1 (files.OnWay path) :=
                (ih parent).mono fun _ _ => OnWay.of_parent? found
              split
              · next tree fault ran => simpa only [ran] using grown
              · next tree _ ran =>
                  rw [ran] at grown
                  split
                  · next made tried =>
                      refine grown.trans ((grows_of_makeDirectory tried).mono fun place _ way => ?_)
                      obtain ⟨before, within, rfl⟩ := way
                      exact ⟨before, within, by rw [grown.keeps.start]⟩
                  · split <;> exact grown
        · split <;> exact .refl _

theorem makeDirectories_grows (files : Files) (path : Path)
    : Grows files (files.makeDirectories path).1 (files.OnWay path) :=
  makeDirectoriesFrom_grows _ path

/-- A directory is made only by a path that starts from one. -/
theorem start_of_makeDirectory (made : files.makeDirectory path = .ok after)
    : files.node? (files.start path) = some .directory := by
  simp only [Files.makeDirectory, bind, Except.bind] at made
  split at made
  · cases made
  next place leads =>
    split at made
    · cases made
    · rw [place_of_fits (fits_of_place leads)] at leads
      obtain ⟨before, slashes, -, -, -, walks, -⟩ := walk_free leads
      exact walk_through walks (List.nil_append before).symm

/-- Where a path starts from no directory, making directories for it changes nothing; by induction on the
fuel, for parents start where the path does.
-/
theorem makeDirectoriesFrom_closed (closed : files.node? (files.start path) ≠ some .directory)
    (fuel : Nat)
    : (files.makeDirectoriesFrom fuel path).1 = files := by
  have unmade (made : Files) : files.makeDirectory path ≠ .ok made := fun tried =>
    closed (start_of_makeDirectory tried)
  induction fuel generalizing path with
  | zero => rfl
  | succ fuel ih =>
      rw [Files.makeDirectoriesFrom]
      split
      · rfl
      · split
        · next made tried => exact absurd tried (unmade made)
        · split
          · rfl
          · next parent found =>
              have start : files.start parent = files.start path := by
                simp [Files.start, (steps_parent?_drops found).1]
              have above := ih (start ▸ closed) fun made tried =>
                closed (start ▸ start_of_makeDirectory tried)
              split
              · next tree fault ran => simpa only [ran] using above
              · next tree _ ran =>
                  rw [ran] at above
                  simp only at above
                  subst above
                  split
                  · next made tried => exact absurd tried (unmade made)
                  · split <;> rfl
        · split <;> rfl

theorem makeDirectories_closed (closed : files.node? (files.start path) ≠ some .directory)
    : (files.makeDirectories path).1 = files :=
  makeDirectoriesFrom_closed closed _

/-- A directory that cannot be made for another reason than a missing parent may be there already. -/
theorem makeDirectories_of_error {fault : FileFault} (filled : path.components.isEmpty = false)
    (tried : files.makeDirectory path = .error fault) (other : fault ≠ .notFound)
    : files.makeDirectories path
      = (files, if files.isDirectory path then .ok () else .error fault) := by
  simp only [makeDirectories, makeDirectoriesFrom, filled, Bool.false_eq_true, if_false, tried]
  split <;> rfl

theorem Grounded.makeDirectoriesFrom (ground : files.Grounded root top) (fuel : Nat) (path : Path)
    : Grows files (files.makeDirectoriesFrom fuel path).1 (files.OnWay path)
      ∧ (files.makeDirectoriesFrom fuel path).1.Grounded root top := by
  refine ⟨makeDirectoriesFrom_grows fuel path, ?_⟩
  refine makeDirectoriesFrom_induction (motive := (Grounded · root top)) ground ?_ fuel path
  intro files path after ground made
  obtain ⟨admits, -, rfl⟩ := admits_of_makeDirectory made
  exact ground.setNode (ground.takes admits) _

theorem Grounded.makeDirectories (ground : files.Grounded root top) (path : Path)
    : Grows files (files.makeDirectories path).1 (files.OnWay path)
      ∧ (files.makeDirectories path).1.Grounded root top :=
  ground.makeDirectoriesFrom _ path

/-- All that a path passes through are directories once it was made; by cases on how much of the way
is before the name that was free.
-/
theorem directory_of_makeDirectory (made : files.makeDirectory path = .ok after) {place : Location}
    (way : files.OnWay path place)
    : after.node? place = some .directory := by
  simp only [Files.makeDirectory, bind, Except.bind] at made
  split at made
  · cases made
  next found leads =>
    split at made
    · cases made
    · next parent name slash =>
        cases made
        rw [place_of_fits (fits_of_place leads)] at leads
        obtain ⟨before, slashes, split, all, -, walks, missing, plain, -⟩ := walk_free leads
        obtain ⟨way, ⟨rest, whole⟩, rfl⟩ := way
        have idle : AllIdle slashes := fun segment member => by
          simp [isIdle, List.all_eq_true.mp all segment member]
        rw [node?_setNode (by simp)]
        rcases List.append_eq_append_iff.mp (whole.trans split) with
          ⟨extra, longer, -⟩ | ⟨extra, longer, tail⟩
        · have open_ := walk_through walks longer
          split
          · rfl
          · exact open_
        · have at_ := (walk_taken walks).1
          cases extra with
          | nil =>
              rw [longer, List.append_nil, ← at_]
              split
              · rfl
              · exact (walk_taken walks).2
          | cons first more =>
              obtain ⟨rfl, slashed⟩ : name = first ∧ slashes = more ++ rest := List.cons.inj tail
              rw [longer, follow_append, ← at_, follow_cons, advance_name plain,
                follow_idle (slashed ▸ idle).left, if_pos rfl]

/-- All that a path passes through are directories once they were made, if it has any component; by
cases on how they were made.
-/
theorem directory_of_makeDirectories (ground : files.Grounded root top)
    (made : files.makeDirectories path = (after, .ok ())) (filled : path.components.isEmpty = false)
    {place : Location} (way : files.OnWay path place)
    : after.node? place = some .directory := by
  have found (tree : Files) (base : tree.base = files.base) (open_ : tree.isDirectory path = true)
      : tree.node? place = some .directory := by
    unfold isDirectory at open_
    split at open_
    · next leads =>
        refine directory_of_onWay leads ?_
        obtain ⟨before, within, rfl⟩ := way
        exact ⟨before, within, by simp [Files.start, base]⟩
    · cases open_
  rw [Files.makeDirectories, Files.makeDirectoriesFrom, filled] at made
  simp only [Bool.false_eq_true, if_false] at made
  split at made
  · next tree tried =>
      cases made
      exact directory_of_makeDirectory tried way
  · split at made
    · cases made
    · next parent parents =>
        obtain ⟨grows, -⟩ := ground.makeDirectoriesFrom (path.tail.length + 1) parent
        split at made
        · cases made
        · next above ran =>
            have base : above.base = files.base := by simpa [ran] using grows.base
            split at made
            · next tree tried =>
                cases made
                obtain ⟨before, within, rfl⟩ := way
                exact directory_of_makeDirectory tried
                  ⟨before, within, by simp [Files.start, base]⟩
            · split at made
              · next open_ =>
                  cases made
                  exact found _ base open_
              · cases made
  · split at made
    · next open_ =>
        cases made
        exact found _ rfl open_
    · cases made

/-- Directories that are made on trees that are the same below a root are made on both of them. -/
theorem SameBelow.node_of_makeDirectories {tree other : Files} (ground : files.Grounded root top)
    (same : SameBelow root top files tree) (made : files.makeDirectories path = (after, .ok ()))
    (made' : tree.makeDirectories path = (other, .ok ())) {place : Location} (below : top <+: place)
    : other.node? place = after.node? place := by
  have ground' := same.grounded ground
  cases filled : path.components.isEmpty with
  | true =>
      rw [Files.makeDirectories, Files.makeDirectoriesFrom, filled] at made made'
      cases made
      cases made'
      exact same.node place below
  | false =>
      have grows := (ground.makeDirectories path).1.node place
      have grows' := (ground'.makeDirectories path).1.node place
      rw [made] at grows
      rw [made'] at grows'
      have way : tree.OnWay path place ↔ files.OnWay path place := by
        simp only [OnWay, Files.start, same.base]
      rcases grows with still | ⟨-, now, onWay⟩
      · rcases grows' with still' | ⟨-, now', onWay'⟩
        · rw [still, still', same.node place below]
        · rw [now', directory_of_makeDirectories ground made filled (way.mp onWay')]
      · rw [now, directory_of_makeDirectories ground' made' filled (way.mpr onWay)]

end Groundwork.Files
