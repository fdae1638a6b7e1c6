/-!
Dictionaries as lists of entries in ascending order of their keys. What is looked up is the value
inserted last, and inserting leaves every other key alone.
-/

namespace Groundwork

/-- Entries in ascending order of their keys. -/
abbrev Dictionary (κ : Type) (α : Type) := List (κ × α)

namespace Dictionary

variable {κ α : Type} [DecidableEq κ]

/-- The value of a key. -/
def get? : Dictionary κ α → κ → Option α
  | [], _ => none
  | (k, a) :: rest, key => if k = key then some a else get? rest key

def contains (entries : Dictionary κ α) (key : κ) : Bool := (entries.get? key).isSome

/-- The entries without those of a key. -/
def erase (entries : Dictionary κ α) (key : κ) : Dictionary κ α :=
  entries.filter (fun entry => entry.1 ≠ key)

variable [LT κ] [DecidableLT κ]

/-- Sets the value of a key, at its place in the order. -/
def insert (entries : Dictionary κ α) (key : κ) (value : α) : Dictionary κ α :=
  match entries with
  | [] => [(key, value)]
  | (k, a) :: rest =>
      if k = key then (key, value) :: rest
      else if key < k then (key, value) :: (k, a) :: rest
      else (k, a) :: insert rest key value

def ofList (entries : List (κ × α)) : Dictionary κ α :=
  entries.foldl (fun d entry => insert d entry.1 entry.2) []

/-- The second dictionary laid over the first: keys in both take its value. -/
def layer (under above : Dictionary κ α) : Dictionary κ α :=
  above.foldl (fun d entry => insert d entry.1 entry.2) under

theorem get?_insert (entries : Dictionary κ α) (key : κ) (value : α) (other : κ)
    : (insert entries key value).get? other =
        if key = other then some value else entries.get? other := by
  induction entries with
  | nil => simp [insert, get?]
  | cons entry rest ih =>
      obtain ⟨k, a⟩ := entry
      by_cases he : k = key
      · subst he
        by_cases ho : k = other <;> simp [insert, get?, ho]
      · by_cases hl : key < k
        · simp [insert, he, hl, get?]
        · by_cases hk : k = other
          · subst hk
            simp [insert, get?, he, hl, Ne.symm he]
          · simp only [insert, he, hl, if_false, get?, hk, ih]

omit [LT κ] [DecidableLT κ] in
theorem get?_erase (entries : Dictionary κ α) (key other : κ)
    : (erase entries key).get? other = if key = other then none else entries.get? other := by
  induction entries with
  | nil => simp [erase, get?]
  | cons entry rest ih =>
      obtain ⟨k, a⟩ := entry
      by_cases he : k = key
      · subst he
        by_cases ho : k = other
        · subst ho
          simpa [erase, get?] using ih
        · simpa [erase, get?, ho] using ih
      · by_cases ho : k = other
        · subst ho
          simp [erase, get?, he, Ne.symm he]
        · simpa [erase, get?, he, ho] using ih

omit [LT κ] [DecidableLT κ] in
/-- What is looked up is an entry; by induction on the entries. -/
theorem mem_of_get? {entries : Dictionary κ α} {key : κ} {value : α}
    (found : entries.get? key = some value)
    : (key, value) ∈ entries := by
  induction entries with
  | nil => cases found
  | cons entry rest ih =>
      rw [get?] at found
      split at found
      · next same =>
          cases found
          subst same
          exact List.mem_cons_self
      · exact List.mem_cons_of_mem _ (ih found)

/-- An entry of a dictionary with one more is the one or was there; by induction on the entries. -/
theorem mem_insert {entries : Dictionary κ α} {key : κ} {value : α} {entry : κ × α}
    (member : entry ∈ entries.insert key value)
    : entry = (key, value) ∨ entry ∈ entries := by
  induction entries with
  | nil => exact .inl (List.mem_singleton.mp member)
  | cons first rest ih =>
      rw [insert] at member
      split at member
      · exact (List.mem_cons.mp member).imp_right (List.mem_cons_of_mem _)
      · split at member
        · exact List.mem_cons.mp member
        · rcases List.mem_cons.mp member with rfl | later
          · exact .inr List.mem_cons_self
          · exact (ih later).imp_right (List.mem_cons_of_mem _)

/-- Keys stay in their order when an entry is inserted; by induction on the entries. -/
theorem pairwise_insert
    [Trans (fun a b : κ => a < b) (fun a b : κ => a < b) (fun a b : κ => a < b)]
    [Std.Trichotomous fun a b : κ => a < b] {entries : Dictionary κ α} (key : κ) (value : α)
    (ordered : entries.Pairwise (·.1 < ·.1))
    : (entries.insert key value).Pairwise (·.1 < ·.1) := by
  induction entries with
  | nil => exact List.pairwise_singleton ..
  | cons first rest ih =>
      obtain ⟨k, a⟩ := first
      obtain ⟨least, later⟩ := List.pairwise_cons.mp ordered
      rw [insert]
      split
      · next same =>
          subst same
          exact List.pairwise_cons.mpr ⟨least, later⟩
      · next other =>
          split
          · next before =>
              refine List.pairwise_cons.mpr ⟨fun entry member => ?_, ordered⟩
              rcases List.mem_cons.mp member with rfl | inside
              · exact before
              · exact Trans.trans before (least entry inside)
          · next notBefore =>
              refine List.pairwise_cons.mpr ⟨fun entry member => ?_, ih later⟩
              rcases mem_insert member with rfl | inside
              · exact Decidable.byContradiction fun notAfter =>
                  other (Std.Trichotomous.trichotomous _ _ notAfter notBefore)
              · exact least entry inside

omit [DecidableLT κ] in
/-- An entry of a dictionary in order is what its key looks up; by induction on the entries. -/
theorem get?_of_mem [Std.Irrefl fun a b : κ => a < b] {entries : Dictionary κ α}
    {entry : κ × α} (ordered : entries.Pairwise (·.1 < ·.1)) (member : entry ∈ entries)
    : entries.get? entry.1 = some entry.2 := by
  induction entries with
  | nil => cases member
  | cons first rest ih =>
      obtain ⟨least, later⟩ := List.pairwise_cons.mp ordered
      rcases List.mem_cons.mp member with rfl | inside
      · simp [get?]
      · have other : first.1 ≠ entry.1 := fun same =>
          Std.Irrefl.irrefl (r := fun a b : κ => a < b) entry.1 (same ▸ least entry inside)
        rw [get?, if_neg other]
        exact ih later inside

/-- Of two values that are inserted under a key, the second stays; by induction on the entries. -/
theorem insert_insert (entries : Dictionary κ α) (key : κ) (first second : α)
    : (entries.insert key first).insert key second = entries.insert key second := by
  induction entries with
  | nil => simp [insert]
  | cons entry rest ih =>
      obtain ⟨k, a⟩ := entry
      by_cases same : k = key
      · simp [insert, same]
      · by_cases before : key < k
        · simp [insert, same, before]
        · simp [insert, same, before, ih]

/-- The entries of a list are those of the dictionary that is made of it; by induction on the list. -/
theorem mem_ofList {entries : List (κ × α)} {entry : κ × α} (member : entry ∈ ofList entries)
    : entry ∈ entries := by
  have taken (entries : List (κ × α)) (made : Dictionary κ α)
      (member : entry ∈ entries.foldl (fun d entry => insert d entry.1 entry.2) made)
      : entry ∈ made ∨ entry ∈ entries := by
    induction entries generalizing made with
    | nil => exact .inl member
    | cons first rest ih =>
        rcases ih _ member with inside | later
        · exact (mem_insert inside).elim (fun same => .inr (same ▸ List.mem_cons_self)) .inl
        · exact .inr (List.mem_cons_of_mem _ later)
  exact (taken entries [] member).resolve_left List.not_mem_nil

section Order

variable [Trans (fun a b : κ => a < b) (fun a b : κ => a < b) (fun a b : κ => a < b)]

/-- A dictionary with entries laid over it is in order; by induction on them. -/
theorem pairwise_layer [Std.Trichotomous fun a b : κ => a < b] {under : Dictionary κ α}
    (above : List (κ × α)) (ordered : under.Pairwise (·.1 < ·.1))
    : (layer under above).Pairwise (·.1 < ·.1) := by
  induction above generalizing under with
  | nil => exact ordered
  | cons entry rest ih => exact ih (pairwise_insert entry.1 entry.2 ordered)

/-- A dictionary that is made of a list is in order. -/
theorem pairwise_ofList [Std.Trichotomous fun a b : κ => a < b] (entries : List (κ × α))
    : (ofList entries).Pairwise (·.1 < ·.1) :=
  pairwise_layer entries .nil

omit [Trans (fun a b : κ => a < b) (fun a b : κ => a < b) (fun a b : κ => a < b)] in
/-- A key has the value of the dictionary above if that has one, else that of the one below; by induction
on the entries above, among which no key comes twice.
-/
theorem get?_layer [Std.Irrefl fun a b : κ => a < b] {under above : Dictionary κ α}
    (ordered : above.Pairwise (·.1 < ·.1)) (key : κ)
    : (layer under above).get? key = (above.get? key).or (under.get? key) := by
  induction above generalizing under with
  | nil => rfl
  | cons entry rest ih =>
      obtain ⟨k, a⟩ := entry
      obtain ⟨least, later⟩ := List.pairwise_cons.mp ordered
      have first : (layer under ((k, a) :: rest)).get? key
          = (get? rest key).or (if k = key then some a else under.get? key) := by
        rw [← get?_insert]
        exact ih later
      by_cases same : k = key
      · subst same
        have none : get? rest k = none := by
          cases found : get? rest k with
          | none => rfl
          | some value =>
              have again := least _ (mem_of_get? found)
              exact absurd again (Std.Irrefl.irrefl (r := fun a b : κ => a < b) k)
        simp [first, get?, none]
      · simp [first, get?, same]

end Order

end Dictionary

end Groundwork
