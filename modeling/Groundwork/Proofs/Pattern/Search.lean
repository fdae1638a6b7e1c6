import Groundwork.Pattern.Basic

/-!
Where searches of patterns arrive. A search never leaves the text: every position that it goes on
from or remembers lies within the text or at its end, whatever program it runs.
-/

namespace Groundwork

namespace Pattern

variable {program : Program} {text : Array Char} {progress : Progress} {size : Nat}

/-- A task that takes up or gives back positions up to `size` only. -/
def Task.Within (size : Nat) : Task → Prop
  | .explore _ position => position ≤ size
  | .restore _ old => ∀ position, old = some position → position ≤ size

/-- Slots that remember positions up to `size` only. -/
def SlotsWithin (size : Nat) (slots : Array (Option Nat)) : Prop :=
  ∀ position, some position ∈ slots → position ≤ size

/-- A search in progress that stays at positions up to `size`. -/
structure Progress.Within (size : Nat) (progress : Progress) : Prop where
  tasks : ∀ task ∈ progress.tasks, task.Within size
  slots : SlotsWithin size progress.slots

theorem SlotsWithin.set {slots : Array (Option Nat)} (within : SlotsWithin size slots)
    (slot : Nat) {value : Option Nat} (fits : ∀ position, value = some position → position ≤ size)
    : SlotsWithin size (slots.setIfInBounds slot value) := by
  intro position member
  obtain old | new := Array.mem_or_eq_of_mem_setIfInBounds member
  · exact within position old
  · exact fits position new.symm

theorem SlotsWithin.getD {slots : Array (Option Nat)} (within : SlotsWithin size slots)
    (slot : Nat) : ∀ position, slots.getD slot none = some position → position ≤ size := by
  intro position held
  rw [Array.getD_eq_getD_getElem?] at held
  cases found : slots[slot]? with
  | none => simp [found] at held
  | some value =>
      obtain rfl : value = some position := by simpa [found] using held
      exact within position (Array.mem_of_getElem? found)

/-- The outcome of a task of a search that stays at positions up to `size`: what is left to do, and
the slots if it found a match.
-/
structure OutcomeWithin (size : Nat) (outcome : Progress × Option (Array (Option Nat)))
    : Prop where
  left : outcome.1.Within size
  found : ∀ slots, outcome.2 = some slots → SlotsWithin size slots

theorem OutcomeWithin.goesOn {tasks : List Task} {slots : Array (Option Nat)}
    (all : ∀ task ∈ tasks, task.Within size) (held : SlotsWithin size slots) (visited : Visited)
    : OutcomeWithin size (⟨tasks, slots, visited⟩, none) :=
  ⟨⟨all, held⟩, by simp⟩

/-- A search that stays within the text does so after each task: a character is passed only where
there is one. By cases on the task and on the state that it takes up.
-/
theorem Progress.step_within (program : Program) (within : progress.Within text.size)
    : OutcomeWithin text.size (progress.step program text) := by
  obtain ⟨tasks, slots, visited⟩ := progress
  obtain ⟨all, held⟩ := within
  cases tasks with
  | nil => exact .goesOn all held visited
  | cons task tasks =>
      obtain ⟨first, rest⟩ := List.forall_mem_cons.mp all
      cases task with
      | restore slot old => exact .goesOn rest (held.set slot first) visited
      | explore state position =>
          have here (next : Nat) : (Task.explore next position).Within text.size := first
          rw [step]
          dsimp only
          split
          · exact .goesOn rest held _
          cases program.states[state]? with
          | none => exact .goesOn rest held _
          | some state =>
              cases state with
              | accept =>
                  refine ⟨⟨rest, held⟩, fun found same => ?_⟩
                  obtain rfl := Option.some.inj same
                  exact held
              | chars set next =>
                  dsimp only
                  split
                  · next passes =>
                      obtain ⟨c, found, -⟩ := Option.any_eq_true _ _ |>.mp passes
                      obtain ⟨inside, -⟩ := Array.getElem?_eq_some_iff.mp found
                      have passed : (Task.explore next (position + 1)).Within text.size := inside
                      exact .goesOn (List.forall_mem_cons.mpr ⟨passed, rest⟩) held _
                  · exact .goesOn rest held _
              | look condition next =>
                  dsimp only
                  split
                  · exact .goesOn (List.forall_mem_cons.mpr ⟨here next, rest⟩) held _
                  · exact .goesOn rest held _
              | choice nexts =>
                  have each := List.forall_mem_map.mpr fun next (_ : next ∈ nexts) => here next
                  exact .goesOn (List.forall_mem_append.mpr ⟨each, rest⟩) held _
              | mark slot next =>
                  have back : (Task.restore slot (slots.getD slot none)).Within text.size :=
                    held.getD slot
                  have both := List.forall_mem_cons.mpr ⟨back, rest⟩
                  refine .goesOn (List.forall_mem_cons.mpr ⟨here next, both⟩) ?_ _
                  exact held.set slot fun marked same => Option.some.inj same ▸ first

/-- A search that stays within the text does so to its end; by induction on the tasks it may do. -/
theorem Progress.run_within (program : Program) (within : progress.Within text.size) (fuel : Nat)
    : ∀ slots, (Progress.run program text fuel progress).2 = some slots
        → SlotsWithin text.size slots := by
  induction fuel generalizing progress with
  | zero => exact nofun
  | succ fuel ih =>
      intro slots found
      have stays := step_within program within
      rw [run] at found
      split at found
      · cases found
      · split at found
        · next stopped same =>
            rw [same] at stays
            exact stays.found slots found
        · next goesOn same =>
            rw [same] at stays
            exact ih stays.left slots found

/-- The slots of a match that begins within the text are within the text; by induction on the places
where one is tried.
-/
theorem searchFrom_within {effort count position : Nat} {visited : Visited}
    {slots : Array (Option Nat)} (inside : position + count ≤ text.size + 1)
    (found : searchFrom program text effort count position visited = some slots)
    : SlotsWithin text.size slots := by
  induction count generalizing position visited with
  | zero => cases found
  | succ count ih =>
      rw [searchFrom] at found
      have start : Progress.Within text.size
          ⟨[.explore program.start position], Array.replicate program.slots none, visited⟩ := by
        refine ⟨fun task only => ?_, fun held member => ?_⟩
        · obtain rfl := List.mem_singleton.mp only
          change position ≤ text.size
          omega
        · cases Array.eq_of_mem_replicate member
      split at found
      · next same =>
          refine Progress.run_within program start effort slots ?_
          rw [same]
          exact found
      · exact ih (by omega) found

/-- The extents that slots hold are made of what the slots hold; by induction on these, two by two.
-/
theorem extents_within {slots : List (Option Nat)} {size : Nat}
    (within : ∀ position, some position ∈ slots → position ≤ size)
    : ∀ extent, some extent ∈ extents slots → extent.1 ≤ size ∧ extent.2 ≤ size := by
  fun_induction extents slots with
  | case1 start stop rest ih =>
      rintro extent (_ | ⟨_, later⟩)
      · exact ⟨within start (by simp), within stop (by simp)⟩
      · exact ih (fun position member => within position (by simp [member])) extent later
  | case2 first second rest _ ih =>
      rintro extent (_ | ⟨_, later⟩)
      exact ih (fun position member => within position (by simp [member])) extent later
  | case3 => exact nofun

/-- A match begins and ends within the text. -/
theorem Program.find?_within {position : Nat} (inside : position ≤ text.size) {found : Match}
    (finds : program.find? text position = some found)
    : found.start ≤ text.size ∧ found.stop ≤ text.size := by
  rw [find?, Option.bind_eq_bind, Option.bind_eq_some_iff] at finds
  obtain ⟨slots, searched, finds⟩ := finds
  have within := searchFrom_within (by omega) searched
  have all := extents_within fun position member => within position (Array.mem_toList_iff.mp member)
  split at finds
  · next start stop groups same =>
      obtain rfl := Option.some.inj finds
      rw [same] at all
      exact all (start, stop) (List.mem_cons_self ..)
  · cases finds

end Pattern

/-- A match of a pattern begins and ends within the text. -/
theorem SearchPattern.find?_within {pattern : SearchPattern} {text : List Char}
    {found : Pattern.Match} (finds : pattern.find? text = some found)
    : found.start ≤ text.length ∧ found.stop ≤ text.length :=
  Pattern.Program.find?_within (Nat.zero_le _) finds

end Groundwork
