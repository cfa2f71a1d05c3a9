import RegisterMachine.Processor.Stack

/-! # The stack as a list

To its host a stack is the list of its entries. Each operation answers what the same operation on a list of
at most `capacity` words answers, and leaves the list behind that the other leaves
(`performOnList_toList`), so that no sequence of operations can tell the two apart (`transact_toList`).

Of the slots the list shows those in use. An operation reaches one slot only: the one behind those in use to
put a word there, or the last one in use to take the word from there.
-/

namespace RegisterMachine.Stack

variable {capacity : Nat} {s : Stack capacity}

/-! ## The entries -/

@[simp] theorem toList_empty : (empty : Stack capacity).toList = [] := List.take_zero

@[simp] theorem toList_clear (s : Stack capacity) : s.clear.toList = [] := toList_empty

@[simp] theorem length_toList (s : Stack capacity) : s.toList.length = s.size := by
  rw [toList, List.length_take, Vector.length_toList]
  exact Nat.min_eq_left s.bounded

theorem toList_eq_nil_iff : s.toList = [] ↔ s.size = 0 := by
  rw [← length_toList, List.length_eq_zero_iff]

/-! ## Putting a word on top -/

theorem push_of_full (full : s.size = capacity) (value : Word) : s.push value = (false, s) :=
  dif_pos full

theorem push_of_room (room : s.size < capacity) (value : Word) :
    s.push value = (true, ⟨s.slots.set s.size value room, s.size + 1, room⟩) :=
  dif_neg (Nat.ne_of_lt room)

theorem toList_push (room : s.size < capacity) (value : Word) :
    (s.push value).2.toList = s.toList ++ [value] := by
  have slot : s.size < s.slots.toList.length := by rwa [Vector.length_toList]
  have front : (s.slots.toList.take s.size).length = s.size := length_toList s
  rw [push_of_room room]
  simp only [toList, Vector.toList_set]
  rw [List.set_eq_take_append_cons_drop, if_pos slot, List.take_append, front,
    List.take_of_length_le (by omega), Nat.add_sub_cancel_left]
  rfl

/-! ## Looking at the top, and taking it -/

theorem pop_of_vacant (vacant : s.size = 0) : s.pop = (none, s) := dif_pos vacant

theorem exists_top (inhabited : s.size ≠ 0) : ∃ top : Fin capacity, top.val + 1 = s.size :=
  ⟨⟨s.size - 1, top_lt inhabited⟩, Nat.succ_pred inhabited⟩

variable {top : Fin capacity}

theorem pop_of_top (last : top.val + 1 = s.size) :
    s.pop = (some (s.slots.get top), ⟨s.slots, top.val, Nat.le_of_lt top.isLt⟩) := by
  have inhabited : s.size ≠ 0 := by omega
  have index : s.size - 1 = top.val := by omega
  simp only [pop, dif_neg inhabited, index]

theorem peek?_eq_fst_pop (s : Stack capacity) : s.peek? = s.pop.1 := by
  unfold peek? pop
  split <;> rfl

theorem fst_pop (s : Stack capacity) : s.pop.1 = s.toList.getLast? := by
  by_cases vacant : s.size = 0
  · rw [pop_of_vacant vacant, toList_eq_nil_iff.2 vacant]
    rfl
  obtain ⟨top, last⟩ := exists_top vacant
  have index : s.toList.length - 1 = top.val := by
    rw [length_toList]
    omega
  have inside : top.val < s.size := by omega
  rw [pop_of_top last, List.getLast?_eq_getElem?, index, toList, List.getElem?_take_of_lt inside,
    Vector.getElem?_toList]
  exact (Vector.getElem?_eq_getElem top.isLt).symm

theorem toList_pop (s : Stack capacity) : s.pop.2.toList = s.toList.dropLast := by
  by_cases vacant : s.size = 0
  · rw [pop_of_vacant vacant, toList_eq_nil_iff.2 vacant]
    rfl
  obtain ⟨top, last⟩ := exists_top vacant
  have shorter : min (s.size - 1) s.size = top.val := by omega
  rw [pop_of_top last, List.dropLast_eq_take, length_toList]
  simp only [toList, List.take_take, shorter]

/-! ## Sequences of operations -/

inductive Operation where
  | push (value : Word)
  | pop
  | peek
  | clear
deriving DecidableEq, Repr

inductive Answer where
  | pushed (accepted : Bool)
  | entry (found : Option Word)
  | cleared
deriving DecidableEq, Repr

def perform (s : Stack capacity) : Operation → Answer × Stack capacity
  | .push value => (.pushed (s.push value).1, (s.push value).2)
  | .pop => (.entry s.pop.1, s.pop.2)
  | .peek => (.entry s.peek?, s)
  | .clear => (.cleared, s.clear)

/-- The operation on a list that may grow to a length. The top is at the end of the list. -/
def performOnList (longest : Nat) (entries : List Word) : Operation → Answer × List Word
  | .push value =>
    if entries.length < longest then (.pushed true, entries ++ [value])
    else (.pushed false, entries)
  | .pop => (.entry entries.getLast?, entries.dropLast)
  | .peek => (.entry entries.getLast?, entries)
  | .clear => (.cleared, [])

def transact {σ : Type} (act : σ → Operation → Answer × σ) :
    List Operation → σ → List Answer × σ
  | [], state => ([], state)
  | operation :: history, state =>
    ((act state operation).1 :: (transact act history (act state operation).2).1,
      (transact act history (act state operation).2).2)

theorem performOnList_toList (s : Stack capacity) (operation : Operation) :
    performOnList capacity s.toList operation =
      ((s.perform operation).1, (s.perform operation).2.toList) := by
  cases operation with
  | push value =>
    by_cases full : s.size = capacity
    · have longest : ¬ s.toList.length < capacity := by rw [length_toList]; omega
      simp only [performOnList, perform, if_neg longest, push_of_full full]
    · have room : s.size < capacity := size_lt full
      have shorter : s.toList.length < capacity := by rwa [length_toList]
      simp only [performOnList, perform, if_pos shorter, toList_push room]
      rw [push_of_room room]
  | pop => simp only [performOnList, perform, fst_pop, toList_pop]
  | peek => simp only [performOnList, perform, peek?_eq_fst_pop, fst_pop]
  | clear => simp only [performOnList, perform, toList_clear]

theorem transact_toList (history : List Operation) (s : Stack capacity) :
    transact (performOnList capacity) history s.toList =
      ((transact perform history s).1, (transact perform history s).2.toList) := by
  induction history generalizing s with
  | nil => rfl
  | cons operation history inductionHypothesis =>
    simp only [transact, performOnList_toList, inductionHypothesis]

/-! ## The slots behind the entries -/

/-- The stack has the entries of a list, and each operation finds the slot that it needs. -/
structure Represents (s : Stack capacity) (entries : List Word) : Prop where
  toList : s.toList = entries
  size : s.size = entries.length
  within : entries.length ≤ capacity
  full : entries.length = capacity → ∀ value, s.push value = (false, s)
  -- The word goes into the first slot behind the entries, and no other slot changes.
  room : entries.length < capacity → ∃ slot : Fin capacity, slot.val = entries.length ∧
    ∀ value, (s.push value).1 = true ∧ (s.push value).2.toList = entries ++ [value] ∧
      (s.push value).2.slots = s.slots.set slot.val value
  vacant : entries = [] → s.peek? = none ∧ s.pop = (none, s)
  -- The word is that of the last slot in use, which keeps it.
  inhabited : entries ≠ [] → ∃ slot : Fin capacity, slot.val + 1 = entries.length ∧
    entries.getLast? = some (s.slots.get slot) ∧ s.peek? = some (s.slots.get slot) ∧
      s.pop.1 = some (s.slots.get slot) ∧ s.pop.2.toList = entries.dropLast ∧
      s.pop.2.slots = s.slots
  cleared : s.clear = empty ∧ s.clear.toList = []

theorem represents_toList (s : Stack capacity) : Represents s s.toList where
  toList := rfl
  size := s.length_toList.symm
  within := by
    rw [length_toList]
    exact s.bounded
  full longest value := by
    rw [length_toList] at longest
    exact push_of_full longest value
  room shorter := by
    rw [length_toList] at shorter
    refine ⟨⟨s.size, shorter⟩, s.length_toList.symm, fun value => ⟨?_, toList_push shorter value, ?_⟩⟩
    · rw [push_of_room shorter]
    · rw [push_of_room shorter]
  vacant bare := by
    have taken := pop_of_vacant (toList_eq_nil_iff.1 bare)
    refine ⟨?_, taken⟩
    rw [peek?_eq_fst_pop, taken]
  inhabited filled := by
    obtain ⟨top, last⟩ := exists_top fun vacant => filled (toList_eq_nil_iff.2 vacant)
    have taken : s.pop.1 = some (s.slots.get top) := congrArg Prod.fst (pop_of_top last)
    refine ⟨top, last.trans s.length_toList.symm, ?_, ?_, taken, toList_pop s, ?_⟩
    · rw [← fst_pop, taken]
    · rw [peek?_eq_fst_pop, taken]
    · rw [pop_of_top last]
  cleared := ⟨rfl, toList_clear s⟩

/-- A new stack and an empty list that may grow to its capacity answer every sequence of operations alike,
and behind it the stack has the entries of the list. -/
theorem alike_list (capacity : Nat) (history : List Operation) :
    let (answers, s) := transact perform history (empty : Stack capacity)
    let (expected, entries) := transact (performOnList capacity) history []
    answers = expected ∧ Represents s entries := by
  have alike := transact_toList history (empty : Stack capacity)
  rw [toList_empty] at alike
  rw [alike]
  exact ⟨rfl, represents_toList _⟩

/-- A single slot refuses a second word. Once it is given up it still holds its word, which is no entry any
more. -/
theorem singleSlot_alike :
    transact perform [.push 5, .push 6, .pop, .peek, .pop] (empty : Stack 1) =
        ([.pushed true, .pushed false, .entry (some 5), .entry none, .entry none],
          ⟨Vector.replicate 1 5, 0, by decide⟩) ∧
      Represents (⟨Vector.replicate 1 5, 0, by decide⟩ : Stack 1) [] := by
  have alike := alike_list 1 [.push 5, .push 6, .pop, .peek, .pop]
  exact ⟨by decide, alike.2⟩

end RegisterMachine.Stack
