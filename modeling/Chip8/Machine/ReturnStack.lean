import Chip8.Word

/-!
# Return addresses

The return stack is a fixed number of 16-bit slots with a pointer to the first free one. Popping
clears the slot it frees, so the free slots of a stack that started empty always hold zero.
-/

namespace Chip8

/-- A bounded stack of return addresses. -/
structure ReturnStack where
  slots : Array UInt16
  pointer : Nat
  pointer_le : pointer ≤ slots.size
  deriving DecidableEq, Repr

namespace ReturnStack

def standardCapacity : Nat := 16

def capacity (stack : ReturnStack) : Nat :=
  stack.slots.size

def empty (capacity : Nat) : ReturnStack :=
  ⟨Array.replicate capacity 0, 0, Nat.zero_le _⟩

/-- The contents of a slot, and zero behind the last slot. -/
def slot (stack : ReturnStack) (index : Nat) : UInt16 :=
  stack.slots[index]?.getD 0

/-- The addresses on the stack, the oldest first. -/
def toList (stack : ReturnStack) : List UInt16 :=
  stack.slots.toList.take stack.pointer

def push (stack : ReturnStack) (address : UInt16) : Except Fault ReturnStack :=
  if free : stack.pointer < stack.slots.size then
    .ok ⟨stack.slots.set stack.pointer address, stack.pointer + 1,
      by rw [Array.size_set]; exact free⟩
  else .error (.stackOverflow stack.capacity)

/-- Removes the newest address and returns it, if there is one. -/
def pop (stack : ReturnStack) : Except Fault (UInt16 × ReturnStack) :=
  if used : 0 < stack.pointer then
    have inside : stack.pointer - 1 < stack.slots.size := by
      have := stack.pointer_le
      omega
    .ok (stack.slots[stack.pointer - 1],
      ⟨stack.slots.set (stack.pointer - 1) 0, stack.pointer - 1, by simp; omega⟩)
  else .error .stackUnderflow

theorem push_eq_error_iff {stack : ReturnStack} {address : UInt16} {fault : Fault} :
    stack.push address = .error fault ↔
      stack.pointer = stack.capacity ∧ fault = .stackOverflow stack.capacity := by
  have bounded := stack.pointer_le
  simp only [push]
  split
  · simp only [reduceCtorEq, capacity, false_iff]
    omega
  · have full : stack.pointer = stack.slots.size := by omega
    simp [capacity, full, eq_comm]

theorem pop_eq_error_iff {stack : ReturnStack} {fault : Fault} :
    stack.pop = .error fault ↔ stack.pointer = 0 ∧ fault = .stackUnderflow := by
  simp only [pop]
  split
  · simp only [reduceCtorEq, false_iff]
    omega
  · have none : stack.pointer = 0 := by omega
    simp [none, eq_comm]

theorem of_push {stack next : ReturnStack} {address : UInt16}
    (pushed : stack.push address = .ok next) :
    next.capacity = stack.capacity ∧ next.pointer = stack.pointer + 1 ∧
      ∀ index, next.slot index = if index = stack.pointer then address else stack.slot index := by
  simp only [push] at pushed
  split at pushed
  · rename_i free
    cases pushed
    refine ⟨by simp [capacity], rfl, ?_⟩
    intro index
    by_cases filled : index = stack.pointer
    · simp [slot, filled, free]
    · simp [slot, filled, Array.getElem?_set_ne, Ne.symm filled]
  · contradiction

theorem of_pop {stack next : ReturnStack} {address : UInt16}
    (popped : stack.pop = .ok (address, next)) :
    next.capacity = stack.capacity ∧ stack.pointer = next.pointer + 1 ∧
      address = stack.slot next.pointer ∧
      ∀ index, next.slot index = if index = next.pointer then 0 else stack.slot index := by
  simp only [pop] at popped
  split at popped
  · rename_i used
    cases popped
    have inside : stack.pointer - 1 < stack.slots.size := by
      have := stack.pointer_le
      omega
    refine ⟨by simp [capacity], by simp; omega, by simp [slot, inside], ?_⟩
    intro index
    by_cases freed : index = stack.pointer - 1
    · simp [slot, freed, inside]
    · simp [slot, freed, Array.getElem?_set_ne, Ne.symm freed]
  · contradiction

theorem slot_eq_getElem (stack : ReturnStack) {index : Nat} (inside : index < stack.slots.size) :
    stack.slot index = stack.slots[index] := by
  simp [slot, inside]

/-- A stack is known by its capacity, its pointer and its slots. -/
theorem ext_slot {left right : ReturnStack} (sameCapacity : left.capacity = right.capacity)
    (samePointer : left.pointer = right.pointer)
    (sameSlots : ∀ index, left.slot index = right.slot index) : left = right := by
  have sameArray : left.slots = right.slots := by
    apply Array.ext sameCapacity
    intro index insideLeft insideRight
    rw [← slot_eq_getElem left insideLeft, ← slot_eq_getElem right insideRight]
    exact sameSlots index
  obtain ⟨leftSlots, leftPointer, _⟩ := left
  obtain ⟨rightSlots, rightPointer, _⟩ := right
  dsimp only at sameArray samePointer
  subst sameArray samePointer
  rfl

@[simp]
theorem toList_empty (capacity : Nat) : (empty capacity).toList = [] := by
  simp [toList, empty]

@[simp]
theorem length_toList (stack : ReturnStack) : stack.toList.length = stack.pointer := by
  simp [toList, stack.pointer_le]

theorem toList_push {stack next : ReturnStack} {address : UInt16}
    (pushed : stack.push address = .ok next) : next.toList = stack.toList ++ [address] := by
  rw [push] at pushed
  split at pushed
  · rename_i free
    cases pushed
    simp [toList, List.take_add_one, free, List.take_set_of_le (Nat.le_refl _)]
  · contradiction

theorem toList_pop {stack next : ReturnStack} {address : UInt16}
    (popped : stack.pop = .ok (address, next)) : stack.toList = next.toList ++ [address] := by
  rw [pop] at popped
  split at popped
  · rename_i used
    cases popped
    have inside : stack.pointer - 1 < stack.slots.size := by
      have := stack.pointer_le
      omega
    have split : stack.slots.toList.take (stack.pointer - 1 + 1) =
        stack.slots.toList.take (stack.pointer - 1) ++ [stack.slots[stack.pointer - 1]] := by
      simp [List.take_add_one, inside]
    rw [Nat.sub_add_cancel used] at split
    simp [toList, split, List.take_set_of_le (Nat.le_refl _)]
  · contradiction

/-- Adds the low half of an address that a host gives. A full stack is noticed before an address
that is out of range. -/
def pushInteger (stack : ReturnStack) (address : Int) : Except Error ReturnStack :=
  if stack.pointer < stack.slots.size then
    match Word.lowHalf address with
    | .ok address => (stack.push address).mapError .fault
    | .error mistake => .error (.misuse mistake)
  else .error (.fault (.stackOverflow stack.capacity))

end ReturnStack

end Chip8
