import Chip8.Machine.ReturnStack
import Chip8.Proofs.Outcome

/-!
# The return stack as a list

A host may push integers onto a stack and pop addresses from it, in any order. The stack answers
like a list of 16-bit words that grows and shrinks at its end and takes no more entries than the
stack has slots. Popping clears the slot it frees, so there are only zeros behind the list, and a
stack does not remember how its list has come about: histories that leave the same list leave the
same stack.
-/

namespace Chip8

/-- What a host asks of a stack of addresses. -/
inductive StackRequest where
  | push (address : Int)
  | pop
  deriving DecidableEq, Repr

namespace StackRequest

/-- The answer to a request, and what it leaves behind; or the reason why it is refused. -/
abbrev Reply (Store : Type) : Type :=
  Except Error (Option UInt16 × Store)

variable {Store : Type}

/-- What there is after a request. One that is refused changes nothing. -/
def settle (store : Store) : Reply Store → Store
  | .ok (_, next) => next
  | .error _ => store

/-- What there is after some requests in turn. -/
def after (respond : Store → StackRequest → Reply Store) : Store → List StackRequest → Store
  | store, [] => store
  | store, request :: rest => after respond (settle store (respond store request)) rest

/-- The answers to some requests in turn. -/
def answers (respond : Store → StackRequest → Reply Store) :
    Store → List StackRequest → List (Except Error (Option UInt16))
  | _, [] => []
  | store, request :: rest =>
      (respond store request).map Prod.fst ::
        answers respond (settle store (respond store request)) rest

/-- How a list answers whose last entry is the newest. As long as it has fewer entries than it may
have, it takes any integer of 32 bits, modulo 2^16. -/
def onList (capacity : Nat) (held : List UInt16) : StackRequest → Reply (List UInt16)
  | .push address =>
      if held.length = capacity then .error (.fault (.stackOverflow capacity))
      else if -2147483648 ≤ address ∧ address < 2147483648 then
        .ok (none, held ++ [UInt16.ofNat (address % 65536).toNat])
      else .error (.misuse (.outOfRange address))
  | .pop =>
      match held.getLast? with
      | some newest => .ok (some newest, held.dropLast)
      | none => .error (.fault .stackUnderflow)

end StackRequest

/-- The integers of 32 bits have a low half, which is what they leave modulo 2^16. -/
theorem Word.lowHalf_eq (value : Int) :
    lowHalf value =
      if -2147483648 ≤ value ∧ value < 2147483648 then
        .ok (UInt16.ofNat (value % 65536).toNat)
      else .error (.outOfRange value) := by
  have bound : ((1 <<< (32 - 1) : Nat) : Int) = 2147483648 := rfl
  simp only [lowHalf, signed, bound]
  split <;> rfl

namespace ReturnStack

open StackRequest

def respond (stack : ReturnStack) : StackRequest → Reply ReturnStack
  | .push address => (stack.pushInteger address).map fun next => (none, next)
  | .pop => (stack.pop.mapError .fault).map fun (newest, next) => (some newest, next)

/-- The slots that no address lies in are clear. -/
def Scrubbed (stack : ReturnStack) : Prop :=
  ∀ index, stack.pointer ≤ index → stack.slot index = 0

/-- A stack of some capacity has the addresses of a list on it, and its free slots are clear. -/
structure Holds (stack : ReturnStack) (capacity : Nat) (held : List UInt16) : Prop where
  capacity_eq : stack.capacity = capacity
  toList_eq : stack.toList = held
  scrubbed : stack.Scrubbed

/-- A stack and a list refuse a request for the same reason, or give the same answer to it and the
stack holds the list afterwards. -/
inductive Alike (capacity : Nat) : Reply ReturnStack → Reply (List UInt16) → Prop where
  | answered {answer : Option UInt16} {next : ReturnStack} {held : List UInt16}
      (holds : next.Holds capacity held) : Alike capacity (.ok (answer, next)) (.ok (answer, held))
  | refused (cause : Error) : Alike capacity (.error cause) (.error cause)

variable {stack next : ReturnStack} {capacity : Nat} {held : List UInt16} {address newest : UInt16}

theorem Scrubbed.push (scrubbed : stack.Scrubbed) (pushed : stack.push address = .ok next) :
    next.Scrubbed := by
  rcases of_push pushed with ⟨_, counted, slots⟩
  intro index free
  rw [slots, if_neg (by omega)]
  exact scrubbed index (by omega)

theorem Scrubbed.pop (scrubbed : stack.Scrubbed) (popped : stack.pop = .ok (address, next)) :
    next.Scrubbed := by
  rcases of_pop popped with ⟨_, counted, _, slots⟩
  intro index free
  rw [slots]
  split
  · rfl
  · exact scrubbed index (by omega)

/-- Popping a pushed address gives the address and the stack from before. -/
theorem Scrubbed.pop_of_push (scrubbed : stack.Scrubbed) (pushed : stack.push address = .ok next) :
    next.pop = .ok (address, stack) := by
  rcases of_push pushed with ⟨sameCapacity, counted, slots⟩
  rcases popped : next.pop with fault | ⟨newest, rest⟩
  · have empty := (pop_eq_error_iff.mp popped).1
    omega
  · rcases of_pop popped with ⟨restCapacity, restCounted, newest_eq, restSlots⟩
    have samePointer : rest.pointer = stack.pointer := by omega
    have restored : rest = stack := by
      apply ext_slot (restCapacity.trans sameCapacity) samePointer
      intro index
      rw [restSlots, slots, samePointer]
      split
      · rename_i freed
        exact (scrubbed index (Nat.le_of_eq freed.symm)).symm
      · rfl
    rw [newest_eq, slots, if_pos samePointer, restored]

theorem scrubbed_empty (capacity : Nat) : (empty capacity).Scrubbed := by
  intro index _
  by_cases inside : index < capacity <;> simp [slot, empty, inside]

theorem getElem?_toList (stack : ReturnStack) (index : Nat) :
    stack.toList[index]? = if index < stack.pointer then some (stack.slot index) else none := by
  have bounded := stack.pointer_le
  simp only [toList, List.getElem?_take]
  split
  · have inside : index < stack.slots.size := by omega
    simp [slot, inside]
  · rfl

theorem Scrubbed.slot_eq (scrubbed : stack.Scrubbed) (index : Nat) :
    stack.slot index = stack.toList[index]?.getD 0 := by
  rw [getElem?_toList]
  split
  · rfl
  · exact scrubbed index (by omega)

theorem pushInteger_of_full (full : stack.pointer = stack.capacity) (address : Int) :
    stack.pushInteger address = .error (.fault (.stackOverflow stack.capacity)) := by
  have noRoom : ¬stack.pointer < stack.slots.size := Nat.not_lt_of_le (Nat.le_of_eq full.symm)
  simp [pushInteger, noRoom]

/-- A stack that is not full takes the integers that have a low half. -/
theorem pushInteger_of_not_full (notFull : stack.pointer ≠ stack.capacity) (address : Int) :
    stack.pushInteger address =
      if -2147483648 ≤ address ∧ address < 2147483648 then
        (stack.push (UInt16.ofNat (address % 65536).toNat)).mapError .fault
      else .error (.misuse (.outOfRange address)) := by
  have room : stack.pointer < stack.slots.size := Nat.lt_of_le_of_ne stack.pointer_le notFull
  simp only [pushInteger, if_pos room, Word.lowHalf_eq]
  by_cases accepted : -2147483648 ≤ address ∧ address < 2147483648
  · simp only [if_pos accepted]
  · simp only [if_neg accepted]

/-- An address of the machine is pushed like the integer that it stands for. -/
theorem pushInteger_toNat (stack : ReturnStack) (address : UInt16) :
    stack.pushInteger address.toNat = (stack.push address).mapError .fault := by
  by_cases full : stack.pointer = stack.capacity
  · have refused : stack.push address = .error (.stackOverflow stack.capacity) :=
      push_eq_error_iff.mpr ⟨full, rfl⟩
    rw [pushInteger_of_full full, refused]
    rfl
  · have small := address.toNat_lt
    have accepted : -2147483648 ≤ (address.toNat : Int) ∧ (address.toNat : Int) < 2147483648 := by
      omega
    have kept : ((address.toNat : Int) % 65536).toNat = address.toNat := by omega
    rw [pushInteger_of_not_full full, if_pos accepted, kept, UInt16.ofNat_toNat]

theorem exists_push_of_not_full (notFull : stack.pointer ≠ stack.capacity) (address : UInt16) :
    ∃ next, stack.push address = .ok next := by
  apply Outcome.exists_ok_iff.mpr
  intro fault refused
  exact notFull (push_eq_error_iff.mp refused).1

theorem exists_pop_of_pointer_ne_zero (used : stack.pointer ≠ 0) :
    ∃ address next, stack.pop = .ok (address, next) := by
  rcases popped : stack.pop with fault | ⟨address, next⟩
  · exact absurd (pop_eq_error_iff.mp popped).1 used
  · exact ⟨address, next, rfl⟩

namespace Holds

theorem empty (capacity : Nat) : (ReturnStack.empty capacity).Holds capacity [] where
  capacity_eq := by simp [ReturnStack.capacity, ReturnStack.empty]
  toList_eq := toList_empty capacity
  scrubbed := scrubbed_empty capacity

theorem pointer_eq (holds : stack.Holds capacity held) : stack.pointer = held.length := by
  rw [← holds.toList_eq, length_toList]

theorem length_le (holds : stack.Holds capacity held) : held.length ≤ capacity := by
  rw [← holds.pointer_eq, ← holds.capacity_eq]
  exact stack.pointer_le

theorem slot_eq (holds : stack.Holds capacity held) (index : Nat) :
    stack.slot index = held[index]?.getD 0 := by
  rw [holds.scrubbed.slot_eq, holds.toList_eq]

theorem push (holds : stack.Holds capacity held) (pushed : stack.push address = .ok next) :
    next.Holds capacity (held ++ [address]) where
  capacity_eq := (of_push pushed).1.trans holds.capacity_eq
  toList_eq := by rw [toList_push pushed, holds.toList_eq]
  scrubbed := holds.scrubbed.push pushed

theorem pop (holds : stack.Holds capacity (held ++ [newest]))
    (popped : stack.pop = .ok (address, next)) : address = newest ∧ next.Holds capacity held := by
  have sameList : next.toList ++ [address] = held ++ [newest] :=
    (toList_pop popped).symm.trans holds.toList_eq
  rcases List.append_inj' sameList rfl with ⟨toList_eq, sameNewest⟩
  have sameCapacity := (of_pop popped).1.trans holds.capacity_eq
  exact ⟨List.singleton_inj.mp sameNewest, sameCapacity, toList_eq, holds.scrubbed.pop popped⟩

/-- A stack and a list that it holds answer every request alike. -/
theorem respond (holds : stack.Holds capacity held) (request : StackRequest) :
    Alike capacity (stack.respond request) (onList capacity held request) := by
  cases request with
  | push address =>
      simp only [ReturnStack.respond, onList]
      by_cases full : held.length = capacity
      · have stackFull : stack.pointer = stack.capacity := by
          rw [holds.pointer_eq, holds.capacity_eq, full]
        rw [if_pos full, pushInteger_of_full stackFull, holds.capacity_eq]
        exact .refused _
      · have notFull : stack.pointer ≠ stack.capacity := by
          rwa [holds.pointer_eq, holds.capacity_eq]
        rw [if_neg full, pushInteger_of_not_full notFull]
        split
        · rcases exists_push_of_not_full notFull (UInt16.ofNat (address % 65536).toNat) with
            ⟨next, pushed⟩
          rw [pushed]
          exact .answered (holds.push pushed)
        · exact .refused _
  | pop =>
      simp only [ReturnStack.respond, onList]
      -- The list is taken apart at its end, where the newest entry is.
      rcases List.eq_nil_or_concat held with rfl | ⟨rest, newest, rfl⟩
      · have refused : stack.pop = .error .stackUnderflow :=
          pop_eq_error_iff.mpr ⟨holds.pointer_eq, rfl⟩
        rw [refused]
        exact .refused _
      · rw [List.concat_eq_append] at holds ⊢
        have used : stack.pointer ≠ 0 := by
          simp [holds.pointer_eq]
        rcases exists_pop_of_pointer_ne_zero used with ⟨address, next, popped⟩
        rcases holds.pop popped with ⟨rfl, restHolds⟩
        rw [popped, List.getLast?_concat, List.dropLast_concat]
        exact .answered restHolds

theorem eq_iff {other : ReturnStack} {otherHeld : List UInt16} (holds : stack.Holds capacity held)
    (otherHolds : other.Holds capacity otherHeld) : stack = other ↔ held = otherHeld := by
  constructor
  · rintro rfl
    exact holds.toList_eq.symm.trans otherHolds.toList_eq
  · rintro rfl
    apply ext_slot
    · exact holds.capacity_eq.trans otherHolds.capacity_eq.symm
    · exact holds.pointer_eq.trans otherHolds.pointer_eq.symm
    · intro index
      exact (holds.slot_eq index).trans (otherHolds.slot_eq index).symm

end Holds

namespace Alike

variable {served : Reply ReturnStack} {listed : Reply (List UInt16)}

theorem map_fst_eq (alike : Alike capacity served listed) :
    served.map Prod.fst = listed.map Prod.fst := by
  cases alike with
  | answered holds => rfl
  | refused cause => rfl

theorem settle (alike : Alike capacity served listed) (holds : stack.Holds capacity held) :
    (StackRequest.settle stack served).Holds capacity (StackRequest.settle held listed) := by
  cases alike with
  | answered nextHolds => exact nextHolds
  | refused cause => exact holds

end Alike

theorem Holds.run (holds : stack.Holds capacity held) (requests : List StackRequest) :
    answers ReturnStack.respond stack requests = answers (onList capacity) held requests ∧
      (after ReturnStack.respond stack requests).Holds capacity
        (after (onList capacity) held requests) := by
  induction requests generalizing stack held with
  | nil => exact ⟨rfl, holds⟩
  | cons request rest ih =>
      have alike := holds.respond request
      rcases ih (alike.settle holds) with ⟨sameAnswers, restHolds⟩
      simp only [answers, after, alike.map_fst_eq, sameAnswers]
      exact ⟨trivial, restHolds⟩

/-- From empty on, a stack answers every request like a list that holds at most as many entries as
there are slots. The pointer counts the entries, the slots below it hold them in order, and all
other slots are zero; so two histories leave the same stack if and only if they leave the same list.
The addresses of the machine are pushed like the integers that they stand for. -/
theorem follows_bounded_list (capacity : Nat) (requests : List StackRequest) :
    let stack := after respond (empty capacity) requests
    let held := after (onList capacity) [] requests
    answers respond (empty capacity) requests = answers (onList capacity) [] requests ∧
      held.length ≤ capacity ∧ stack.capacity = capacity ∧ stack.pointer = held.length ∧
      (∀ index, stack.slot index = held[index]?.getD 0) ∧
      (∀ otherRequests, stack = after respond (empty capacity) otherRequests ↔
        held = after (onList capacity) [] otherRequests) ∧
      ∀ address : UInt16,
        stack.pushInteger address.toNat = (stack.push address).mapError .fault := by
  intro stack held
  rcases (Holds.empty capacity).run requests with ⟨sameAnswers, holds⟩
  refine ⟨sameAnswers, holds.length_le, holds.capacity_eq, holds.pointer_eq, holds.slot_eq, ?_,
    stack.pushInteger_toNat⟩
  intro otherRequests
  rcases (Holds.empty capacity).run otherRequests with ⟨_, otherHolds⟩
  exact holds.eq_iff otherHolds

/-- A stack with a single slot keeps the low half of the first integer. -/
example : answers respond (empty 1) [.push 70000, .push 1, .pop, .pop] =
    [.ok none, .error (.fault (.stackOverflow 1)), .ok (some 4464),
      .error (.fault .stackUnderflow)] :=
  rfl

end ReturnStack

end Chip8
