import Chip8.Proofs.Execution.Frame
import Chip8.Proofs.Execution.Reachable
import Chip8.Proofs.Machine.ReturnStack

/-!
# Calls that return

A subroutine may call others, and return from them, as long as it does not return from itself. Until
then the stack has only grown out of the one that the call left: the addresses below stay where they
are, and a slot that is used in between is cleared again. When the subroutine returns at last, the
stack is therefore the one from before the call, free slots included, and the program goes on behind
the call.
-/

namespace Chip8

namespace ReturnStack

/-- A stack still holds the addresses of an earlier one, and its free slots are clear. -/
structure Extends (stack base : ReturnStack) : Prop where
  capacity_eq : stack.capacity = base.capacity
  pointer_le : base.pointer ≤ stack.pointer
  held : ∀ index, index < base.pointer → stack.slot index = base.slot index
  scrubbed : stack.Scrubbed

variable {stack next base : ReturnStack} {address : UInt16}

namespace Extends

theorem refl (scrubbed : base.Scrubbed) : base.Extends base where
  capacity_eq := rfl
  pointer_le := Nat.le_refl _
  held _ _ := rfl
  scrubbed := scrubbed

theorem push (grown : stack.Extends base) (pushed : stack.push address = .ok next) :
    next.Extends base := by
  rcases of_push pushed with ⟨sameCapacity, counted, slots⟩
  have base_le := grown.pointer_le
  refine ⟨sameCapacity.trans grown.capacity_eq, by omega, ?_, grown.scrubbed.push pushed⟩
  intro index used
  rw [slots, if_neg (by omega)]
  exact grown.held index used

theorem pop (grown : stack.Extends base) (popped : stack.pop = .ok (address, next))
    (above : base.pointer ≤ next.pointer) : next.Extends base := by
  rcases of_pop popped with ⟨sameCapacity, counted, _, slots⟩
  refine ⟨sameCapacity.trans grown.capacity_eq, above, ?_, grown.scrubbed.pop popped⟩
  intro index used
  rw [slots, if_neg (by omega)]
  exact grown.held index used

/-- A stack that has grown out of another by nothing is that one. -/
theorem eq_of_pointer_eq (grown : stack.Extends base) (scrubbed : base.Scrubbed)
    (samePointer : stack.pointer = base.pointer) : stack = base := by
  apply ext_slot grown.capacity_eq samePointer
  intro index
  by_cases used : index < base.pointer
  · exact grown.held index used
  · rw [scrubbed index (by omega), grown.scrubbed index (by omega)]

end Extends

end ReturnStack

namespace System

variable {system next : System} {stimulus : Stimulus}

/-- A completed cycle keeps the return stack, pops an address or pushes one. -/
theorem stack_cases_of_cycle (completed : system.cycle stimulus = .ok next) :
    next.machine.stack = system.machine.stack ∨
      (∃ address, system.machine.stack.pop = .ok (address, next.machine.stack)) ∨
      ∃ address, system.machine.stack.push address = .ok next.machine.stack := by
  rcases exists_performs_of_cycle completed with
    ⟨opcode, instruction, performed, fetched, encoded, performs, rfl⟩
  have cases_of_performed := performs.stack_cases
  simp only [supply_stack, clearDirty_stack] at cases_of_performed
  rw [tickIf_stack]
  rcases cases_of_performed with kept | ⟨_, popped⟩ | ⟨_, pushed⟩
  · exact .inl kept
  · exact .inr (.inl ⟨_, popped⟩)
  · exact .inr (.inr ⟨_, pushed⟩)

theorem extends_of_cycle {base : ReturnStack} (grown : system.machine.stack.Extends base)
    (completed : system.cycle stimulus = .ok next)
    (above : base.pointer ≤ next.machine.stack.pointer) : next.machine.stack.Extends base := by
  rcases stack_cases_of_cycle completed with kept | ⟨address, popped⟩ | ⟨address, pushed⟩
  · rw [kept]
    exact grown
  · exact grown.pop popped above
  · exact grown.push pushed

/-- From here on, the cycles for some stimuli leave a number of return addresses alone. -/
def StaysAbove (system : System) (depth : Nat) (stimuli : List Stimulus) : Prop :=
  ∀ count ≤ stimuli.length,
    depth ≤ (system.run (stimuli.take count)).1.machine.stack.pointer

theorem StaysAbove.of_cons {depth : Nat} {rest : List Stimulus}
    (above : system.StaysAbove depth (stimulus :: rest))
    (completed : system.cycle stimulus = .ok next) : next.StaysAbove depth rest := by
  intro count count_le
  have later := above (count + 1) (Nat.succ_le_succ count_le)
  rw [List.take_succ_cons, run, completed] at later
  exact later

theorem extends_of_run {base : ReturnStack} {stimuli : List Stimulus} {reached : System}
    (grown : system.machine.stack.Extends base)
    (completed : system.run stimuli = (reached, none))
    (above : system.StaysAbove base.pointer stimuli) : reached.machine.stack.Extends base := by
  induction stimuli generalizing system with
  | nil =>
      rw [run, Prod.mk.injEq] at completed
      rw [← completed.1]
      exact grown
  | cons stimulus rest ih =>
      rcases run_cons_completed_iff.mp completed with ⟨next, stepped, restCompleted⟩
      have restAbove := above.of_cons stepped
      have nextAbove : base.pointer ≤ next.machine.stack.pointer := restAbove 0 (Nat.zero_le _)
      exact ih (extends_of_cycle grown stepped nextAbove) restCompleted restAbove

theorem exists_cycle_of_call {opcode : UInt16} (stimulus : Stimulus)
    (room : system.machine.stack.pointer < system.machine.stack.capacity)
    (fetched : system.machine.fetch = .ok opcode)
    (calls : (Fields.ofOpcode opcode.toNat).family = 0x2) :
    ∃ called, system.cycle stimulus = .ok called ∧
      system.machine.stack.push (system.machine.pc + 2) = .ok called.machine.stack := by
  rcases ReturnStack.exists_push_of_not_full (Nat.ne_of_lt room) (system.machine.pc + 2) with
    ⟨stack, pushed⟩
  refine ⟨_, cycle_of_performs fetched (.call calls) (.call pushed), ?_⟩
  rw [tickIf_stack]
  exact pushed

theorem exists_cycle_of_return {address : UInt16} {stack : ReturnStack} (stimulus : Stimulus)
    (fetched : system.machine.fetch = .ok 0x00EE)
    (popped : system.machine.stack.pop = .ok (address, stack)) :
    ∃ returned, system.cycle stimulus = .ok returned ∧ returned.machine.pc = address ∧
      returned.machine.stack = stack := by
  refine ⟨_, cycle_of_performs fetched (.returnFromCall rfl) (.returnFromCall popped), ?_, ?_⟩
  · rw [tickIf_pc]
  · rw [tickIf_stack]

/-- A call is completed, and so is the return from it, whatever the program has done in between
without returning from the call before. The return restores the stack and goes on behind the
call. -/
theorem exists_return_of_call {opcode : UInt16}
    (room : system.machine.stack.pointer < system.machine.stack.capacity)
    (scrubbed : system.machine.stack.Scrubbed) (fetched : system.machine.fetch = .ok opcode)
    (calls : (Fields.ofOpcode opcode.toNat).family = 0x2) (stimulus : Stimulus) :
    ∃ called, system.cycle stimulus = .ok called ∧
      ∀ stimuli inner, called.run stimuli = (inner, none) →
        called.StaysAbove (system.machine.stack.pointer + 1) stimuli →
        inner.machine.stack.pointer = system.machine.stack.pointer + 1 →
        inner.machine.fetch = .ok 0x00EE →
        ∀ last, ∃ returned, inner.cycle last = .ok returned ∧
          returned.machine.pc.toNat = system.machine.pc.toNat + 2 ∧
          returned.machine.stack = system.machine.stack := by
  rcases exists_cycle_of_call stimulus room fetched calls with ⟨called, completed, pushed⟩
  refine ⟨called, completed, ?_⟩
  intro stimuli inner ran above samePointer returns last
  have calledPointer : called.machine.stack.pointer = system.machine.stack.pointer + 1 :=
    (ReturnStack.of_push pushed).2.1
  have calledScrubbed : called.machine.stack.Scrubbed := scrubbed.push pushed
  rw [← calledPointer] at above samePointer
  -- The stack that the call left is the base that the whole run extends, and in the end it has
  -- extended it by nothing.
  have grown : inner.machine.stack.Extends called.machine.stack :=
    extends_of_run (.refl calledScrubbed) ran above
  have sameStack : inner.machine.stack = called.machine.stack :=
    grown.eq_of_pointer_eq calledScrubbed samePointer
  have popped : inner.machine.stack.pop =
      .ok (system.machine.pc + 2, system.machine.stack) := by
    rw [sameStack]
    exact scrubbed.pop_of_push pushed
  rcases exists_cycle_of_return last returns popped with ⟨returned, finished, behind, restored⟩
  refine ⟨returned, finished, ?_, restored⟩
  have inside := (Machine.fetch_eq_ok_iff.mp fetched).1
  have two : (2 : UInt16).toNat = 2 := rfl
  rw [behind, UInt16.toNat_add, two]
  omega

/-- A program that calls a subroutine at 0x204, which calls another at 0x208 and then returns. -/
def nestedCalls : System where
  machine := { Machine.powerOn ⟨0, 7⟩ with
    memory := ⟨overlay (Vector.replicate 4096 0) Memory.programStart
      [0x22, 0x04, 0x00, 0x00, 0x22, 0x08, 0x00, 0xEE, 0x00, 0xEE]⟩ }
  source := .generator

theorem nestedCalls_return :
    nestedCalls.machine.fetch = .ok 0x2204 ∧
      ∃ called inner returned,
        nestedCalls.cycle ⟨false, .none⟩ = .ok called ∧
        called.run [⟨false, .none⟩, ⟨true, .none⟩] = (inner, none) ∧
        inner.machine.stack.pointer = 1 ∧ inner.machine.fetch = .ok 0x00EE ∧
        inner.cycle ⟨false, .none⟩ = .ok returned ∧
        returned.machine.pc.toNat = 0x202 ∧
        returned.machine.stack = nestedCalls.machine.stack := by
  have fetched : nestedCalls.machine.fetch = .ok 0x2204 := by decide +kernel
  have scrubbed : nestedCalls.machine.stack.Scrubbed :=
    (Machine.AddressesBounded.powerOn ⟨0, 7⟩).free_slot
  have runs : nestedCalls.machine.stack.pointer = 0 ∧
      (nestedCalls.run [⟨false, .none⟩, ⟨false, .none⟩, ⟨true, .none⟩]).2 = none ∧
      (nestedCalls.run [⟨false, .none⟩, ⟨false, .none⟩, ⟨true, .none⟩]).1.machine.stack.pointer =
        1 ∧
      (nestedCalls.run [⟨false, .none⟩, ⟨false, .none⟩, ⟨true, .none⟩]).1.machine.fetch =
        .ok 0x00EE ∧
      ∀ count ≤ 2, 1 ≤ (nestedCalls.run (⟨false, .none⟩ ::
        [⟨false, .none⟩, ⟨true, .none⟩].take count)).1.machine.stack.pointer := by
    decide +kernel
  rcases exists_return_of_call (by decide) scrubbed fetched (by decide) ⟨false, .none⟩ with
    ⟨called, completed, returns⟩
  have run_cons (stimuli : List Stimulus) :
      nestedCalls.run (⟨false, .none⟩ :: stimuli) = called.run stimuli := by
    simp only [run, completed, proceed]
  simp only [run_cons] at runs
  rcases ran : called.run [⟨false, .none⟩, ⟨true, .none⟩] with ⟨inner, fault⟩
  rw [ran] at runs
  rcases runs with ⟨outermost, completes, samePointer, fetchedReturn, above⟩
  dsimp only at completes samePointer fetchedReturn
  subst completes
  rw [outermost] at returns
  rcases returns _ inner ran above samePointer fetchedReturn ⟨false, .none⟩ with
    ⟨returned, finished, behind, restored⟩
  exact ⟨fetched, called, inner, returned, completed, ran, samePointer, fetchedReturn, finished,
    behind, restored⟩

end System

end Chip8
