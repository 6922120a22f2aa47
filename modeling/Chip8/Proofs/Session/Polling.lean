import Chip8.Display.Image
import Chip8.Proofs.Execution.Outputs
import Chip8.Proofs.Session.Agreement

/-!
# Polling

Between the operations that drive a session a host polls it: it looks at the display in one form or
another, and acknowledges what it has seen by lowering the flag. Polling leaves no trace. The
operations that drive the session give the same results and leave the same session, its journal
included, except that the flag may differ until the next cycle.
-/

namespace Chip8

/-- A form in which a host looks at the display. -/
inductive View where
  | integers (on off : Int)
  | texts (on off : String)
  | colors (scale : Int) (on off : List Int)
  | words (scheme : String)

inductive Picture where
  | integers (entries : Vector Int 2048)
  | texts (entries : Vector String 2048)
  | colors (image : Image)
  | words (entries : Vector UInt32 2048)

def Display.look (display : Display) : View → Except Misuse Picture
  | .integers on off => (display.integerFramebuffer on off).map .integers
  | .texts on off => .ok (.texts (display.textFramebuffer on off))
  | .colors scale on off => (display.render scale on off).map .colors
  | .words scheme => (display.xrgbNamed scheme).map .words

inductive Call where
  | operate (operation : Operation)
  | look (view : View)

/-- Everything but looking at the display and lowering its flag. -/
def Call.drives : Call → Bool
  | .operate .clearDirty | .look _ => false
  | .operate _ => true

inductive Reply where
  | answered (result : Except Error Answer)
  | shown (result : Except Misuse Picture)

namespace Session

def call (session : Session) : Call → Session × Reply
  | .operate operation => (session.perform operation).map id .answered
  | .look view => (session, .shown (session.system.machine.display.look view))

def afterCalls (session : Session) : List Call → Session
  | [] => session
  | call :: rest => (session.call call).1.afterCalls rest

/-- What the calls that drive a session give, each with the session that it leaves, whose flag is
not looked at. -/
def transcript (session : Session) : List Call → List (Reply × Session)
  | [] => []
  | call :: rest =>
      let (next, reply) := session.call call
      if call.drives then (reply, next.clearDirty) :: next.transcript rest
      else next.transcript rest

theorem transcript_cons_of_drives (session : Session) {call : Call} (drives : call.drives)
    (rest : List Call) :
    session.transcript (call :: rest) =
      ((session.call call).2, (session.call call).1.clearDirty) ::
        (session.call call).1.transcript rest :=
  if_pos drives

theorem transcript_cons_of_not_drives (session : Session) {call : Call} (polls : ¬call.drives)
    (rest : List Call) :
    session.transcript (call :: rest) = (session.call call).1.transcript rest :=
  if_neg polls

theorem entries_append (session : Session) (first second : List Event) :
    session.entries (first ++ second) = session.entries first ++ session.entries second :=
  List.flatMap_append

theorem entries_clearDirty (session : Session) (events : List Event) :
    session.clearDirty.entries events = session.entries events :=
  rfl

theorem announcement_clearDirty (system : System) :
    system.clearDirty.machine.announcement = system.machine.announcement := by
  have sameFetch : system.clearDirty.machine.fetch = system.machine.fetch := rfl
  rw [Machine.announcement, Machine.announcement, sameFetch]
  cases system.machine.fetch <;> rfl

theorem entries_stopped_clearDirty (session : Session) (description : String) (system : System) :
    session.entries [.stopped description system.clearDirty.machine] =
      session.entries [.stopped description system.machine] := by
  have sameSummary : system.clearDirty.machine.summary = system.machine.summary := rfl
  rw [entries, List.flatMap_singleton, Event.entries, Event.messages, sameSummary]
  rw [entries, List.flatMap_singleton, Event.entries, Event.messages]
  rfl

theorem complete_clearDirty (session : Session) (system : System) :
    session.clearDirty.complete system = session.complete system := by
  have lowered : session.clearDirty.system = session.system.clearDirty := rfl
  rw [complete, lowered, entries_clearDirty, announcement_clearDirty, complete]
  rfl

theorem halt_clearDirty (session : Session) (cause : Fault) :
    session.clearDirty.halt cause = (session.halt cause).clearDirty := by
  have lowered : session.clearDirty.system = session.system.clearDirty := rfl
  rw [halt, lowered, entries_clearDirty, entries_append, announcement_clearDirty,
    entries_stopped_clearDirty, ← entries_append, halt, clearDirty]
  rfl

/-- Sessions that differ at most in the flag of the display. -/
def EqualButFlag (left right : Session) : Prop :=
  left.clearDirty = right.clearDirty

variable {left right session : Session}

/-- A step that gives the same and leaves the same but for the flag, when the flag is lowered first,
does so for any two sessions that are the same but for the flag. -/
theorem matching_of_equalButFlag {Result : Type} (step : Session → Session × Except Error Result)
    (lowered : ∀ session, Matching EqualButFlag (step session.clearDirty) (step session))
    (related : EqualButFlag left right) : Matching EqualButFlag (step left) (step right) := by
  rcases lowered left with ⟨leftFlag, leftResult⟩
  rcases lowered right with ⟨rightFlag, rightResult⟩
  rw [related] at leftFlag leftResult
  exact ⟨leftFlag.symm.trans rightFlag, leftResult.symm.trans rightResult⟩

/-- Lowering the flag first changes nothing but the flag, and not even that if the cycle is
completed. -/
theorem cycle_clearDirty (session : Session) (stimulus : Stimulus) :
    Matching EqualButFlag (session.clearDirty.cycle stimulus) (session.cycle stimulus) ∧
      ((session.cycle stimulus).2 = .ok () →
        session.clearDirty.cycle stimulus = session.cycle stimulus) := by
  rcases halted : session.fault with _ | cause
  · have running : session.clearDirty.fault = none := halted
    rcases stepped : session.system.cycle stimulus with cause | system
    · have lowered : session.clearDirty.system.cycle stimulus = .error cause := stepped
      rw [cycle_of_faulted halted stepped, cycle_of_faulted running lowered, halt_clearDirty]
      exact ⟨⟨rfl, rfl⟩, nofun⟩
    · have lowered : session.clearDirty.system.cycle stimulus = .ok system := stepped
      rw [cycle_of_completed halted stepped, cycle_of_completed running lowered,
        complete_clearDirty]
      exact ⟨⟨rfl, rfl⟩, fun _ => rfl⟩
  · have refusing : session.clearDirty.fault = some cause := halted
    rw [cycle_of_halted halted, cycle_of_halted refusing]
    exact ⟨⟨rfl, rfl⟩, nofun⟩

theorem cycle_of_equalButFlag (related : EqualButFlag left right) (stimulus : Stimulus) :
    Matching EqualButFlag (left.cycle stimulus) (right.cycle stimulus) := by
  apply matching_of_equalButFlag (fun session => session.cycle stimulus) ?_ related
  intro session
  exact (cycle_clearDirty session stimulus).1

theorem isDirty_of_equalButFlag (related : EqualButFlag left right) (stimulus : Stimulus)
    (completed : (left.cycle stimulus).2 = .ok ()) :
    (left.cycle stimulus).1.isDirty = (right.cycle stimulus).1.isDirty := by
  have completedToo := (cycle_of_equalButFlag related stimulus).2.symm.trans completed
  rw [← (cycle_clearDirty left stimulus).2 completed, related,
    (cycle_clearDirty right stimulus).2 completedToo]

theorem reset_clearDirty (session : Session) :
    Matching EqualButFlag session.clearDirty.reset session.reset := by
  have sameKey : session.clearDirty.key = session.key := rfl
  have sameProgram : session.clearDirty.program = session.program := rfl
  rw [reset, reset, sameKey, sameProgram]
  rcases Machine.boot session.key session.program with cause | machine
  · exact ⟨rfl, rfl⟩
  · exact ⟨rfl, rfl⟩

/-- The flag that a cycle finds has no influence on what a session does. -/
theorem simulation_equalButFlag : Simulation EqualButFlag where
  cyclesPerFrame_eq related := by
    have same := congrArg Session.cyclesPerFrame related
    exact same
  cycle := cycle_of_equalButFlag
  isDirty_eq := isDirty_of_equalButFlag
  clearDirty related := congrArg clearDirty related
  setTime related now := congrArg (fun session : Session => session.setTime now) related
  reset := matching_of_equalButFlag reset reset_clearDirty

theorem call_of_equalButFlag (related : EqualButFlag left right) {call : Call}
    (drives : call.drives) :
    EqualButFlag (left.call call).1 (right.call call).1 ∧
      (left.call call).2 = (right.call call).2 := by
  cases call with
  | operate operation =>
      rcases simulation_equalButFlag.perform related operation with ⟨onward, sameAnswer⟩
      exact ⟨onward, congrArg Reply.answered sameAnswer⟩
  | look view => contradiction

theorem equalButFlag_call (session : Session) {call : Call} (polls : ¬call.drives) :
    EqualButFlag (session.call call).1 session := by
  cases call with
  | operate operation =>
      cases operation with
      | clearDirty => rfl
      | _ => exact absurd rfl polls
  | look view => rfl

/-- Nothing is lost from the transcript if the polling is left out. -/
theorem transcript_of_equalButFlag (related : EqualButFlag left right) (calls : List Call) :
    left.transcript calls = right.transcript (calls.filter Call.drives) ∧
      EqualButFlag (left.afterCalls calls) (right.afterCalls (calls.filter Call.drives)) := by
  induction calls generalizing left right with
  | nil => exact ⟨rfl, related⟩
  | cons call rest ih =>
      by_cases drives : call.drives
      · rcases call_of_equalButFlag related drives with ⟨onward, sameReply⟩
        rcases ih onward with ⟨sameRest, sameEnd⟩
        rw [List.filter_cons_of_pos drives, transcript_cons_of_drives _ drives,
          transcript_cons_of_drives _ drives, sameReply, onward, sameRest]
        exact ⟨rfl, sameEnd⟩
      · rw [List.filter_cons_of_neg drives, transcript_cons_of_not_drives _ drives]
        exact ih ((equalButFlag_call left drives).trans related)

/-- The flag of the display and the sound timer are never read. Systems that differ in nothing else
run alike, and sequences of calls that drive a session in the same way give the same transcript,
wherever the host looks at the display or lowers its flag in between. -/
theorem outputs_are_never_read :
    (∀ left right : System, left.silent = right.silent →
        ∀ stimuli, left.RunsAlike right stimuli) ∧
      ∀ (session : Session) (calls others : List Call),
        calls.filter Call.drives = others.filter Call.drives →
          session.transcript calls = session.transcript others ∧
            EqualButFlag (session.afterCalls calls) (session.afterCalls others) := by
  refine ⟨fun left right same stimuli => System.runsAlike_of_silent_eq same stimuli, ?_⟩
  intro session calls others sameDriving
  rcases transcript_of_equalButFlag (Eq.refl session.clearDirty) calls with ⟨first, firstEnd⟩
  rcases transcript_of_equalButFlag (Eq.refl session.clearDirty) others with ⟨second, secondEnd⟩
  rw [first, second, sameDriving]
  rw [sameDriving] at firstEnd
  exact ⟨rfl, firstEnd.trans secondEnd.symm⟩

/-- A program that sets the sound timer and clears the screen. -/
def sounding : List Int :=
  [0xF0, 0x18, 0x00, 0xE0]

theorem sounding_outputs :
    ∃ session, start { program := sounding, logger := standardLogger 0 } 0 = .ok session ∧
      let left := session.system
      let right : System := ⟨{ session.system.machine with sound := ⟨9⟩ }, .generator⟩
      left.silent = right.silent ∧ .setSound 0 ∈ left.executed [⟨true, .none⟩] ∧
        (left.run [⟨true, .none⟩]).1 = (right.run [⟨true, .none⟩]).1 ∧
        let calls : List Call := [.operate (.frame .none), .operate .clearDirty, .operate .reset]
        let others : List Call := [.operate (.frame .none), .look (.integers 1 0), .operate .reset]
        calls.filter Call.drives = others.filter Call.drives ∧
          session.transcript calls = session.transcript others := by
  have starts : ∃ session,
      start { program := sounding, logger := standardLogger 0 } 0 = .ok session := ⟨_, rfl⟩
  rcases starts with ⟨session, started⟩
  refine ⟨session, started, ?_⟩
  intro left right
  have generated : session.system.source = .generator := by
    cases started
    rfl
  have same : left.silent = right.silent := by
    simp only [left, right, System.silent, System.mute, generated]
  have setting : .setSound 0 ∈ left.executed [⟨true, .none⟩] := by
    cases started
    decide +kernel
  refine ⟨same, setting, (outputs_are_never_read.1 left right same _).eq 0 setting, ?_⟩
  intro calls others
  have sameDriving : calls.filter Call.drives = others.filter Call.drives := rfl
  exact ⟨sameDriving, (outputs_are_never_read.2 session calls others sameDriving).1⟩

end Session

end Chip8
