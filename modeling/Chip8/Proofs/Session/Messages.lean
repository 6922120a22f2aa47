import Chip8.Proofs.Numeral
import Chip8.Proofs.Session.Filtering
import Chip8.Proofs.Session.Incidents

/-!
# What a session writes

What happens to a session decides which messages there are: one about loading the program, and then,
incident by incident, the announcement of the opcode that could be fetched, two messages about a
fault, one about a reset, and none about a cycle that is refused. Its logger only decides which of
them are let through. An announcement has ten characters, from which the address and the opcode can
be read back.
-/

namespace Chip8

open Numeral

/-- The line that announces the opcode at an address. -/
def traceLine (address opcode : UInt16) : String :=
  hex 4 address.toNat ++ ": " ++ hex 4 opcode.toNat

def loadNote (size : Nat) : Level × String :=
  (.info, "Loaded ROM: " ++ decimal size ++ " bytes at 0x200")

def resetNote (cycles : Nat) : Level × String :=
  (.info, "Reset after " ++ decimal cycles ++ " cycles")

/-- The announcement of an opcode, if one could be fetched from the address. -/
def announced (address : UInt16) : Except Fault UInt16 → List (Level × String)
  | .ok opcode => [(.debug, traceLine address opcode)]
  | .error _ => []

theorem announced_of_fetch {machine : Machine} {opcode : UInt16}
    (fetched : machine.fetch = .ok opcode) :
    announced machine.pc machine.fetch = [(.debug, traceLine machine.pc opcode)] := by
  rw [fetched]
  rfl

/-- The messages about an incident, each with its level. -/
def Incident.notes : Incident → List (Level × String)
  | .completed machine => announced machine.pc machine.fetch
  | .faulted machine cause =>
      announced machine.pc machine.fetch ++
        [(.critical, "Fatal error: " ++ cause.message), (.critical, machine.summary)]
  | .refused => []
  | .restarted reported => [resetNote reported]

theorem toList_traceLine (address opcode : UInt16) :
    (traceLine address opcode).toList =
      natural 16 4 address.toNat ++ ':' :: ' ' :: natural 16 4 opcode.toNat := by
  simp [traceLine, hex_natCast]

theorem length_natural_toNat (word : UInt16) : (natural 16 4 word.toNat).length = 4 :=
  length_natural word.toNat_lt

theorem length_traceLine (address opcode : UInt16) : (traceLine address opcode).length = 10 := by
  rw [← String.length_toList, toList_traceLine]
  simp [length_natural_toNat]

theorem injective2_traceLine : Function.Injective2 traceLine := by
  intro address otherAddress opcode otherOpcode same
  have sameText := congrArg String.toList same
  rw [toList_traceLine, toList_traceLine] at sameText
  have sameLength : (natural 16 4 address.toNat).length =
      (natural 16 4 otherAddress.toNat).length := by
    rw [length_natural_toNat, length_natural_toNat]
  rcases List.append_inj sameText sameLength with ⟨sameAddress, sameRest⟩
  have sameOpcode := List.tail_eq_of_cons_eq (List.tail_eq_of_cons_eq sameRest)
  rw [natural_inj (by decide) (by decide), UInt16.toNat_inj] at sameAddress sameOpcode
  exact ⟨sameAddress, sameOpcode⟩

/-- An accepted message with its level. -/
def Entry.note (entry : Entry) : Level × String :=
  (entry.severity, entry.message)

namespace Event

def notes (event : Event) : List (Level × String) :=
  event.messages.map fun message => (event.level, message)

theorem map_note_entries (event : Event) (logger : Logger) (now : Int) :
    (event.entries logger now).map Entry.note =
      event.notes.filter fun note => logger.accepts note.1 := by
  rw [entries]
  by_cases accepted : logger.accepts event.level
  · simp [notes, accepted, Entry.note, List.filter_map, Function.comp_def]
  · simp [notes, accepted]

end Event

namespace Machine

theorem notes_announce (machine : Machine) (fetched : Except Fault UInt16) :
    (machine.announce fetched).flatMap Event.notes = announced machine.pc fetched := by
  cases fetched with
  | ok opcode => rfl
  | error cause => rfl

theorem notes_announcement (machine : Machine) :
    machine.announcement.flatMap Event.notes = announced machine.pc machine.fetch :=
  machine.notes_announce machine.fetch

theorem notes_announcement_stopped (machine : Machine) (cause : Fault) :
    (machine.announcement ++ [Event.stopped cause.message machine]).flatMap Event.notes =
      (Incident.faulted machine cause).notes := by
  rw [List.flatMap_append, notes_announcement]
  rfl

end Machine

namespace Session

/-- The messages that a session has let through, each with its level. -/
def notes (session : Session) : List (Level × String) :=
  session.journal.map Entry.note

theorem map_note_entries (session : Session) (events : List Event) :
    (session.entries events).map Entry.note =
      (events.flatMap Event.notes).filter fun note => session.logger.accepts note.1 := by
  simp [entries, List.map_flatMap, List.filter_flatMap, Event.map_note_entries]

/-- A session with some logger has let through what this accepts of an opening and of the messages
about what has happened. -/
structure Transcribes (logger : Logger) (opening : List (Level × String)) (session : Session)
    (past : List Incident) : Prop where
  logger_eq : session.logger = logger
  notes_eq : session.notes =
    (opening ++ past.flatMap Incident.notes).filter fun note => logger.accepts note.1

namespace Transcribes

variable {logger : Logger} {opening : List (Level × String)} {session next : Session}
  {past : List Incident} {incident : Incident} {events : List Event}

theorem append (transcribes : Transcribes logger opening session past)
    (sameLogger : next.logger = session.logger)
    (reported : next.journal = session.journal ++ session.entries events)
    (about : events.flatMap Event.notes = incident.notes) :
    Transcribes logger opening next (past ++ [incident]) := by
  refine ⟨sameLogger.trans transcribes.logger_eq, ?_⟩
  have grown : next.notes =
      session.notes ++ incident.notes.filter fun note => logger.accepts note.1 := by
    rw [Session.notes, reported, List.map_append, map_note_entries, about, transcribes.logger_eq]
    rfl
  rw [grown, transcribes.notes_eq]
  simp

theorem chronicle (logger : Logger) (opening : List (Level × String)) :
    Chronicle (Transcribes logger opening) where
  complete transcribes _ _ := transcribes.append rfl rfl (Machine.notes_announcement _)
  halt transcribes _ _ := transcribes.append rfl rfl (Machine.notes_announcement_stopped _ _)
  refuse transcribes :=
    ⟨transcribes.logger_eq, by simpa [Incident.notes] using transcribes.notes_eq⟩
  clearDirty transcribes := ⟨transcribes.logger_eq, transcribes.notes_eq⟩
  setTime transcribes _ := ⟨transcribes.logger_eq, transcribes.notes_eq⟩
  reset transcribes := transcribes.append (reset_logger _) (reset_journal _) rfl

theorem of_start {settings : Settings} {now : Int} (started : start settings now = .ok session) :
    Transcribes settings.logger [loadNote session.program.length] session [] := by
  rcases start_eq_ok_iff.mp started with ⟨_, _, _, _, sameLogger, _, loaded⟩
  refine ⟨sameLogger, ?_⟩
  rw [Session.notes, loaded, Event.map_note_entries]
  rfl

end Transcribes

/-- What a session has let through is what its logger accepts of all messages. -/
theorem notes_after {settings : Settings} {now : Int} {session : Session}
    (started : start settings now = .ok session) (operations : List Operation) :
    (session.after operations).notes =
      (loadNote session.program.length ::
        (session.incidents operations).flatMap Incident.notes).filter fun note =>
          settings.logger.accepts note.1 :=
  ((Transcribes.chronicle _ _).after (.of_start started) operations).notes_eq

/-- A logger of the lowest level lets every message through. The announcements among them consist
of two groups of four digits, and are alike only if address and opcode are the same. -/
theorem debug_notes_tell_every_cycle :
    (∀ (settings : Settings) (now : Int) (session : Session),
      start settings now = .ok session → settings.logger.level = .debug →
        ∀ operations, (session.after operations).notes =
          loadNote session.program.length ::
            (session.incidents operations).flatMap Incident.notes) ∧
    (∀ address opcode : UInt16, (traceLine address opcode).length = 10 ∧
      ∃ first second : List Char,
        (traceLine address opcode).toList = first ++ ':' :: ' ' :: second ∧
          first.length = 4 ∧ second.length = 4 ∧
          ∀ character ∈ first ++ second, character ∈ hexSymbols) ∧
    Function.Injective2 traceLine := by
  refine ⟨?messages, ?shape, injective2_traceLine⟩
  case messages =>
    intro settings now session started talkative operations
    have accepted (level : Level) : settings.logger.accepts level = true := by
      simp [Logger.accepts, talkative, Level.rank]
    simpa [accepted] using notes_after started operations
  case shape =>
    intro address opcode
    refine ⟨length_traceLine address opcode, _, _, toList_traceLine address opcode,
      length_natural_toNat address, length_natural_toNat opcode, ?_⟩
    intro character written
    rcases List.mem_append.mp written with first | second
    · exact mem_hexSymbols_of_mem_natural first
    · exact mem_hexSymbols_of_mem_natural second

/-- A program of one instruction and an opcode that has no meaning, with two cycles in a frame. -/
def tracing : Settings where
  program := [0x60, 0x01, 0xFF, 0xFF]
  cyclesPerFrame := 2
  logger := { standardLogger 0 with level := .debug }

theorem tracing_notes :
    ∃ session next, start tracing 0 = .ok session ∧
      session.cycle ⟨true, .none⟩ = (next, .ok ()) ∧
      (session.after [.frame .none, .cycle ⟨false, .none⟩, .reset]).notes =
        [loadNote 4, (.debug, traceLine 0x200 0x6001), (.debug, traceLine 0x202 0xFFFF),
          (.critical, "Fatal error: " ++ (Fault.invalidOpcode 0xFFFF (some 0x202)).message),
          (.critical, next.system.machine.summary), resetNote 1] := by
  have starts : ∃ session, start tracing 0 = .ok session := ⟨_, rfl⟩
  rcases starts with ⟨session, started⟩
  have sameFrames : session.cyclesPerFrame = 2 := by
    cases started
    rfl
  have loaded : session.program.length = 4 ∧ session.system.machine.pc = 0x200 ∧
      session.system.machine.fetch = .ok 0x6001 ∧ (session.cycle ⟨true, .none⟩).2 = .ok () := by
    cases started
    decide +kernel
  have reached : (session.cycle ⟨true, .none⟩).1.system.machine.pc = 0x202 ∧
      (session.cycle ⟨true, .none⟩).1.system.machine.fetch = .ok 0xFFFF ∧
      ((session.cycle ⟨true, .none⟩).1.cycle ⟨false, .none⟩).2 =
        .error (.fault (.invalidOpcode 0xFFFF (some 0x202))) ∧
      ((session.cycle ⟨true, .none⟩).1.cycle ⟨false, .none⟩).1.cyclesRun = 1 ∧
      ((session.cycle ⟨true, .none⟩).1.cycle ⟨false, .none⟩).1.fault =
        some (.invalidOpcode 0xFFFF (some 0x202)) := by
    cases started
    decide +kernel
  rcases first : session.cycle ⟨true, .none⟩ with ⟨next, result⟩
  simp only [first] at loaded reached
  rcases second : next.cycle ⟨false, .none⟩ with ⟨stopped, refusal⟩
  simp only [second] at reached
  rcases loaded with ⟨size, loadedPc, loadedOpcode, rfl⟩
  rcases reached with ⟨reachedPc, reachedOpcode, rfl, counted, fault_eq⟩
  have happened : session.incidents [.frame .none, .cycle ⟨false, .none⟩, .reset] =
      [.completed session.system.machine,
        .faulted next.system.machine (.invalidOpcode 0xFFFF (some 0x202)), .refused,
        .restarted 1] := by
    simp [incidents, performIncidents, runIncidents, incident, perform, runFrame, burst, cadence,
      List.range_succ, sameFrames, first, second, cycle_of_halted fault_eq, counted]
  have firstLine := announced_of_fetch loadedOpcode
  have secondLine := announced_of_fetch reachedOpcode
  rw [loadedPc] at firstLine
  rw [reachedPc] at secondLine
  refine ⟨session, next, started, first, ?_⟩
  rw [debug_notes_tell_every_cycle.1 _ _ _ started rfl, happened]
  simp [Incident.notes, loadedPc, firstLine, reachedPc, secondLine, size]

end Session

end Chip8
