import Chip8.Proofs.Execution.Effects
import Chip8.Proofs.Session.Agreement

/-!
# A reset starts over

Whatever has become of a session, its program, the key of its seed and the length of its frames are
those that it was started with, and its source gives the bytes of the same script. A reset needs
nothing else: it boots the program under the key, and rewinds the source. So it cannot fail, and
what it leaves is what a new session with the same settings would hold, down to the last answer of
every later operation. The one thing that it cannot undo is that bytes have been taken from a script
that cannot be rewound.
-/

namespace Chip8

namespace RandomSource

/-- The source before it gave its first byte. -/
def origin : RandomSource → RandomSource
  | .generator => .generator
  | .scripted script rewindable => .scripted script.rewind rewindable

/-- A rewound source gives its bytes again from the first one on. -/
def StartsOver : RandomSource → Prop
  | .generator => True
  | .scripted _ rewindable => rewindable = true

@[simp]
theorem origin_next (source : RandomSource) : source.next.origin = source.origin := by
  cases source <;> rfl

@[simp]
theorem origin_rewind (source : RandomSource) : source.rewind.origin = source.origin := by
  rcases source with _ | ⟨script, _ | _⟩ <;> rfl

@[simp]
theorem startsOver_origin (source : RandomSource) :
    source.origin.StartsOver ↔ source.StartsOver := by
  cases source <;> rfl

theorem rewind_of_startsOver {source : RandomSource} (startsOver : source.StartsOver) :
    source.rewind = source.origin := by
  cases source with
  | generator => rfl
  | scripted script rewindable =>
      cases startsOver
      rfl

theorem rewind_of_not_startsOver {source : RandomSource} (goesOn : ¬source.StartsOver) :
    source.rewind = source := by
  rcases source with _ | ⟨script, _ | _⟩
  · rfl
  · rfl
  · exact absurd rfl goesOn

end RandomSource

namespace System

/-- A completed cycle has sampled one byte or none. -/
theorem source_cases_of_cycle {system next : System} {stimulus : Stimulus}
    (completed : system.cycle stimulus = .ok next) :
    next.source = system.source ∨ next.source = system.source.next := by
  rcases exists_performs_of_cycle completed with
    ⟨opcode, instruction, performed, _, _, _, rfl⟩
  have ticked (supplied : System) : (supplied.tickIf stimulus.tick).source = supplied.source := by
    cases stimulus.tick <;> rfl
  rw [ticked]
  cases instruction with
  | random target mask => exact .inr rfl
  | _ => exact .inl rfl

end System

namespace Session

/-- A session still has what it was started with. -/
structure StartedFrom (settings : Settings) (session : Session) : Prop where
  cyclesPerFrame_eq : settings.cyclesPerFrame = session.cyclesPerFrame
  parsed : settings.program.mapM programByte = .ok session.program
  seeded : Threefry.ofSeed settings.seed = .ok session.key
  boots : ∃ machine, Machine.boot session.key session.program = .ok machine
  origin_eq : session.system.source.origin = settings.source.origin

/-- A reset succeeds, and leaves what a session that is started with some settings would hold and
what would answer like that session from then on. -/
def RestartsAs (session : Session) (settings : Settings) : Prop :=
  ∃ next, session.reset = (next, .ok ()) ∧
    ∀ now, ∃ fresh, start settings now = .ok fresh ∧ next.snapshot = fresh.snapshot ∧
      ∀ operations, next.trace operations = fresh.trace operations

namespace StartedFrom

variable {settings : Settings} {session next : Session}

theorem of_start {now : Int} (started : start settings now = .ok session) :
    session.StartedFrom settings := by
  rcases start_eq_ok_iff.mp started with
    ⟨positive, parsed, seeded, ⟨machine, loaded, same⟩, _, _, _⟩
  have sameFrames : session.cyclesPerFrame = settings.cyclesPerFrame.toNat :=
    congrArg Snapshot.cyclesPerFrame same
  have sameSource : session.system.source = settings.source :=
    congrArg (·.system.source) same
  exact ⟨by omega, parsed, seeded, ⟨machine, loaded⟩, by rw [sameSource]⟩

theorem of_same_arguments (startedFrom : session.StartedFrom settings)
    (sameFrames : next.cyclesPerFrame = session.cyclesPerFrame)
    (sameProgram : next.program = session.program) (sameKey : next.key = session.key)
    (sameOrigin : next.system.source.origin = session.system.source.origin) :
    next.StartedFrom settings where
  cyclesPerFrame_eq := sameFrames ▸ startedFrom.cyclesPerFrame_eq
  parsed := sameProgram ▸ startedFrom.parsed
  seeded := sameKey ▸ startedFrom.seeded
  boots := sameProgram ▸ sameKey ▸ startedFrom.boots
  origin_eq := sameOrigin.trans startedFrom.origin_eq

theorem complete {stimulus : Stimulus} {system : System}
    (startedFrom : session.StartedFrom settings)
    (completed : session.system.cycle stimulus = .ok system) :
    (session.complete system).StartedFrom settings := by
  refine startedFrom.of_same_arguments rfl rfl rfl ?_
  rcases System.source_cases_of_cycle completed with kept | sampled
  · exact congrArg RandomSource.origin kept
  · exact (congrArg RandomSource.origin sampled).trans (RandomSource.origin_next _)

theorem halt (startedFrom : session.StartedFrom settings) (cause : Fault) :
    (session.halt cause).StartedFrom settings :=
  startedFrom.of_same_arguments rfl rfl rfl rfl

theorem cycle (startedFrom : session.StartedFrom settings) (stimulus : Stimulus) :
    (session.cycle stimulus).1.StartedFrom settings :=
  cycle_preserves (StartedFrom settings) startedFrom (fun _ => startedFrom.complete)
    fun cause _ => startedFrom.halt cause

theorem reset_eq (startedFrom : session.StartedFrom settings) :
    ∃ machine, Machine.boot session.key session.program = .ok machine ∧
      session.reset.2 = .ok () ∧
      session.reset.1.snapshot = .booted session.program session.key session.cyclesPerFrame
        ⟨machine, session.system.source.rewind⟩ := by
  rcases startedFrom.boots with ⟨machine, loaded⟩
  refine ⟨machine, loaded, ?_, ?_⟩
  · rw [Session.reset, loaded]
  · rw [Session.reset, loaded]
    rfl

theorem reset (startedFrom : session.StartedFrom settings) :
    session.reset.1.StartedFrom settings := by
  rcases startedFrom.reset_eq with ⟨machine, _, _, same⟩
  refine startedFrom.of_same_arguments ?_ ?_ ?_ ?_
  · exact congrArg Snapshot.cyclesPerFrame same
  · exact congrArg Snapshot.program same
  · exact congrArg Snapshot.key same
  · have rewound : session.reset.1.system.source = session.system.source.rewind :=
      congrArg (·.system.source) same
    rw [rewound, RandomSource.origin_rewind]

theorem after (startedFrom : session.StartedFrom settings) (operations : List Operation) :
    (session.after operations).StartedFrom settings := by
  refine after_preserves (StartedFrom settings) ?_ ?_ ?_ ?_ startedFrom operations
  · intro session stimulus startedFrom
    exact startedFrom.cycle stimulus
  · intro session startedFrom
    exact startedFrom.of_same_arguments rfl rfl rfl rfl
  · intro session now startedFrom
    exact startedFrom.of_same_arguments rfl rfl rfl rfl
  · intro session startedFrom
    exact startedFrom.reset

theorem restartsAs (startedFrom : session.StartedFrom settings) :
    session.RestartsAs { settings with source := session.system.source.rewind } := by
  rcases startedFrom.reset_eq with ⟨machine, loaded, succeeded, same⟩
  refine ⟨session.reset.1, Prod.ext rfl succeeded, ?_⟩
  intro now
  have positive : 0 < settings.cyclesPerFrame := by
    have := session.cyclesPerFrame_pos
    have := startedFrom.cyclesPerFrame_eq
    omega
  have sameFrames : settings.cyclesPerFrame.toNat = session.cyclesPerFrame := by
    rw [startedFrom.cyclesPerFrame_eq, Int.toNat_natCast]
  rcases exists_start { settings with source := session.system.source.rewind } now
    positive startedFrom.parsed startedFrom.seeded loaded with ⟨fresh, started, freshSame⟩
  have agree : session.reset.1.snapshot = fresh.snapshot := by
    rw [same, freshSame, sameFrames]
  exact ⟨fresh, started, agree, trace_of_snapshot_eq agree⟩

end StartedFrom

/-- Whatever a host has done with a session, a reset starts it over with the settings that it was
started with. A script begins again if it can be rewound, and otherwise goes on where it is. -/
theorem restartsAs_after {settings : Settings} {now : Int} {session : Session}
    (started : start settings now = .ok session) (operations : List Operation) :
    (settings.source.StartsOver →
      (session.after operations).RestartsAs
        { settings with source := settings.source.origin }) ∧
    (¬settings.source.StartsOver →
      (session.after operations).RestartsAs
        { settings with source := (session.after operations).system.source }) := by
  have startedFrom := (StartedFrom.of_start started).after operations
  have sameKind : (session.after operations).system.source.StartsOver ↔
      settings.source.StartsOver := by
    rw [← RandomSource.startsOver_origin, startedFrom.origin_eq, RandomSource.startsOver_origin]
  constructor
  · intro startsOver
    rw [← startedFrom.origin_eq, ← RandomSource.rewind_of_startsOver (sameKind.mpr startsOver)]
    exact startedFrom.restartsAs
  · intro goesOn
    have kept := RandomSource.rewind_of_not_startsOver (mt sameKind.mp goesOn)
    have restarts := startedFrom.restartsAs
    rw [kept] at restarts
    exact restarts

/-- A program that samples a byte, writes it over its own first opcode and ends in a fault. -/
def overwriting : Settings where
  program := [0xC0, 0xFF, 0xA2, 0x00, 0xF0, 0x55]
  seed := 7
  source := .scripted ⟨[0x11, 0x22], 0, nofun⟩ true
  cyclesPerFrame := 3
  logger := standardLogger 0

theorem overwriting_restartsAs_after :
    ∃ session, start overwriting 0 = .ok session ∧ overwriting.source.StartsOver ∧
      (session.after [.frame .none, .cycle ⟨true, .none⟩, .reset, .frames .none 2]).RestartsAs
        overwriting := by
  have starts : ∃ session, start overwriting 0 = .ok session := ⟨_, rfl⟩
  have startsOver : overwriting.source.StartsOver := rfl
  rcases starts with ⟨session, started⟩
  exact ⟨session, started, startsOver, (restartsAs_after started _).1 startsOver⟩

end Session

end Chip8
