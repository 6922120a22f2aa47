import Mathlib.Data.Int.Cast.Lemmas
import Mathlib.Data.List.Induction
import Mathlib.Order.Bounds.Basic
import Chip8.Proofs.Keypad.History

/-!
# What a keypad answers

A keypad keeps sixteen flags and one latest key, and what it answers follows from the whole history
of what has been done to it. A key is down if the last event that concerns it presses it. The key to
report is the one that was pressed most recently, unless it has been let go since; then it is the
lowest key that is held.

Both kinds of answer ask whether something has happened after which nothing of some sort did. Such a
question about a history is answered from its last event and the history before it, and the keypad
answers it from that event and its flags.
-/

namespace Chip8

namespace KeyEvent

/-- The event presses the key, or lets it go, alone or with all others. -/
def Concerns (key : Key) : KeyEvent → Prop
  | .press number | .release number => number = key.val
  | .releaseAll => True

/-- The event lets the key go, alone or with all others. -/
def LetsGo (key : Key) : KeyEvent → Prop
  | .press _ => False
  | .release number => number = key.val
  | .releaseAll => True

/-- The event presses a key. A number that is no key's presses none. -/
def Presses : KeyEvent → Prop
  | .press number => 0 ≤ number ∧ number < 16
  | .release _ | .releaseAll => False

/-- The event names a number that is no key's. -/
def Refused : KeyEvent → Prop
  | .press number | .release number => ¬(0 ≤ number ∧ number < 16)
  | .releaseAll => False

/-- An event has happened, and since then only quiet ones. -/
def Since (event : KeyEvent) (quiet : KeyEvent → Prop) (history : List KeyEvent) : Prop :=
  ∃ earlier later, history = earlier ++ event :: later ∧ ∀ other ∈ later, quiet other

/-- The last event that concerns the key presses it. -/
def PressedLast (key : Key) : List KeyEvent → Prop :=
  Since (.press key.val) fun event => ¬event.Concerns key

/-- No key has been pressed after this one, and it has not been let go since. -/
def PressedMostRecently (key : Key) : List KeyEvent → Prop :=
  Since (.press key.val) fun event => ¬event.Presses ∧ ¬event.LetsGo key

theorem not_since_nil (event : KeyEvent) (quiet : KeyEvent → Prop) : ¬Since event quiet [] := by
  rintro ⟨earlier, later, split, _⟩
  simp at split

theorem since_concat_iff {event last : KeyEvent} {quiet : KeyEvent → Prop}
    {history : List KeyEvent} :
    Since event quiet (history ++ [last]) ↔
      last = event ∨ quiet last ∧ Since event quiet history := by
  constructor
  · rintro ⟨earlier, later, split, quietLater⟩
    rcases later.eq_nil_or_concat with rfl | ⟨later, newest, rfl⟩
    · rcases List.append_inj' split rfl with ⟨_, same⟩
      exact .inl (List.singleton_inj.mp same)
    · rw [List.concat_eq_append] at split quietLater
      rw [← List.cons_append, ← List.append_assoc] at split
      rcases List.append_inj' split rfl with ⟨before, same⟩
      obtain rfl : last = newest := List.singleton_inj.mp same
      refine .inr ⟨quietLater last (by simp), earlier, later, before, ?_⟩
      intro other later_mem
      exact quietLater other (List.mem_append_left _ later_mem)
  · rintro (rfl | ⟨quietLast, earlier, later, rfl, quietLater⟩)
    · exact ⟨history, [], rfl, nofun⟩
    · refine ⟨earlier, later ++ [last], by simp, ?_⟩
      simpa [or_imp, forall_and] using ⟨quietLater, quietLast⟩

/-- An event is about one key, about all of them, or refused. -/
theorem exists_key_or_refused (event : KeyEvent) :
    (∃ key : Key, event = .press key.val) ∨ (∃ key : Key, event = .release key.val) ∨
      event = .releaseAll ∨ event.Refused := by
  have named (number : Int) : (∃ key : Key, number = key.val) ∨ ¬(0 ≤ number ∧ number < 16) := by
    by_cases inside : 0 ≤ number ∧ number < 16
    · exact .inl (Key.exists_of_inside inside)
    · exact .inr inside
  cases event with
  | press number =>
      rcases named number with ⟨key, rfl⟩ | outside
      · exact .inl ⟨key, rfl⟩
      · exact .inr (.inr (.inr outside))
  | release number =>
      rcases named number with ⟨key, rfl⟩ | outside
      · exact .inr (.inl ⟨key, rfl⟩)
      · exact .inr (.inr (.inr outside))
  | releaseAll => exact .inr (.inr (.inl rfl))

theorem presses_press (key : Key) : Presses (.press key.val) :=
  ⟨by omega, by omega⟩

theorem LetsGo.concerns {event : KeyEvent} {key : Key} (letsGo : event.LetsGo key) :
    event.Concerns key := by
  cases event with
  | press number => exact letsGo.elim
  | release number => exact letsGo
  | releaseAll => trivial

theorem Refused.not_concerns {event : KeyEvent} (refused : event.Refused) (key : Key) :
    ¬event.Concerns key := by
  cases event with
  | press number | release number =>
      rintro rfl
      exact refused (presses_press key)
  | releaseAll => exact refused.elim

theorem Refused.not_presses {event : KeyEvent} (refused : event.Refused) : ¬event.Presses := by
  cases event with
  | press number => exact refused
  | release number | releaseAll => exact id

theorem Refused.ne_press {event : KeyEvent} (refused : event.Refused) (key : Key) :
    event ≠ .press key.val := by
  rintro rfl
  exact refused (presses_press key)

end KeyEvent

namespace Keypad

open KeyEvent

variable {keypad : Keypad} {key : Key}

theorem isDownNumber_of_outside (keypad : Keypad) {number : Int}
    (outside : ¬(0 ≤ number ∧ number < 16)) :
    keypad.isDownNumber number = .error (.invalidKey number) := by
  rw [isDownNumber, Key.ofInteger_eq_error_iff.mpr ⟨outside, rfl⟩]
  rfl

theorem isDownNumber_key (keypad : Keypad) (key : Key) :
    keypad.isDownNumber key.val = .ok (keypad.isDown key) := by
  rw [isDownNumber, Key.ofInteger_eq_ok_iff.mpr rfl]
  rfl

theorem after_append (keypad : Keypad) (events further : List KeyEvent) :
    keypad.after (events ++ further) = (keypad.after events).after further := by
  induction events generalizing keypad with
  | nil => rfl
  | cons event rest ih => exact ih _

theorem after_press (keypad : Keypad) (key : Key) :
    keypad.after [.press key.val] = keypad.press key := by
  rw [after, respond, pressNumber, changeNumber_key]
  rfl

theorem after_release (keypad : Keypad) (key : Key) :
    keypad.after [.release key.val] = keypad.release key := by
  rw [after, respond, releaseNumber, changeNumber_key]
  rfl

theorem after_releaseAll (keypad : Keypad) : keypad.after [.releaseAll] = empty :=
  rfl

/-- A number that is no key's is refused, and the keypad is left as it was. -/
theorem respond_of_outside (keypad : Keypad) {number : Int}
    (outside : ¬(0 ≤ number ∧ number < 16)) :
    ∀ event ∈ [KeyEvent.press number, .release number],
      keypad.respond event = (keypad, .error (.invalidKey number)) := by
  intro event named
  simp only [List.mem_cons, List.not_mem_nil, or_false] at named
  rcases named with rfl | rfl
  · exact keypad.changeNumber_of_outside press outside
  · exact keypad.changeNumber_of_outside release outside

theorem after_of_refused (keypad : Keypad) {event : KeyEvent} (refused : event.Refused) :
    keypad.after [event] = keypad := by
  cases event with
  | press number | release number =>
      rw [after, keypad.respond_of_outside refused _ (by simp)]
      rfl
  | releaseAll => exact refused.elim

/-- An event makes a key down by pressing it, and leaves it down by not concerning it. -/
theorem isDown_after_singleton_iff (keypad : Keypad) (event : KeyEvent) :
    (keypad.after [event]).isDown key = true ↔
      event = .press key.val ∨ ¬event.Concerns key ∧ keypad.isDown key = true := by
  rcases event.exists_key_or_refused with ⟨other, rfl⟩ | ⟨other, rfl⟩ | rfl | refused
  · by_cases same : other = key <;>
      simp [after_press, isDown_press, Concerns, Fin.val_inj, same]
  · simp [after_release, isDown_release, Concerns, Fin.val_inj]
  · simp [after_releaseAll, Concerns]
  · simp [keypad.after_of_refused refused, refused.ne_press key, refused.not_concerns key]

/-- An event makes a key the latest by pressing it, and leaves it the latest by neither pressing any
key nor letting it go. -/
theorem latest_after_singleton_iff (keypad : Keypad) (event : KeyEvent) :
    (keypad.after [event]).latest = some key ↔
      event = .press key.val ∨
        (¬event.Presses ∧ ¬event.LetsGo key) ∧ keypad.latest = some key := by
  rcases event.exists_key_or_refused with ⟨other, rfl⟩ | ⟨other, rfl⟩ | rfl | refused
  · simp [after_press, press, presses_press other, Fin.val_inj]
  · rw [after_release, release]
    by_cases latest : keypad.latest = some other
    · simp [latest, Presses, LetsGo, Fin.val_inj]
    · have kept : keypad.latest = some key → other ≠ key := by
        rintro isLatest rfl
        exact latest isLatest
      simpa [latest, Presses, LetsGo, Fin.val_inj] using kept
  · simp [after_releaseAll, empty, LetsGo]
  · have kept : ¬event.LetsGo key := fun letsGo => refused.not_concerns key letsGo.concerns
    simp [keypad.after_of_refused refused, refused.ne_press key, refused.not_presses, kept]

theorem isDown_after_empty_iff (history : List KeyEvent) :
    (empty.after history).isDown key = true ↔ PressedLast key history := by
  induction history using List.reverseRecOn with
  | nil => simp [after, PressedLast, not_since_nil]
  | append_singleton history event ih =>
      rw [after_append, isDown_after_singleton_iff, ih, PressedLast, since_concat_iff]

theorem latest_after_empty_iff (history : List KeyEvent) :
    (empty.after history).latest = some key ↔ PressedMostRecently key history := by
  induction history using List.reverseRecOn with
  | nil => simp [after, empty, PressedMostRecently, not_since_nil]
  | append_singleton history event ih =>
      rw [after_append, latest_after_singleton_iff, ih, PressedMostRecently, since_concat_iff]

/-- A keypad that is made with some keys held is one on which they have been pressed in turn. -/
theorem ofNumbers_eq_after {numbers : List Int}
    (keys : ∀ number ∈ numbers, 0 ≤ number ∧ number < 16) :
    ofNumbers numbers = .ok (empty.after (numbers.map .press)) := by
  rw [ofNumbers]
  generalize empty = keypad
  induction numbers generalizing keypad with
  | nil => rfl
  | cons number rest ih =>
      rcases List.forall_mem_cons.mp keys with ⟨inside, restKeys⟩
      rcases Key.exists_of_inside inside with ⟨key, rfl⟩
      have pressed := keypad.changeNumber_key press key
      rw [pressAll, pressNumber, pressed, List.map_cons, after, respond, pressNumber, pressed]
      exact ih restKeys _

theorem head?_heldKeys_eq_some_iff (keypad : Keypad) :
    keypad.heldKeys.head? = some key ↔ IsLeast {held | keypad.isDown held = true} key := by
  rw [heldKeys, List.head?_filter, List.find?_eq_some_iff_getElem, IsLeast, Set.mem_ofPred_eq]
  refine and_congr_right fun isDown => ?_
  constructor
  · rintro ⟨index, inside, found, before⟩ other otherDown
    rw [List.getElem_finRange] at found
    obtain rfl := found
    by_contra below
    have up := before other.val (Nat.lt_of_not_le below)
    simp [Set.mem_ofPred_eq.mp otherDown] at up
  · intro least
    refine ⟨key.val, by simp, by simp, ?_⟩
    intro index below
    by_contra down
    rw [Bool.not_eq_true', Bool.not_eq_false, List.getElem_finRange] at down
    exact Nat.not_lt_of_le (least down) below

/-- The key to report is the latest one, and the lowest of those held if there is none. -/
theorem reported_eq_some_iff (keypad : Keypad) :
    keypad.reported = some key ↔
      keypad.latest = some key ∨
        keypad.latest = none ∧ IsLeast {held | keypad.isDown held = true} key := by
  rw [reported, Option.or_eq_some_iff, head?_heldKeys_eq_some_iff]

theorem reported_eq_none_iff (held : keypad.LatestHeld) :
    keypad.reported = none ↔ keypad.Idle := by
  rw [reported, Option.or_eq_none_iff, List.head?_eq_none_iff, heldKeys_eq_nil_iff]
  exact and_iff_right_of_imp held.latest_eq_none

theorem isDown_of_reported (held : keypad.LatestHeld) (reported : keypad.reported = some key) :
    keypad.isDown key = true := by
  rcases keypad.reported_eq_some_iff.mp reported with latest | ⟨_, least⟩
  · exact held key latest
  · exact least.1

/-- A keypad is made with some keys held, and then any events follow. A number that is no key's is
refused and changes nothing. A key is down if the last event that concerns it presses it. The key to
report is the one pressed most recently if it has not been let go since, and otherwise the lowest
that is down; so it is always one that is down, and there is none only if no key is. A keypad on
which no key is down answers like no keypad at all. -/
theorem answers_follow_history {initial : List Int}
    (keys : ∀ number ∈ initial, 0 ≤ number ∧ number < 16) (events : List KeyEvent) :
    ∃ started, ofNumbers initial = .ok started ∧
      let keypad := started.after events
      let history := initial.map .press ++ events
      (∀ number, ¬(0 ≤ number ∧ number < 16) →
        keypad.isDownNumber number = .error (.invalidKey number) ∧
          ∀ event ∈ [KeyEvent.press number, .release number],
            keypad.respond event = (keypad, .error (.invalidKey number)) ∧
              keypad.after [event] = keypad) ∧
      (∀ key : Key, ∃ down, keypad.isDownNumber key.val = .ok down ∧
        (down = true ↔ PressedLast key history)) ∧
      (∀ key, keypad.reported = some key ↔
        PressedMostRecently key history ∨
          (∀ other, ¬PressedMostRecently other history) ∧
            IsLeast {held | PressedLast held history} key) ∧
      (∀ key, keypad.reported = some key → PressedLast key history) ∧
      (keypad.reported = none ↔ ∀ key, ¬PressedLast key history) ∧
      ((∀ key, ¬PressedLast key history) →
        keypad.toInput = Input.none ∧
          ∀ number, keypad.isDownNumber number =
            (Key.ofInteger number).map Input.none.isDown) := by
  refine ⟨_, ofNumbers_eq_after keys, ?_⟩
  intro keypad history
  have reached : keypad = empty.after history := (empty.after_append _ events).symm
  have held : keypad.LatestHeld := reached ▸ LatestHeld.empty.after history
  have isDown_iff (key : Key) : keypad.isDown key = true ↔ PressedLast key history :=
    reached ▸ isDown_after_empty_iff history
  have latest_iff (key : Key) : keypad.latest = some key ↔ PressedMostRecently key history :=
    reached ▸ latest_after_empty_iff history
  have idle_iff : keypad.Idle ↔ ∀ key, ¬PressedLast key history := by
    simp only [Idle, ← isDown_iff, Bool.not_eq_true]
  clear_value keypad
  refine ⟨?_, ?_, ?_, ?_, ?_, ?_⟩
  · intro number outside
    refine ⟨keypad.isDownNumber_of_outside outside, ?_⟩
    intro event named
    have refused := keypad.respond_of_outside outside event named
    exact ⟨refused, congrArg Prod.fst refused⟩
  · intro key
    exact ⟨keypad.isDown key, keypad.isDownNumber_key key, isDown_iff key⟩
  · intro key
    simp only [reported_eq_some_iff, Option.eq_none_iff_forall_ne_some, ne_eq, latest_iff,
      isDown_iff]
  · intro key reported
    exact (isDown_iff key).mp (isDown_of_reported held reported)
  · rw [reported_eq_none_iff held, idle_iff]
  · intro idle
    have same := held.toInput_eq_none (idle_iff.mpr idle)
    refine ⟨same, fun number => ?_⟩
    rw [isDownNumber, ← same, toInput]

/-- A key beyond the last is refused, and letting the latest key go leaves two that are held, of
which the lower one is reported. -/
theorem fallback_answers :
    (∀ number ∈ [(0xC : Int), 2, 0xB], 0 ≤ number ∧ number < 16) ∧
      ∃ started, ofNumbers [0xC, 2, 0xB] = .ok started ∧
        let keypad := started.after [.press 16, .release 0xB]
        let history := [KeyEvent.press 0xC, .press 2, .press 0xB, .press 16, .release 0xB]
        keypad.respond (.press 16) = (keypad, .error (.invalidKey 16)) ∧
          keypad.after [.press 16] = keypad ∧
          (PressedLast 0xC history ∧ PressedLast 2 history ∧ ¬PressedLast 0xB history) ∧
          keypad.reported = some 2 := by
  have keys : ∀ number ∈ [(0xC : Int), 2, 0xB], 0 ≤ number ∧ number < 16 := by decide
  rcases answers_follow_history keys [.press 16, .release 0xB] with
    ⟨started, made, refused, answered, _, reportedDown, _⟩
  refine ⟨keys, started, made, ?_⟩
  have computed : (started.after [.press 16, .release 0xB]).isDownNumber 0xC = .ok true ∧
      (started.after [.press 16, .release 0xB]).isDownNumber 0xB = .ok false ∧
      (started.after [.press 16, .release 0xB]).reported = some 2 := by
    cases made
    decide
  rcases computed with ⟨high, released, low⟩
  rcases (refused 16 (by decide)).2 (.press 16) (by simp) with ⟨unpressed, unchanged⟩
  rcases answered 0xC with ⟨highDown, highAnswered, highIff⟩
  rcases answered 0xB with ⟨releasedDown, releasedAnswered, releasedIff⟩
  obtain rfl : true = highDown := Except.ok.inj (high.symm.trans highAnswered)
  obtain rfl : false = releasedDown := Except.ok.inj (released.symm.trans releasedAnswered)
  refine ⟨unpressed, unchanged, ⟨highIff.mp rfl, reportedDown 2 low, ?_⟩, low⟩
  intro pressed
  exact absurd (releasedIff.mpr pressed) Bool.false_ne_true

end Keypad

end Chip8
