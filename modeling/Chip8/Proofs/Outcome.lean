/-!
# Results that are values or errors

Where the value or the error of a composed result comes from. The steps of the machine are chains
of partial operations, and these facts take such a chain apart.
-/

namespace Chip8

namespace Outcome

variable {Problem Value Next : Type}

@[simp]
theorem map_eq_ok_iff {result : Except Problem Value} {step : Value → Next} {final : Next} :
    result.map step = .ok final ↔ ∃ value, result = .ok value ∧ step value = final := by
  cases result <;> simp [Except.map]

@[simp]
theorem map_eq_error_iff {result : Except Problem Value} {step : Value → Next}
    {problem : Problem} : result.map step = .error problem ↔ result = .error problem := by
  cases result <;> simp [Except.map]

@[simp]
theorem mapError_eq_ok_iff {Reported : Type} {result : Except Problem Value}
    {report : Problem → Reported} {value : Value} :
    result.mapError report = .ok value ↔ result = .ok value := by
  cases result with
  | error problem => exact ⟨nofun, nofun⟩
  | ok found =>
      change (Except.ok found : Except Reported Value) = .ok value ↔ _
      rw [Except.ok.injEq, Except.ok.injEq]

@[simp]
theorem bind_eq_ok_iff {result : Except Problem Value} {step : Value → Except Problem Next}
    {final : Next} :
    (result >>= step) = .ok final ↔ ∃ value, result = .ok value ∧ step value = .ok final := by
  cases result <;> simp [bind, Except.bind]

@[simp]
theorem pure_eq_ok_iff {value final : Value} :
    (pure value : Except Problem Value) = .ok final ↔ value = final := by
  simp [pure, Except.pure]

theorem map_eq_map_map {Last : Type} {result : Except Problem Value} {step : Value → Last}
    {first : Value → Next} {second : Next → Last}
    (agree : ∀ value, step value = second (first value)) :
    result.map step = (result.map first).map second := by
  cases result <;> simp [Except.map, agree]

theorem map_map_eq_map_map {Other Last : Type} {result : Except Problem Value}
    {first : Value → Next} {second : Next → Last} {third : Value → Other} {fourth : Other → Last}
    (agree : ∀ value, second (first value) = fourth (third value)) :
    (result.map first).map second = (result.map third).map fourth := by
  cases result <;> simp [Except.map, agree]

/-- A result that is no error is a value. -/
theorem exists_ok_iff {result : Except Problem Value} :
    (∃ value, result = .ok value) ↔ ∀ problem, result ≠ .error problem := by
  cases result <;> simp

end Outcome

end Chip8
