/-!
# Laying a list over a vector

`overlay` writes the elements of a list into consecutive cells of a vector. Elements that would fall
behind the last cell are dropped, so callers check the range first.
-/

namespace Chip8

variable {Cell : Type} {size : Nat}

/-- Writes a list into the cells from `start` on. -/
def overlay (cells : Vector Cell size) (start : Nat) : List Cell → Vector Cell size
  | [] => cells
  | cell :: rest => overlay (cells.setIfInBounds start cell) (start + 1) rest

/-- A cell behind the start holds the list's element for it, or what it held if there is none. -/
theorem getElem_overlay (cells : Vector Cell size) (start : Nat) (values : List Cell)
    (index : Nat) (inside : index < size) :
    (overlay cells start values)[index] =
      if start ≤ index then values[index - start]?.getD cells[index] else cells[index] := by
  induction values generalizing cells start with
  | nil => simp [overlay]
  | cons value rest ih =>
      rw [overlay, ih, Vector.getElem_setIfInBounds inside]
      by_cases reached : start ≤ index
      · by_cases first : start = index
        · subst first
          rw [if_neg (Nat.not_succ_le_self start), if_pos reached, if_pos rfl, Nat.sub_self]
          rfl
        · have later : index - start = index - (start + 1) + 1 := by omega
          rw [if_pos (by omega), if_pos reached, if_neg first, later, List.getElem?_cons_succ]
      · rw [if_neg (by omega), if_neg reached, if_neg (by omega)]

end Chip8
