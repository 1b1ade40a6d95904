/-!
# Grids that are written in place

Rectangles of values are made in one piece, with the same value everywhere, and then written from
left to right, row by row. Values that are meant for a place outside are lost.
-/

namespace Matryoshka.Grid

variable {β : Type}

/-- A grid with the same value at every place. -/
def blank (rows positions : Nat) (fill : β) : List (List β) :=
  List.replicate rows (List.replicate positions fill)

/-- Write a value to one place. -/
def set (grid : List (List β)) (row position : Nat) (value : β) : List (List β) :=
  grid.modify row (·.set position value)

/-- Write values side by side into one row, from a position on. -/
def write (grid : List (List β)) (row position : Nat) : List β → List (List β)
  | [] => grid
  | value :: values => write (set grid row position value) row (position + 1) values

/-- Write values side by side over others, from a position on. -/
def overwrite (cells : List β) (position : Nat) : List β → List β
  | [] => cells
  | value :: values => overwrite (cells.set position value) (position + 1) values

/-- Writing into a row leaves the other rows alone. -/
theorem write_eq_modify (grid : List (List β)) (row position : Nat) (values : List β) :
    write grid row position values = grid.modify row (overwrite · position values) := by
  induction values generalizing grid position with
  | nil => exact (List.modify_id row grid).symm
  | cons value values ih =>
    rw [write, ih, set, List.modify_modify_eq]
    rfl

/-- The row that is written next is the one behind the rows that are done. -/
theorem write_append_cons (done : List (List β)) (cells : List β) (rest : List (List β))
    (position : Nat) (values : List β) :
    write (done ++ cells :: rest) done.length position values =
      done ++ overwrite cells position values :: rest := by
  rw [write_eq_modify]
  induction done with
  | nil => rfl
  | cons first done ih => exact congrArg (first :: ·) ih

/-- Nothing is written behind the end. -/
theorem overwrite_of_length_le {cells : List β} {position : Nat} (behind : cells.length ≤ position)
    (values : List β) : overwrite cells position values = cells := by
  induction values generalizing position with
  | nil => rfl
  | cons value values ih =>
    rw [overwrite, List.set_eq_of_length_le behind]
    exact ih (Nat.le_succ_of_le behind)

/-- What was written so far stays, and the new values replace as many behind it. -/
theorem overwrite_append (front back values : List β) :
    overwrite (front ++ back) front.length values =
      front ++ (values ++ back.drop values.length).take back.length := by
  induction values generalizing front back with
  | nil => simp [overwrite]
  | cons value values ih =>
    cases back with
    | nil =>
      rw [overwrite_of_length_le (by simp)]
      simp
    | cons old back =>
      have later := ih (front ++ [value]) back
      rw [List.length_append, List.length_singleton, List.append_assoc] at later
      rw [overwrite, List.set_append_right _ _ (Nat.le_refl _), Nat.sub_self, List.set_cons_zero]
      simpa using later

/-- A blank row holds the values that were written to it, and what is left of the blank. -/
theorem overwrite_replicate (size : Nat) (fill : β) (values : List β) :
    overwrite (List.replicate size fill) 0 values =
      (values ++ List.replicate (size - values.length) fill).take size := by
  have written := overwrite_append [] (List.replicate size fill) values
  rwa [List.drop_replicate, List.length_replicate] at written

end Matryoshka.Grid
