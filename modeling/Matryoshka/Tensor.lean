import Matryoshka.Scalar

/-!
# Hidden states

A forward pass returns one state vector for every row and position of its
batch. `Tensor` holds them as nested lists together with the three extents, so
that an empty tensor still has a shape; the extents are facts about the lists,
not data that could disagree with them.
-/

namespace Matryoshka

/-- State vectors indexed by row and position, with the extents they have. -/
structure Tensor (α : Type) where
  /-- Number of rows. -/
  rows : Nat
  /-- Number of positions of every row. -/
  positions : Nat
  /-- Number of components of every state. -/
  width : Nat
  /-- The states of every row, in order of position. -/
  cells : List (List (List α))
  /-- There is one list of states for every row. -/
  length_cells : cells.length = rows
  /-- Every row has a state at every position. -/
  length_row : ∀ row ∈ cells, row.length = positions
  /-- Every state has all its components. -/
  length_state : ∀ row ∈ cells, ∀ state ∈ row, state.length = width

namespace Tensor

variable {α : Type}

/-- The tensor whose components are read off `values` row by row and position by
position; a component that is missing is `fill`. -/
def ofFlat (rows positions width : Nat) (values : Array α) (fill : α) : Tensor α where
  rows := rows
  positions := positions
  width := width
  cells := (List.range rows).map fun row => (List.range positions).map fun position =>
    (List.range width).map fun k => values[(row * positions + position) * width + k]?.getD fill
  length_cells := by simp
  length_row := by simp
  length_state := by simp

/-- All components, row by row and position by position. -/
def toFlat (t : Tensor α) : List α := t.cells.flatten.flatten

/-- The three extents, as they are written in messages. -/
def shape (t : Tensor α) : List Nat := [t.rows, t.positions, t.width]

end Tensor

end Matryoshka
