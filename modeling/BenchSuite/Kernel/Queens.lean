import BenchSuite.Fault
/-!
# Eight queens

One queen to a column, by depth-first search.  The board keeps three families of marks beside the
queens themselves: the rows, the rising diagonals (numbered by column plus row) and the falling ones
(column minus row plus seven).  A branch that fails is undone before the next row is tried.
-/
namespace BenchSuite

/-- Edge length of the board. -/
abbrev boardSize : Nat := 8

/-- Numbers set aside for each family of diagonals. -/
abbrev diagonals : Nat := 2 * boardSize

/-- Which rows and diagonals are free, and the column of the queen in each row. -/
structure QueensBoard where
  freeRows : Vector Bool boardSize
  freeRising : Vector Bool diagonals
  freeFalling : Vector Bool diagonals
  queens : Vector (Option Nat) boardSize
deriving DecidableEq

namespace QueensBoard

/-- The empty board. -/
def empty : QueensBoard :=
  ⟨.replicate _ true, .replicate _ true, .replicate _ true, .replicate _ none⟩

/-- **Whether a queen may stand** at a row and column: the row is looked at before the diagonals, and
a diagonal beyond the numbers set aside is a fault. -/
def isFree (b : QueensBoard) (row column : Nat) : Checked Bool := do
  if ← Checked.nth b.freeRows row then
    if ← Checked.nth b.freeRising (column + row) then
      Checked.nth b.freeFalling (column + (boardSize - 1) - row)
    else return false
  else return false

/-- Marks the row and the diagonals of a square. -/
def mark (b : QueensBoard) (row column : Nat) (free : Bool) : Checked QueensBoard := do
  let freeRows ← Checked.put b.freeRows row free
  let freeRising ← Checked.put b.freeRising (column + row) free
  let freeFalling ← Checked.put b.freeFalling (column + (boardSize - 1) - row) free
  return { b with freeRows, freeRising, freeFalling }

/-- Puts a queen on a square, or takes the one in a row away. -/
def setQueen (b : QueensBoard) (row : Nat) (queen : Option Nat) : Checked QueensBoard := do
  return { b with queens := ← Checked.put b.queens row queen }

/-- **The first row for which the rest of the search succeeds.**  A row that is not free is passed
over, and a row that fails is undone. -/
def firstRow (column : Nat) (rest : QueensBoard → Checked (Bool × QueensBoard)) :
    List Nat → QueensBoard → Checked (Bool × QueensBoard)
  | [], b => return (false, b)
  | row :: rows, b => do
    if ← b.isFree row column then
      let b ← b.setQueen row (some column)
      let b ← b.mark row column false
      let (found, b) ← rest b
      if found then return (true, b)
      else
        let b ← b.mark row column true
        let b ← b.setQueen row none
        firstRow column rest rows b
    else firstRow column rest rows b

/-- **Queens for a column and all later ones**, where `left` columns have diagonals set aside.  Past
the last of these every free row is a fault, so the search never goes deeper. -/
def placeWithin : Nat → Nat → QueensBoard → Checked (Bool × QueensBoard)
  | 0, column, b => firstRow column (fun _ => .error .outOfRange) (List.range boardSize) b
  | left + 1, column, b =>
    firstRow column
      (fun b => if column + 1 = boardSize then return (true, b) else placeWithin left (column + 1) b)
      (List.range boardSize) b

/-- **Tries to put a queen into a column and every column after it**, the rows in ascending order. -/
def place (column : Nat) (b : QueensBoard) : Checked (Bool × QueensBoard) :=
  placeWithin (diagonals - column) column b

/-- **Whether a queen for every column can be added** to a board. -/
def solve (b : QueensBoard) : Checked Bool := do return (← b.place 0).1

/-- The answer of several searches on one board together; after one that fails no more are made. -/
def solveRepeatedly (b : QueensBoard) : Nat → Checked Bool
  | 0 => return true
  | n + 1 => do if ← solveRepeatedly b n then b.solve else return false

end QueensBoard
end BenchSuite
