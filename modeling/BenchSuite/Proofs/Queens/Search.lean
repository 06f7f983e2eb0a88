import Mathlib.Data.List.Lex
import BenchSuite.Proofs.Queens.Board
/-!
# The search finds the first solution

A solution from a column on gives a row to that column and to each one after it, so that the queens can be put there one
after another (`Solves`).  The search of a column answers on every board with right marks: either there is no solution
and the board is as it was, or it has put the queens of the solution that comes first when rows are compared from the
searched column on (`Answers`).  This is carried from a column to the one before it by the scan of its rows
(`finds_firstRow`), and by induction to every column (`finds_place`).
-/
namespace BenchSuite.QueensBoard

variable {b b' : QueensBoard} {column row : Nat} {rows : List Nat} {solves solves' : List Nat → Prop}
  {answer : Bool × QueensBoard}

/-- The squares of a row for a column and for each one after it. -/
def squaresFrom : Nat → List Nat → List Square
  | _, [] => []
  | column, row :: rows => ⟨row, column⟩ :: squaresFrom (column + 1) rows

/-- **A solution from a column on**: a row for it and for each later column, on which queens can be put. -/
structure Solves (b : QueensBoard) (column : Nat) (rows : List Nat) : Prop where
  length : column + rows.length = boardSize
  takes : b.Takes (squaresFrom column rows)

theorem solves_nil : b.Solves boardSize [] := ⟨rfl, takes_nil⟩

theorem solves_cons (inside : column < boardSize) : b.Solves column (row :: rows) ↔
    row < boardSize ∧ b.Open ⟨row, column⟩ ∧ (b.put ⟨row, column⟩).Solves (column + 1) rows := by
  constructor
  · rintro ⟨length, takes⟩
    obtain ⟨⟨inRow, -⟩, isOpen, takes⟩ := takes_cons.1 takes
    exact ⟨inRow, isOpen, by simp at length; omega, takes⟩
  · rintro ⟨inRow, isOpen, length, takes⟩
    exact ⟨by simp; omega, takes_cons.2 ⟨⟨inRow, inside⟩, isOpen, takes⟩⟩

/-- What a search for one of some solutions answers: none, with the board as it was, or the first of them, with its
queens on the board. -/
inductive Answers (b : QueensBoard) (column : Nat) (solves : List Nat → Prop) : Bool × QueensBoard → Prop
  | none : (∀ rows, ¬ solves rows) → Answers b column solves (false, b)
  | first {rows : List Nat} : solves rows → (∀ rows', solves rows' → rows ≤ rows') →
      Answers b column solves (true, b.putAll (squaresFrom column rows))

theorem Answers.congr (h : Answers b column solves answer) (same : ∀ rows, solves rows ↔ solves' rows) :
    Answers b column solves' answer := by
  obtain rfl : solves = solves' := funext fun rows => propext (same rows)
  exact h

/-- A search of a column and all later ones that answers on every board with right marks. -/
def Finds (column : Nat) (search : QueensBoard → Checked (Bool × QueensBoard)) : Prop :=
  ∀ b, b.Consistent → ∃ answer, search b = .ok answer ∧ Answers b column (b.Solves column) answer

theorem finds_done : Finds boardSize fun b => .ok (true, b) := fun _ _ =>
  ⟨_, rfl, .first solves_nil fun rows _ => not_lt.1 (List.not_lt_nil rows)⟩

/-! ## The scan of the rows -/

/-- The solutions whose first row is one of some rows. -/
def SolvesFrom (b : QueensBoard) (column : Nat) (candidates rows : List Nat) : Prop :=
  ∃ row ∈ candidates, ∃ more, rows = row :: more ∧ b.Solves column (row :: more)

theorem solves_iff_solvesFrom (inside : column < boardSize) :
    b.SolvesFrom column (List.range boardSize) rows ↔ b.Solves column rows := by
  constructor
  · rintro ⟨row, -, more, rfl, solves⟩
    exact solves
  · intro solves
    cases rows with
    | nil => exact absurd solves.length (Nat.ne_of_lt inside)
    | cons row more =>
      have inRow := ((solves_cons inside).1 solves).1
      exact ⟨row, List.mem_range.2 inRow, more, rfl, solves⟩

theorem solvesFrom_skip {candidates : List Nat} (none : ∀ more, ¬ b.Solves column (row :: more)) (rows : List Nat) :
    b.SolvesFrom column candidates rows ↔ b.SolvesFrom column (row :: candidates) rows := by
  constructor
  · rintro ⟨later, there, solution⟩
    exact ⟨later, List.mem_cons_of_mem row there, solution⟩
  · rintro ⟨later, there, more, rfl, solves⟩
    rcases List.mem_cons.1 there with rfl | there
    · exact absurd solves (none more)
    · exact ⟨later, there, more, rfl, solves⟩

/-- A solution that starts with the first of ascending rows comes before all that start with a later one. -/
theorem solvesFrom_least {candidates : List Nat} (below : ∀ later ∈ candidates, row < later)
    (least : ∀ more, b.Solves column (row :: more) → rows ≤ more) (rows' : List Nat)
    (solves : b.SolvesFrom column (row :: candidates) rows') : row :: rows ≤ rows' := by
  obtain ⟨later, there, more, rfl, solves⟩ := solves
  rcases List.mem_cons.1 there with rfl | there
  · exact List.cons_le_cons later (least more solves)
  · exact le_of_lt (List.Lex.rel (below later there))

theorem firstRow_open {rest : QueensBoard → Checked (Bool × QueensBoard)} {s : Square} {candidates : List Nat}
    (row : s.row < boardSize) (column : s.column < boardSize) (looked : b.isFree s.row s.column = .ok true)
    (found : rest (b.put s) = .ok answer) : firstRow s.column rest (s.row :: candidates) b =
      if answer.1 then .ok (true, answer.2) else firstRow s.column rest candidates (answer.2.lift s) := by
  obtain ⟨success, b'⟩ := answer
  rw [firstRow, looked, Checked.ok_bind, if_pos rfl, ← bind_assoc, put_eq row column, Checked.ok_bind, found,
    Checked.ok_bind]
  cases success with
  | true => rfl
  | false =>
    show (b'.mark s.row s.column true >>= fun b => b.setQueen s.row none >>= fun b => _) = _
    rw [← bind_assoc, lift_eq row column]
    rfl

theorem firstRow_answers {rest : QueensBoard → Checked (Bool × QueensBoard)} (inside : column < boardSize)
    (finds : Finds (column + 1) rest) (consistent : b.Consistent) : ∀ (candidates : List Nat),
    candidates.Pairwise (· < ·) → (∀ row ∈ candidates, row < boardSize) →
    ∃ answer, firstRow column rest candidates b = .ok answer ∧ Answers b column (b.SolvesFrom column candidates) answer
  | [], _, _ => ⟨(false, b), rfl, .none fun rows ⟨_, there, _⟩ => List.not_mem_nil there⟩
  | row :: candidates, ascending, within => by
    obtain ⟨inRow, within⟩ := List.forall_mem_cons.1 within
    obtain ⟨below, ascending⟩ := List.pairwise_cons.1 ascending
    obtain ⟨later, scanned, answers⟩ := firstRow_answers inside finds consistent candidates ascending within
    let s : Square := ⟨row, column⟩
    obtain ⟨free, looked, free_iff⟩ := isFree_eq (s := s) consistent inRow inside
    cases free with
    | false =>
      -- a row that is not free starts no solution
      have none : ∀ more, ¬ b.Solves column (row :: more) := fun more solves =>
        Bool.false_ne_true (free_iff.2 ((solves_cons inside).1 solves).2.1)
      refine ⟨later, ?_, answers.congr (solvesFrom_skip none)⟩
      rw [firstRow, looked, ← scanned]
      rfl
    | true =>
      have isOpen : b.Open s := free_iff.1 rfl
      have solves_iff : ∀ more, b.Solves column (row :: more) ↔ (b.put s).Solves (column + 1) more := fun more =>
        (solves_cons inside).trans ((and_iff_right inRow).trans (and_iff_right isOpen))
      obtain ⟨answer, found, answered⟩ := finds (b.put s) (consistent.put inRow isOpen)
      rw [firstRow_open (s := s) inRow inside looked found]
      cases answered with
      | none no =>
        -- the queen is taken away, and the scan goes on from the board that was
        refine ⟨later, ?_, answers.congr (solvesFrom_skip fun more => mt (solves_iff more).1 (no more))⟩
        rw [if_neg Bool.false_ne_true, lift_put consistent inRow inside isOpen, scanned]
      | @first rows solves least =>
        have solution : b.SolvesFrom column (row :: candidates) (row :: rows) :=
          ⟨row, List.mem_cons_self, rows, rfl, (solves_iff rows).2 solves⟩
        exact ⟨_, if_pos rfl, .first solution (solvesFrom_least below fun more h => least more ((solves_iff more).1 h))⟩

theorem finds_firstRow {rest : QueensBoard → Checked (Bool × QueensBoard)} (inside : column < boardSize)
    (finds : Finds (column + 1) rest) : Finds column (firstRow column rest (List.range boardSize)) := fun b consistent => by
  obtain ⟨answer, run, answers⟩ := firstRow_answers inside finds consistent _ List.pairwise_lt_range
    fun _ there => List.mem_range.1 there
  exact ⟨answer, run, answers.congr fun _ => solves_iff_solvesFrom inside⟩

/-! ## All columns -/

theorem finds_placeWithin : ∀ (left column : Nat), column < boardSize → boardSize ≤ left + column →
    Finds column (placeWithin left column)
  | 0, column, inside, enough => by omega
  | left + 1, column, inside, enough => by
    refine finds_firstRow inside ?_
    by_cases last : column + 1 = boardSize
    · simp only [if_pos last]
      exact last ▸ finds_done
    · simp only [if_neg last]
      exact finds_placeWithin left (column + 1) (by omega) (by omega)

/-- **The search of a column finds the first solution from it on**, or leaves the board as it was. -/
theorem finds_place (inside : column < boardSize) : Finds column (place column) :=
  finds_placeWithin (diagonals - column) column inside (by unfold diagonals; omega)

end BenchSuite.QueensBoard
