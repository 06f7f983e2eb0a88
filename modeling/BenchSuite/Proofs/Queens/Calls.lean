import Mathlib.Logic.ExistsUnique
import BenchSuite.Proofs.Queens.Search
/-!
# Boards that calls leave behind

A board is searched again and again from any column, cleared, and replaced by copies that were saved of it (`Call`).  No
such call can fault, and the marks stay right through all of them (`sound_after`).  So on every board that can be left
behind, queens of several searches on it, the marks tell where the queens are and a search that finds nothing changes
nothing (`after_marks`), and a search answers with the first solution (`place_first_solution`).
-/
namespace BenchSuite.QueensBoard

variable {b : QueensBoard} {column : Nat} {n : Nat} {free : Vector Bool n} {line : Square → Nat}
  {answer : Bool × QueensBoard}

/-- A call on a board. -/
inductive Call where
  | place (column : Fin boardSize)
  | reset
  | save
  /-- The board is replaced by one of the copies, counted from the latest, if there are so many. -/
  | restore (copy : Nat)

/-- A board and the copies that were saved of it, the latest first. -/
structure Session where
  board : QueensBoard
  copies : List QueensBoard

namespace Session

def perform (s : Session) : Call → Checked Session
  | .place column => do return { s with board := (← s.board.place column).2 }
  | .reset => return { s with board := empty }
  | .save => return { s with copies := s.board :: s.copies }
  | .restore copy => return { s with board := s.copies.getD copy s.board }

/-- The marks are right on the board and on every copy. -/
structure Sound (s : Session) : Prop where
  board : s.board.Consistent
  copies : ∀ copy ∈ s.copies, copy.Consistent

end Session

/-- **What a row of calls leaves**, from a new board. -/
def after (calls : List Call) : Checked Session := calls.foldlM Session.perform ⟨empty, []⟩

theorem Answers.consistent (h : Answers b column (b.Solves column) answer) (consistent : b.Consistent) :
    answer.2.Consistent := by
  cases h with
  | none => exact consistent
  | first solves => exact consistent.putAll solves.takes

theorem Session.Sound.perform {s : Session} (sound : s.Sound) : ∀ call : Call, ∃ s', s.perform call = .ok s' ∧ s'.Sound
  | .place column => by
    obtain ⟨answer, run, answers⟩ := finds_place column.isLt s.board sound.board
    refine ⟨{ s with board := answer.2 }, ?_, answers.consistent sound.board, sound.copies⟩
    rw [Session.perform, run]
    rfl
  | .reset => ⟨_, rfl, consistent_empty, sound.copies⟩
  | .save => ⟨_, rfl, sound.board, List.forall_mem_cons.2 ⟨sound.board, sound.copies⟩⟩
  | .restore copy => by
    refine ⟨_, rfl, ?_, sound.copies⟩
    rw [List.getD_eq_getElem?_getD]
    cases there : s.copies[copy]? with
    | none => exact sound.board
    | some b => exact sound.copies b (List.mem_of_getElem? there)

/-- **No row of calls faults, and each leaves right marks.** -/
theorem sound_after (calls : List Call) : ∃ s, after calls = .ok s ∧ s.Sound :=
  Checked.foldlM_ok (fun _ => ([] : List Unit)) (fun _ (s : Session) => s.Sound) (fun _ _ call sound => sound.perform call) calls []
    _ ⟨consistent_empty, by simp⟩

/-! ## The marks -/

theorem Marks.existsUnique (marks : b.Marks free line)
    (alone : ∀ q q', b.Stands q → b.Stands q' → line q = line q' → q = q') (k : Fin n) :
    free.get k = false ↔ ∃! q, b.Stands q ∧ line q = k := by
  refine (marks k).trans ⟨fun ⟨q, there, eq⟩ => ⟨q, ⟨there, eq⟩, fun q' h => ?_⟩, ExistsUnique.exists⟩
  exact alone q' q h.1 there (h.2.trans eq.symm)

namespace Consistent

theorem eq_of_rising (h : b.Consistent) {q q' : Square} (there : b.Stands q) (there' : b.Stands q')
    (same : q.rising = q'.rising) : q = q' := by
  by_contra ne
  exact (h.apart q q' there there' ne).rising same

theorem eq_of_falling (h : b.Consistent) {q q' : Square} (there : b.Stands q) (there' : b.Stands q')
    (same : q.falling = q'.falling) : q = q' := by
  by_contra ne
  exact (h.apart q q' there there' ne).falling ((Square.falling_eq_iff there.row_lt there'.row_lt).1 same)

theorem row_iff (h : b.Consistent) (row : Fin boardSize) :
    b.freeRows.get row = false ↔ ∃ column, b.queens.get row = some column := by
  refine (h.rows row).trans ⟨?_, fun ⟨column, eq⟩ => ⟨⟨row, column⟩, ?_, rfl⟩⟩
  · rintro ⟨q, there, eq⟩
    rw [Stands, eq] at there
    exact ⟨q.column, (Vector.getElem?_eq_some_iff.1 there).2⟩
  · exact Vector.getElem?_eq_some_iff.2 ⟨row.isLt, eq⟩

end Consistent

/-- **What the marks say, and what a search that finds nothing leaves.**  After any calls a row is marked just when it
has a queen, a diagonal just when it has exactly one, and no diagonal has two.  A search of any column faults on no such
board, and when it finds nothing every mark and every queen is as it was. -/
theorem after_marks (calls : List Call) : ∃ s, after calls = .ok s ∧
    (∀ row : Fin boardSize, s.board.freeRows.get row = false ↔ ∃ column, s.board.queens.get row = some column) ∧
    (∀ k : Fin diagonals, s.board.freeRising.get k = false ↔ ∃! q, s.board.Stands q ∧ q.rising = k) ∧
    (∀ k : Fin diagonals, s.board.freeFalling.get k = false ↔ ∃! q, s.board.Stands q ∧ q.falling = k) ∧
    (∀ q q', s.board.Stands q → s.board.Stands q' → q.rising = q'.rising ∨ q.falling = q'.falling → q = q') ∧
    ∀ column : Fin boardSize, ∃ found b, s.board.place column = .ok (found, b) ∧ (found = false → b = s.board) := by
  obtain ⟨s, run, ⟨marked, -⟩⟩ := sound_after calls
  refine ⟨s, run, marked.row_iff, marked.rising.existsUnique fun _ _ => marked.eq_of_rising,
    marked.falling.existsUnique fun _ _ => marked.eq_of_falling, ?_, fun column => ?_⟩
  · rintro q q' there there' (same | same)
    · exact marked.eq_of_rising there there' same
    · exact marked.eq_of_falling there there' same
  · obtain ⟨answer, searched, answers⟩ := finds_place column.isLt s.board marked
    refine ⟨_, _, searched, fun failed => ?_⟩
    cases answers with
    | none => rfl
    | first => cases failed

/-! ## The first solution -/

/-- **The search is complete and finds the first solution.**  On every board that calls leave behind, the search of a
column finds something just when there are rows for it and the later columns on which queens can be put beside those on
the board.  It puts queens on the first such rows, in the order of the columns, and leaves all earlier ones in place. -/
theorem place_first_solution (calls : List Call) : ∃ s, after calls = .ok s ∧ ∀ column : Fin boardSize,
    ∃ found b, s.board.place column = .ok (found, b) ∧ (found = true ↔ ∃ rows, s.board.Solves column rows) ∧
      (found = true → ∃ rows, s.board.Solves column rows ∧ (∀ rows', s.board.Solves column rows' → rows ≤ rows') ∧
        ∀ q, b.Stands q ↔ s.board.Stands q ∨ q ∈ squaresFrom column rows) := by
  obtain ⟨s, run, ⟨marked, -⟩⟩ := sound_after calls
  refine ⟨s, run, fun column => ?_⟩
  obtain ⟨answer, searched, answers⟩ := finds_place column.isLt s.board marked
  refine ⟨_, _, searched, ?_⟩
  cases answers with
  | none no => exact ⟨iff_of_false Bool.false_ne_true fun ⟨rows, solves⟩ => no rows solves, fun found => by cases found⟩
  | @first rows solves least =>
    exact ⟨iff_of_true rfl ⟨rows, solves⟩, fun _ => ⟨rows, solves, least, fun q => stands_putAll solves.takes⟩⟩

example : (empty.place 0).toOption.map (fun answer => answer.2.queens.toList) =
    some [some 0, some 6, some 4, some 7, some 1, some 3, some 5, some 2] := by
  decide +kernel

end BenchSuite.QueensBoard
