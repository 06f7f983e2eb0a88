import Mathlib.Tactic.ByContra
import BenchSuite.Kernel.Queens
/-!
# Boards and their marks

A board holds at most one queen in each row, and two queens may well stand in one column.  Its marks are right when each
family of them tells which rows or diagonals have a queen, and no two queens share one (`Consistent`).  Then the test of
a square looks at three marks and tells whether the square is apart from every queen (`isFree_eq`), a queen put there
leaves the marks right (`Consistent.put`), and taking it away again leaves the board that was (`lift_put`), although the
marks are cleared without a look at what they were.
-/
namespace BenchSuite.QueensBoard

structure Square where
  row : Nat
  column : Nat

namespace Square

def rising (s : Square) : Nat := s.column + s.row

def falling (s : Square) : Nat := s.column + (boardSize - 1) - s.row

/-- Two squares on different rows, different rising diagonals and different falling ones. -/
structure Apart (s s' : Square) : Prop where
  row : s.row ≠ s'.row
  rising : s.column + s.row ≠ s'.column + s'.row
  falling : (s.column : Int) - s.row ≠ s'.column - s'.row

theorem Apart.symm {s s' : Square} (h : s.Apart s') : s'.Apart s := ⟨h.row.symm, h.rising.symm, h.falling.symm⟩

theorem falling_eq_iff {s s' : Square} (hs : s.row < boardSize) (hs' : s'.row < boardSize) :
    s.falling = s'.falling ↔ (s.column : Int) - s.row = s'.column - s'.row := by
  unfold falling
  omega

end Square

variable {b b' : QueensBoard} {s s' q : Square} {squares : List Square} {n : Nat} {free : Vector Bool n}
  {line : Square → Nat}

def Stands (b : QueensBoard) (s : Square) : Prop := b.queens[s.row]? = some (some s.column)

theorem Stands.row_lt (h : b.Stands s) : s.row < boardSize := (Vector.getElem?_eq_some_iff.1 h).1

/-- A family of marks that tells which lines have a queen. -/
def Marks (b : QueensBoard) (free : Vector Bool n) (line : Square → Nat) : Prop :=
  ∀ k : Fin n, free.get k = false ↔ ∃ q, b.Stands q ∧ line q = k

/-- **The marks are right**, and no two queens attack each other along a row or a diagonal. -/
structure Consistent (b : QueensBoard) : Prop where
  rows : b.Marks b.freeRows Square.row
  rising : b.Marks b.freeRising Square.rising
  falling : b.Marks b.freeFalling Square.falling
  apart : ∀ q q', b.Stands q → b.Stands q' → q ≠ q' → q.Apart q'

def Open (b : QueensBoard) (s : Square) : Prop := ∀ q, b.Stands q → s.Apart q

theorem not_stands_empty (q : Square) : ¬ empty.Stands q := by
  simp [Stands, empty, Vector.getElem?_replicate]

theorem consistent_empty : empty.Consistent := by
  have marks : ∀ {n} (line : Square → Nat), empty.Marks (.replicate n true) line := fun line k => by
    simp [Vector.get, not_stands_empty]
  exact ⟨marks _, marks _, marks _, fun q _ there => absurd there (not_stands_empty q)⟩

/-! ## The test of a square -/

theorem Marks.free_iff (marks : b.Marks free line) (h : line s < n) :
    free.get ⟨line s, h⟩ = true ↔ ∀ q, b.Stands q → line s ≠ line q := by
  rw [← Bool.not_eq_false, marks, not_exists]
  exact forall_congr' fun q => ⟨fun no there eq => no ⟨there, eq.symm⟩, fun no ⟨there, eq⟩ => no there eq.symm⟩

theorem rising_lt (row : s.row < boardSize) (column : s.column < boardSize) : s.rising < diagonals := by
  unfold Square.rising diagonals
  omega

theorem falling_lt (column : s.column < boardSize) : s.falling < diagonals := by
  unfold Square.falling diagonals
  omega

theorem Consistent.open_iff (h : b.Consistent) (row : s.row < boardSize) (column : s.column < boardSize) :
    b.Open s ↔ b.freeRows.get ⟨s.row, row⟩ = true ∧ b.freeRising.get ⟨s.rising, rising_lt row column⟩ = true ∧
      b.freeFalling.get ⟨s.falling, falling_lt column⟩ = true := by
  rw [h.rows.free_iff, h.rising.free_iff, h.falling.free_iff]
  constructor
  · intro apart
    exact ⟨fun q there => (apart q there).row, fun q there => (apart q there).rising,
      fun q there => mt (Square.falling_eq_iff row there.row_lt).1 (apart q there).falling⟩
  · rintro ⟨rows, rising, falling⟩ q there
    exact ⟨rows q there, rising q there, mt (Square.falling_eq_iff row there.row_lt).2 (falling q there)⟩

/-- **The test of a square** leaves no array and tells whether the square is apart from every queen. -/
theorem isFree_eq (h : b.Consistent) (row : s.row < boardSize) (column : s.column < boardSize) :
    ∃ free, b.isFree s.row s.column = .ok free ∧ (free = true ↔ b.Open s) := by
  have rows : Checked.nth b.freeRows s.row = .ok (b.freeRows.get ⟨s.row, row⟩) := Checked.nth_eq_ok _ _
  have rising : Checked.nth b.freeRising (s.column + s.row) = .ok (b.freeRising.get ⟨s.rising, rising_lt row column⟩) :=
    Checked.nth_eq_ok _ _
  have falling : Checked.nth b.freeFalling (s.column + (boardSize - 1) - s.row) =
      .ok (b.freeFalling.get ⟨s.falling, falling_lt column⟩) := Checked.nth_eq_ok _ _
  refine ⟨b.freeRows.get ⟨s.row, row⟩ && (b.freeRising.get ⟨s.rising, rising_lt row column⟩ &&
    b.freeFalling.get ⟨s.falling, falling_lt column⟩), ?_, ?_⟩
  · rw [isFree, rows, rising, falling]
    cases b.freeRows.get ⟨s.row, row⟩ <;> cases b.freeRising.get ⟨s.rising, rising_lt row column⟩ <;> rfl
  · simp [h.open_iff row column]

/-! ## A queen put on a square and taken away -/

/-- A board with the marks of a square, and its row, set. -/
def withSquare (b : QueensBoard) (s : Square) (free : Bool) (queen : Option Nat) : QueensBoard where
  freeRows := b.freeRows.setIfInBounds s.row free
  freeRising := b.freeRising.setIfInBounds s.rising free
  freeFalling := b.freeFalling.setIfInBounds s.falling free
  queens := b.queens.setIfInBounds s.row queen

def put (b : QueensBoard) (s : Square) : QueensBoard := b.withSquare s false (some s.column)

def lift (b : QueensBoard) (s : Square) : QueensBoard := b.withSquare s true none

theorem mark_eq (row : s.row < boardSize) (column : s.column < boardSize) (mark : Bool) :
    b.mark s.row s.column mark = .ok { b with
      freeRows := b.freeRows.setIfInBounds s.row mark
      freeRising := b.freeRising.setIfInBounds s.rising mark
      freeFalling := b.freeFalling.setIfInBounds s.falling mark } := by
  have rising : Checked.put b.freeRising (s.column + s.row) mark = .ok (b.freeRising.setIfInBounds s.rising mark) :=
    Checked.put_eq_setIfInBounds _ (rising_lt row column) mark
  have falling : Checked.put b.freeFalling (s.column + (boardSize - 1) - s.row) mark =
      .ok (b.freeFalling.setIfInBounds s.falling mark) := Checked.put_eq_setIfInBounds _ (falling_lt column) mark
  rw [QueensBoard.mark, Checked.put_eq_setIfInBounds _ row, rising, falling]
  rfl

theorem setQueen_eq (row : s.row < boardSize) (queen : Option Nat) :
    b.setQueen s.row queen = .ok { b with queens := b.queens.setIfInBounds s.row queen } := by
  rw [setQueen, Checked.put_eq_setIfInBounds _ row]
  rfl

/-- **No write leaves an array** when a queen is put on a square of the board, -/
theorem put_eq (row : s.row < boardSize) (column : s.column < boardSize) :
    (b.setQueen s.row (some s.column) >>= fun b => b.mark s.row s.column false) = .ok (b.put s) := by
  rw [setQueen_eq row, Checked.ok_bind, mark_eq row column]
  rfl

/-- nor when it is taken away. -/
theorem lift_eq (row : s.row < boardSize) (column : s.column < boardSize) :
    (b.mark s.row s.column true >>= fun b => b.setQueen s.row none) = .ok (b.lift s) := by
  rw [mark_eq row column, Checked.ok_bind, setQueen_eq row]
  rfl

theorem stands_put (row : s.row < boardSize) (isOpen : b.Open s) : (b.put s).Stands q ↔ q = s ∨ b.Stands q := by
  rw [Stands, put, withSquare, Vector.getElem?_setIfInBounds]
  by_cases same : s.row = q.row
  · have away : ¬ b.Stands q := fun there => (isOpen q there).row same
    rw [if_pos same, if_pos row, or_iff_left away]
    cases s
    cases q
    simp_all [eq_comm]
  · rw [if_neg same]
    refine (or_iff_right ?_).symm
    rintro rfl
    exact same rfl

theorem open_put (row : s.row < boardSize) (isOpen : b.Open s) : (b.put s).Open s' ↔ s'.Apart s ∧ b.Open s' := by
  simp only [Open, stands_put row isOpen, forall_eq_or_imp]

theorem Marks.put (marks : b.Marks free line) (stands : ∀ q, b'.Stands q ↔ q = s ∨ b.Stands q) :
    b'.Marks (free.setIfInBounds (line s) false) line := by
  intro k
  have mark : (free.setIfInBounds (line s) false).get k = if line s = k then false else free.get k :=
    Vector.getElem_setIfInBounds k.isLt
  rw [mark]
  split
  · next eq => exact iff_of_true rfl ⟨s, (stands s).2 (.inl rfl), eq⟩
  · next ne =>
    rw [marks k]
    simp only [stands, or_and_right, exists_or, exists_eq_left, ne, false_or]

theorem Consistent.put (h : b.Consistent) (row : s.row < boardSize) (isOpen : b.Open s) : (b.put s).Consistent where
  rows := h.rows.put fun _ => stands_put row isOpen
  rising := h.rising.put fun _ => stands_put row isOpen
  falling := h.falling.put fun _ => stands_put row isOpen
  apart q q' there there' ne := by
    rcases (stands_put row isOpen).1 there with rfl | there
    · exact isOpen q' (((stands_put row isOpen).1 there').resolve_left (Ne.symm ne))
    · rcases (stands_put row isOpen).1 there' with eq | there'
      · exact eq ▸ (isOpen q there).symm
      · exact h.apart q q' there there' ne

theorem setIfInBounds_get {α : Type} {v : Vector α n} {i : Nat} {x : α} (h : i < n) (eq : v.get ⟨i, h⟩ = x) :
    v.setIfInBounds i x = v := by
  ext j hj
  rw [Vector.getElem_setIfInBounds]
  split
  · next same =>
    subst same
    exact eq.symm
  · rfl

/-- **A queen that is put on an open square and taken away leaves no trace.** -/
theorem lift_put (h : b.Consistent) (row : s.row < boardSize) (column : s.column < boardSize) (isOpen : b.Open s) :
    (b.put s).lift s = b := by
  obtain ⟨rows, rising, falling⟩ := (h.open_iff row column).1 isOpen
  have none : b.queens.get ⟨s.row, row⟩ = none := by
    by_contra some
    obtain ⟨column, eq⟩ := Option.ne_none_iff_exists'.1 some
    exact (isOpen ⟨s.row, column⟩ (Vector.getElem?_eq_some_iff.2 ⟨row, eq⟩)).row rfl
  simp only [QueensBoard.put, lift, withSquare, Vector.setIfInBounds_setIfInBounds]
  rw [setIfInBounds_get row rows, setIfInBounds_get row none, setIfInBounds_get _ rising, setIfInBounds_get _ falling]

/-! ## Several queens put one after another -/

/-- Squares that are apart from each other and from every queen. -/
structure Takes (b : QueensBoard) (squares : List Square) : Prop where
  inside : ∀ s ∈ squares, s.row < boardSize ∧ s.column < boardSize
  apart : squares.Pairwise Square.Apart
  isOpen : ∀ s ∈ squares, b.Open s

theorem takes_nil : b.Takes [] := ⟨by simp, .nil, by simp⟩

theorem takes_cons : b.Takes (s :: squares) ↔
    (s.row < boardSize ∧ s.column < boardSize) ∧ b.Open s ∧ (b.put s).Takes squares := by
  constructor
  · rintro ⟨inside, apart, isOpen⟩
    obtain ⟨here, inside⟩ := List.forall_mem_cons.1 inside
    obtain ⟨first, apart⟩ := List.pairwise_cons.1 apart
    obtain ⟨openHere, isOpen⟩ := List.forall_mem_cons.1 isOpen
    exact ⟨here, openHere, inside, apart, fun s' hs' =>
      (open_put here.1 openHere).2 ⟨(first s' hs').symm, isOpen s' hs'⟩⟩
  · rintro ⟨here, openHere, inside, apart, isOpen⟩
    have both : ∀ s' ∈ squares, s'.Apart s ∧ b.Open s' := fun s' hs' => (open_put here.1 openHere).1 (isOpen s' hs')
    exact ⟨List.forall_mem_cons.2 ⟨here, inside⟩, List.pairwise_cons.2 ⟨fun s' hs' => (both s' hs').1.symm, apart⟩,
      List.forall_mem_cons.2 ⟨openHere, fun s' hs' => (both s' hs').2⟩⟩

def putAll (b : QueensBoard) (squares : List Square) : QueensBoard := squares.foldl put b

theorem Consistent.putAll : ∀ {squares : List Square} {b : QueensBoard}, b.Consistent → b.Takes squares →
    (b.putAll squares).Consistent
  | [], _, h, _ => h
  | s :: squares, b, h, takes => by
    obtain ⟨⟨row, -⟩, isOpen, rest⟩ := takes_cons.1 takes
    exact (h.put row isOpen).putAll rest

theorem stands_putAll : ∀ {squares : List Square} {b : QueensBoard}, b.Takes squares →
    ((b.putAll squares).Stands q ↔ b.Stands q ∨ q ∈ squares)
  | [], _, _ => by simp [putAll]
  | s :: squares, b, takes => by
    obtain ⟨⟨row, -⟩, isOpen, rest⟩ := takes_cons.1 takes
    rw [putAll, List.foldl_cons]
    refine (stands_putAll rest).trans ?_
    rw [stands_put row isOpen, List.mem_cons, or_assoc, or_left_comm]

end BenchSuite.QueensBoard
