import BenchSuite.Fault
/-!
# A checksum of the Mandelbrot set

One bit for each pixel says whether its point escapes.  The bits of a row are packed eight to a byte,
first bit highest, and the bytes of all rows are folded together by exclusive or.
-/
namespace BenchSuite.Mandelbrot

/-- How long a point is followed before it counts as one that stays. -/
def maxIterations : Nat := 50

/-- Whether the orbit of a point leaves the circle of radius two, followed from the squares `zrzr` and
`zizi` of its present parts. -/
def escapesFrom (cr ci : Float) : Nat → Float → Float → Float → Bool
  | 0, _, _, _ => false
  | n + 1, zrzr, zi, zizi =>
    let zr := zrzr - zizi + cr
    let zi := 2.0 * zr * zi + ci
    let zrzr := zr * zr
    let zizi := zi * zi
    if zrzr + zizi > 4.0 then true else escapesFrom cr ci n zrzr zi zizi

/-- **Whether the point of a pixel escapes**, in an image of a given size. -/
def escapes (size row column : Nat) : Bool :=
  let scale := Float.ofNat size
  let ci := (2.0 * Float.ofNat row / scale) - 1.0
  let cr := (2.0 * Float.ofNat column / scale) - 1.5
  escapesFrom cr ci maxIterations 0.0 0.0 0.0

/-- The checksum so far, and the byte that is being filled with its number of bits. -/
structure Packer where
  sum : UInt32
  byte : UInt32
  bits : UInt32
deriving DecidableEq, Repr

namespace Packer

def empty : Packer := ⟨0, 0, 0⟩

/-- The filled byte folded into the checksum, and a new one begun. -/
def flush (p : Packer) : Packer := ⟨p.sum ^^^ p.byte, 0, 0⟩

/-- **Takes one bit.**  A byte ends when it is full, or with zeros filled in where the row ends. -/
def push (p : Packer) (bit last : Bool) : Checked Packer := do
  let byte ← Checked.addWord (← Checked.shiftWord p.byte 1) (if bit then 1 else 0)
  let bits ← Checked.addWord p.bits 1
  if bits = 8 then return flush ⟨p.sum, byte, bits⟩
  else if last then
    let left ← Checked.subWord 8 bits
    return flush ⟨p.sum, ← Checked.shiftWord byte left, bits⟩
  else return ⟨p.sum, byte, bits⟩

/-- **Takes the pixels of a row** from a column on, `left` of them. -/
def pushRow (bit : Nat → Bool) (size : Nat) : Nat → Packer → Checked Packer
  | 0, p => return p
  | left + 1, p => do
    let column := size - (left + 1)
    pushRow bit size left (← p.push (bit column) (column + 1 == size))

/-- **The checksum after each row**, `left` rows being left. -/
def rowSums (bit : Nat → Nat → Bool) (size : Nat) : Nat → Packer → Checked (List UInt32)
  | 0, _ => return []
  | left + 1, p => do
    let p ← p.pushRow (bit (size - (left + 1))) size size
    return p.sum :: (← rowSums bit size left p)

end Packer

/-- **The checksums of the rows of an image** whose escape bits are given. -/
def sums (bit : Nat → Nat → Bool) (size : Nat) : Checked (List UInt32) :=
  Packer.rowSums bit size size .empty

/-- The checksum of an image; nothing folded together is zero. -/
def checksum (sums : List UInt32) : UInt32 := sums.getLastD 0

end BenchSuite.Mandelbrot
