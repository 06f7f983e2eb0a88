/-!
# CRC-32

The reflected checksum, one table look-up for each byte.  The table holds, for each byte, the register
after its eight bits have been taken in one at a time.
-/
namespace BenchSuite.Crc

/-- The usual generator polynomial, its bits reversed. -/
def polynomial : UInt32 := 0xedb88320

/-- One bit of a byte taken into the register; the byte moves on to its next bit. -/
def absorbBit (poly : UInt32) (state : UInt32 × UInt32) : UInt32 × UInt32 :=
  let (byte, crc) := state
  (byte >>> 1, if (byte ^^^ crc) &&& 1 ≠ 0 then (crc >>> 1) ^^^ poly else crc >>> 1)

/-- A function applied a number of times. -/
def iterate (f : α → α) : Nat → α → α
  | 0, x => x
  | n + 1, x => iterate f n (f x)

/-- **The table entry of a byte**: the register after its eight bits, from an empty register. -/
def entry (poly byte : UInt32) : UInt32 := (iterate (absorbBit poly) 8 (byte, 0)).2

/-- A look-up table: one entry for each byte. -/
abbrev Table := Vector UInt32 256

/-- **The table of a polynomial.** -/
def table (poly : UInt32) : Table := Vector.ofFn fun i => entry poly (UInt32.ofNat i.val)

theorem low_byte_lt (x : UInt32) : (x &&& 0xff).toNat < 256 := by
  have := Nat.and_le_right (n := x.toNat) (m := 255)
  have e : (x &&& 0xff).toNat = x.toNat &&& 255 := UInt32.toNat_and ..
  omega

/-- **One byte taken into the register**: the entry of what its low byte becomes, onto the rest. -/
def absorb (t : Table) (crc : UInt32) (b : UInt8) : UInt32 :=
  t.get ⟨((b.toUInt32 ^^^ crc) &&& 0xff).toNat, low_byte_lt _⟩ ^^^ (crc >>> 8)

/-- **The checksum of a message**: the register starts full of ones and is complemented at the end. -/
def checksum (t : Table) (bytes : List UInt8) : UInt32 := ~~~bytes.foldl (absorb t) 0xffffffff

end BenchSuite.Crc
