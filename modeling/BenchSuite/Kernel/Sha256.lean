import BenchSuite.Fault
/-!
# SHA-256

The streaming digest of FIPS 180-4.  Bytes are collected into a block of 64, and every full block goes
into a state.  The state of a digest is eight registers, into which a block is compressed; that of
`blocksOf` is the list of the blocks themselves.
-/
namespace BenchSuite.Sha256

/-- Where the message length stands in the last block. -/
abbrev lengthOffset : Nat := 56

abbrev Registers := Vector UInt32 8

/-- The 64 bytes that are compressed together. -/
abbrev Block := Vector UInt8 64

/-- The registers before any block. -/
def initialRegisters : Registers :=
  #v[0x6a09e667, 0xbb67ae85, 0x3c6ef372, 0xa54ff53a, 0x510e527f, 0x9b05688c, 0x1f83d9ab, 0x5be0cd19]

/-- One constant for each round. -/
def roundConstants : Vector UInt32 64 := #v[
  0x428a2f98, 0x71374491, 0xb5c0fbcf, 0xe9b5dba5, 0x3956c25b, 0x59f111f1, 0x923f82a4, 0xab1c5ed5,
  0xd807aa98, 0x12835b01, 0x243185be, 0x550c7dc3, 0x72be5d74, 0x80deb1fe, 0x9bdc06a7, 0xc19bf174,
  0xe49b69c1, 0xefbe4786, 0x0fc19dc6, 0x240ca1cc, 0x2de92c6f, 0x4a7484aa, 0x5cb0a9dc, 0x76f988da,
  0x983e5152, 0xa831c66d, 0xb00327c8, 0xbf597fc7, 0xc6e00bf3, 0xd5a79147, 0x06ca6351, 0x14292967,
  0x27b70a85, 0x2e1b2138, 0x4d2c6dfc, 0x53380d13, 0x650a7354, 0x766a0abb, 0x81c2c92e, 0x92722c85,
  0xa2bfe8a1, 0xa81a664b, 0xc24b8b70, 0xc76c51a3, 0xd192e819, 0xd6990624, 0xf40e3585, 0x106aa070,
  0x19a4c116, 0x1e376c08, 0x2748774c, 0x34b0bcb5, 0x391c0cb3, 0x4ed8aa4a, 0x5b9cca4f, 0x682e6ff3,
  0x748f82ee, 0x78a5636f, 0x84c87814, 0x8cc70208, 0x90befffa, 0xa4506ceb, 0xbef9a3f7, 0xc67178f2]

def rotateRight (x : UInt32) (n : UInt32) : UInt32 := (x >>> n) ||| (x <<< (32 - n))

/-- Takes each bit from `y` where `x` has a one and from `z` elsewhere. -/
def choose (x y z : UInt32) : UInt32 := z ^^^ (x &&& (y ^^^ z))

/-- Takes each bit as most of the three words have it. -/
def majority (x y z : UInt32) : UInt32 := ((x ||| y) &&& z) ||| (x &&& y)

def bigSigma0 (x : UInt32) : UInt32 := rotateRight x 2 ^^^ rotateRight x 13 ^^^ rotateRight x 22

def bigSigma1 (x : UInt32) : UInt32 := rotateRight x 6 ^^^ rotateRight x 11 ^^^ rotateRight x 25

def smallSigma0 (x : UInt32) : UInt32 := rotateRight x 7 ^^^ rotateRight x 18 ^^^ (x >>> 3)

def smallSigma1 (x : UInt32) : UInt32 := rotateRight x 17 ^^^ rotateRight x 19 ^^^ (x >>> 10)

/-- Four bytes as one word, the first highest. -/
def wordOfBytes (a b c d : UInt8) : UInt32 :=
  (a.toUInt32 <<< 24) ||| (b.toUInt32 <<< 16) ||| (c.toUInt32 <<< 8) ||| d.toUInt32

/-- The word of a block that starts at byte `4 * i`. -/
def blockWord (block : Block) (i : Nat) (h : i < 16) : UInt32 :=
  wordOfBytes block[4 * i] block[4 * i + 1] block[4 * i + 2] block[4 * i + 3]

/-- **The first words of the message schedule**: the words of the block, and after them each from
four earlier ones. -/
def scheduleUpTo (block : Block) : (n : Nat) → Vector UInt32 n
  | 0 => #v[]
  | n + 1 =>
    let w := scheduleUpTo block n
    w.push (if h : n < 16 then blockWord block n h
      else smallSigma1 w[n - 2] + w[n - 7] + smallSigma0 w[n - 15] + w[n - 16])

/-- **One round**: the registers move on by one place, and two of them take in new sums. -/
def round (r : Registers) (k w : UInt32) : Registers :=
  let t1 := r[7] + bigSigma1 r[4] + choose r[4] r[5] r[6] + k + w
  let t2 := bigSigma0 r[0] + majority r[0] r[1] r[2]
  #v[t1 + t2, r[0], r[1], r[2], r[3] + t1, r[4], r[5], r[6]]

/-- All rounds, with the schedule given. -/
def rounds (r : Registers) (w : Vector UInt32 64) : Registers :=
  (roundConstants.zip w).foldl (fun r (k, w) => round r k w) r

/-- **One block compressed into the registers.** -/
def compress (r : Registers) (block : Block) : Registers :=
  r.zipWith (· + ·) (rounds r (scheduleUpTo block 64))

/-- The eight bytes of a number, the highest first. -/
def lengthByte (n : UInt64) (i : Nat) : UInt8 := (n >>> UInt64.ofNat (8 * (7 - i))).toUInt8

/-- The last eight bytes of a block replaced by a length. -/
def putLength (block : Block) (bits : UInt64) : Block :=
  Vector.ofFn fun i =>
    if i.val < lengthOffset then block[i] else lengthByte bits (i.val - lengthOffset)

/-- Bytes on their way: the block being filled, and what the full ones came to. -/
structure Intake (σ : Type) where
  block : Block
  /-- The bytes of the block that are taken. -/
  used : Nat
  /-- Bits in the full blocks so far, modulo `2 ^ 64`. -/
  bits : UInt64
  state : σ
deriving DecidableEq

namespace Intake

/-- No bytes yet. -/
def start (state : σ) : Intake σ := ⟨.replicate _ 0, 0, 0, state⟩

/-- **Takes one byte**; a block that is full goes into the state. -/
@[specialize] def absorb (step : σ → Block → σ) (s : Intake σ) (b : UInt8) :
    Checked (Intake σ) := do
  let ⟨block, used, bits, state⟩ := s
  let block ← Checked.put block used b
  if used + 1 = 64 then return ⟨block, 0, bits + 512, step state block⟩
  else return ⟨block, used + 1, bits, state⟩

/-- **Takes bytes** one after the other. -/
@[specialize] def take (step : σ → Block → σ) (s : Intake σ) (bytes : List UInt8) :
    Checked (Intake σ) :=
  bytes.foldlM (absorb step) s

/-- **The blocks that end a message**: a one bit, zeros, and the length in bits.  Where the length does
not fit behind the bytes taken, a block of zeros takes it. -/
def lastBlocks (s : Intake σ) : Checked (List Block) := do
  let marked ← Checked.put s.block s.used 0x80
  let bits := s.bits + UInt64.ofNat (8 * s.used)
  if s.used < lengthOffset then
    return [putLength (← Checked.fill marked (s.used + 1) lengthOffset 0) bits]
  else
    let first ← Checked.fill marked (s.used + 1) 64 0
    return [first, putLength (← Checked.fill first 0 lengthOffset 0) bits]

/-- **The state after the last blocks.** -/
@[specialize] def finish (step : σ → Block → σ) (s : Intake σ) : Checked σ := do
  return (← s.lastBlocks).foldl step s.state

end Intake

/-- **The blocks that a message is cut into**, those of its padding included. -/
def blocksOf (bytes : List UInt8) : Checked (List Block) := do
  let keep (blocks : List Block) (block : Block) := blocks ++ [block]
  (← (Intake.start []).take keep bytes).finish keep

/-- A digest on its way. -/
abbrev DigestState := Intake Registers

namespace DigestState

/-- A digest of nothing yet. -/
def fresh : DigestState := .start initialRegisters

/-- **Takes bytes**, compressing every full block. -/
def update (s : DigestState) (bytes : List UInt8) : Checked DigestState := s.take compress bytes

/-- The bytes of the registers, each word from its highest byte. -/
def bytesOfRegisters (r : Registers) : Vector UInt8 32 :=
  Vector.ofFn fun i => (r[i.val / 4] >>> UInt32.ofNat (8 * (3 - i.val % 4))).toUInt8

/-- **The digest of all bytes taken so far.** -/
def finalize (s : DigestState) : Checked (Vector UInt8 32) :=
  return bytesOfRegisters (← s.finish compress)

end DigestState

/-- **The digest of a message.** -/
def digest (bytes : List UInt8) : Checked (Vector UInt8 32) := do
  (← DigestState.fresh.update bytes).finalize

end BenchSuite.Sha256
