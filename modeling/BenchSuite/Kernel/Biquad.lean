/-!
# A second-order filter

A low-pass filter in direct form two, in single precision.  Its golden output was written down with
six decimals, so it is compared within a tolerance and not bit by bit.
-/
namespace BenchSuite.Biquad

/-- The five weights of the filter. -/
structure Coefficients where
  b0 : Float32
  b1 : Float32
  b2 : Float32
  a1 : Float32
  a2 : Float32

/-- The two values that the filter remembers, the newer first. -/
structure Delay where
  newer : Float32
  older : Float32

def Delay.zero : Delay := ⟨0, 0⟩

/-- **One sample**: the output, and what is remembered next. -/
def Coefficients.step (c : Coefficients) (w : Delay) (x : Float32) : Float32 × Delay :=
  let d := x - c.a1 * w.newer - c.a2 * w.older
  (c.b0 * d + c.b1 * w.newer + c.b2 * w.older, ⟨d, w.newer⟩)

/-- **The filtered samples**, and what is remembered after them. -/
def Coefficients.filter (c : Coefficients) : List Float32 → Delay → List Float32 × Delay
  | [], w => ([], w)
  | x :: rest, w =>
    let (y, w) := c.step w x
    let (ys, w) := filter c rest w
    (y :: ys, w)

/-- The low-pass filter of the suite. -/
def lowPass : Coefficients :=
  ⟨Float32.ofBits 0x3d97255b, Float32.ofBits 0x3e17255b, Float32.ofBits 0x3d97255b, Float32.ofBits 0xbfa010ec,
   Float32.ofBits 0x3f0bb486⟩

/-- A raw byte as an input sample: amplified in double precision, then narrowed. -/
def amplify (b : UInt8) : Float32 := (b.toFloat * 2.15).toFloat32

/-- The greatest deviation, not included, that still counts as equal. -/
def tolerance : Float32 := Float32.ofBits 0x3a03126f

/-- **Whether samples are near a reference** of the same length; a NaN is near nothing. -/
def near (reference samples : List Float32) : Bool :=
  samples.length == reference.length
    && (samples.zip reference).all fun (s, r) => (s - r).abs < tolerance

end BenchSuite.Biquad
