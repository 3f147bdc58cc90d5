/-! The fewest decimal digits that read back as the same binary number, and rounding to a fixed
number of places. A binary number is `m * 2 ^ q` for a mantissa `m` below `2 ^ 53`. -/
namespace GoldenTree.Decimal

/-- A non-negative double: `mantissa * 2 ^ exponent`. -/
structure Binary where
  mantissa : Nat
  exponent : Int
  deriving Repr, DecidableEq

-- The power of naturals is the same one whatever is imported.
attribute [local instance (2000)] instPowNat

/-- The magnitude of a finite double. -/
def Binary.ofFloat (x : Float) : Binary :=
  let bits := x.toBits.toNat
  let fraction : Nat := bits % 2 ^ (52 : Nat)
  let biased : Nat := bits / 2 ^ (52 : Nat) % 2 ^ (11 : Nat)
  if biased = 0 then ⟨fraction, -1074⟩ else ⟨2 ^ (52 : Nat) + fraction, (biased : Int) - 1075⟩

/-- A non-negative fraction. -/
structure Ratio where
  num : Nat
  den : Nat

/-- `n * 2 ^ q`. -/
def Ratio.scaled (n : Nat) (q : Int) : Ratio := ⟨n * 2 ^ q.toNat, 2 ^ (-q).toNat⟩

/-- Divided by `10 ^ e`. -/
def Ratio.shift (r : Ratio) (e : Int) : Ratio :=
  ⟨r.num * 10 ^ (-e).toNat, r.den * 10 ^ e.toNat⟩

def Ratio.floor (r : Ratio) : Nat := r.num / r.den

/-- The exponent `e` with `10 ^ e ≤ r < 10 ^ (e + 1)`, for a positive `r`. -/
def Ratio.magnitude (r : Ratio) : Int :=
  let whole := (Nat.toDigits 10 r.floor).length
  if r.floor ≠ 0 then whole - 1
  else
    let inverse := (r.den + r.num - 1) / r.num
    if inverse ≤ 1 then 0 else -((Nat.toDigits 10 (inverse - 1)).length : Int)

/-- `digits * 10 ^ exponent`. -/
structure Scientific where
  digits : Nat
  exponent : Int
  deriving Repr, DecidableEq

/-- Whether `n * 10 ^ e` rounds to `d`: it is no further from `d` than half the way to the next
double on its side, and reaches that half way only if the mantissa of `d` is even. -/
def Binary.readsBack (d : Binary) (n : Nat) (e : Int) : Bool :=
  let below := if d.mantissa = 2 ^ (52 : Nat) ∧ d.exponent ≠ -1074 then 1 else 2
  let low := (Ratio.scaled (4 * d.mantissa - below) (d.exponent - 2)).shift e
  let high := (Ratio.scaled (4 * d.mantissa + 2) (d.exponent - 2)).shift e
  if d.mantissa % 2 = 0 then low.num ≤ n * low.den && n * high.den ≤ high.num
  else low.num < n * low.den && n * high.den < high.num

/-- Of the two neighbours of `d` on the grid of step `10 ^ e`, the nearer one that reads back; the
even one if they are equally near. -/
def Binary.onGrid? (d : Binary) (e : Int) : Option Nat :=
  let value := (Ratio.scaled d.mantissa d.exponent).shift e
  let n := value.floor
  let rest := value.num - n * value.den
  let lowerNearer := 2 * rest < value.den || (2 * rest = value.den && n % 2 = 0)
  match d.readsBack n e, d.readsBack (n + 1) e with
  | true, true => some (if lowerNearer then n else n + 1)
  | true, false => some n
  | false, true => some (n + 1)
  | false, false => none

/-- The shortest decimal that reads back as `d`. -/
def Binary.shortest (d : Binary) : Scientific :=
  if d.mantissa = 0 then ⟨0, 0⟩
  else
    let top := (Ratio.scaled d.mantissa d.exponent).magnitude
    let found := (List.range 17).findSome? fun (k : Nat) =>
      (d.onGrid? (top - k)).map fun n => Scientific.mk n (top - k)
    found.getD ⟨0, 0⟩

/-- Positional notation with at least one digit on each side of the point. -/
def Scientific.render (s : Scientific) : String :=
  let digits := Nat.toDigits 10 s.digits
  if 0 ≤ s.exponent then
    String.ofList (digits ++ List.replicate s.exponent.toNat '0' ++ ['.', '0'])
  else
    let places := (-s.exponent).toNat
    let padded := List.replicate (places + 1 - digits.length) '0' ++ digits
    let cut := padded.length - places
    String.ofList (padded.take cut ++ '.' :: padded.drop cut)

/-- The nearest integer to `num / den`, the even one if two are equally near. -/
def roundDiv (num den : Nat) : Nat :=
  let n := num / den
  let rest := 2 * (num % den)
  if rest < den || (rest = den && n % 2 = 0) then n else n + 1

/-- `d` with `places` digits after the point. -/
def Binary.fixed (d : Binary) (places : Nat) : String :=
  let value := (Ratio.scaled d.mantissa d.exponent).shift (-places)
  (Scientific.mk (roundDiv value.num value.den) (-places)).render

end GoldenTree.Decimal
