import GoldenTree.Decimal.Shortest

/-! Durations in reports. They are counted in microseconds and shown in milliseconds. -/
namespace GoldenTree.Report

/-- How long something took; a hidden duration leaves reports the same from run to run. -/
inductive Duration where
  | hidden
  | micros (n : Nat)
  deriving Repr, DecidableEq

/-- The double nearest to what seconds and nanoseconds add up to, in milliseconds. -/
def milliseconds (micros : Nat) : Float :=
  let seconds := Float.ofNat (micros / 1000000)
  let nanoseconds := Float.ofNat (micros % 1000000 * 1000)
  (seconds + nanoseconds / Float.ofNat 1000000000) * Float.ofNat 1000

namespace Duration

/-- With three places, for a reader. -/
def render : Duration → String
  | hidden => "*ms"
  | micros n => (Decimal.Binary.ofFloat (milliseconds n)).fixed 3 ++ "ms"

/-- With all its digits, for a program. -/
def number? : Duration → Option String
  | hidden => none
  | micros n => some (Decimal.Binary.ofFloat (milliseconds n)).shortest.render

end Duration

end GoldenTree.Report
