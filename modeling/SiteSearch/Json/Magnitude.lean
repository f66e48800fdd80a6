import SiteSearch.Text.Basic

-- How large a written number is in double precision: digits in 64 bits and one power of ten are
-- both rounded, and so is their product, which is not the same as rounding once.
namespace SiteSearch.Json

def doubleBits : Nat := 53

def nearestDouble (n : Nat) : Nat :=
  let spacing := 1 <<< (n.log2 + 1 - doubleBits)
  let below := n / spacing
  let doubled := 2 * (n % spacing)
  let up := doubled > spacing || (doubled = spacing && below % 2 = 1)
  (if up then below + 1 else below) * spacing

def doubleBound : Nat := (1 <<< 1024) - (1 <<< 970)

def largestPower : Nat := 308

structure Magnitude where
  significand : Nat
  exponent : Int

def gather (value count : Nat) : List Char → Nat × Nat
  | [] => (value, count)
  | c :: rest =>
    let longer := Text.valueOf [c] + 10 * value
    if longer < UInt64.size then gather longer (count + 1) rest else (value, count)

namespace Magnitude

-- Whole digits that do not fit count as zeros; digits of the fraction that do not are dropped.
def ofDigits (whole fraction : List Char) (exponent : Int) : Magnitude :=
  let (value, wholeCount) := gather 0 0 whole
  let (value, fractionCount) := gather value 0 fraction
  { significand := value, exponent := exponent + whole.length - wholeCount - fractionCount }

def isInfinite (magnitude : Magnitude) : Bool :=
  match magnitude.exponent with
  | .negSucc _ => false
  | .ofNat power =>
    if magnitude.significand = 0 then false
    else if power > largestPower then true
    else doubleBound ≤ nearestDouble magnitude.significand * nearestDouble (Nat.pow 10 power)

end Magnitude

end SiteSearch.Json
