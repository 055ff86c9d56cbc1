/-!
# Double precision numbers

A double is held as its exact value: a sign, a mantissa and a power of two. Arithmetic on it is
arithmetic on naturals.

* `Binary64.ofRatio` rounds a quotient to the nearest double, a tie to the even mantissa;
* `Binary64.ofDecimal` rounds `digits * 10 ^ exponent`;
* `Binary64.truncate?` drops the fraction;
* `Binary64.add` rounds the exact sum, `Binary64.compare` compares exact values.
-/

namespace TidyImports

inductive Binary64 where
  | nan
  | infinite (negative : Bool)
  | finite (negative : Bool) (mantissa : Nat) (exponent : Int)
  deriving DecidableEq, Repr

namespace Binary64

/-- The least exponent of a double; its mantissas have at most 53 bits. -/
def leastExponent : Int := -1074

def greatestExponent : Int := 971

/-- A natural number times a power of two, as a quotient of naturals. -/
def scale (n : Nat) (exponent : Int) : Nat × Nat :=
  if 0 ≤ exponent then (n * Nat.pow 2 exponent.toNat, 1) else (n, Nat.pow 2 (-exponent).toNat)

/-- The quotient rounded to the nearest natural, a tie to the even one. -/
def divideToEven (num den : Nat) : Nat :=
  let q := num / den
  let twice := 2 * (num % den)
  if twice < den then q
  else if den < twice then q + 1
  else if q % 2 = 0 then q else q + 1

/-- Zero keeps its sign at the least exponent. -/
def zero (negative : Bool) : Binary64 := .finite negative 0 leastExponent

/-- The double nearest to `num / den`; past the greatest double it is infinite. -/
def ofRatio (negative : Bool) (num den : Nat) : Binary64 :=
  if num = 0 then zero negative
  else
    let guess : Int := (num.log2 : Int) - (den.log2 : Int) - 52
    let mantissaAt (e : Int) : Nat :=
      if 0 ≤ e then divideToEven num (den * Nat.pow 2 e.toNat)
      else divideToEven (num * Nat.pow 2 (-e).toNat) den
    let floorAt (e : Int) : Nat :=
      if 0 ≤ e then num / (den * Nat.pow 2 e.toNat) else num * Nat.pow 2 (-e).toNat / den
    let e := max leastExponent (if floorAt guess < Nat.pow 2 52 then guess - 1 else guess)
    let m := mantissaAt e
    let (m, e) := if m = Nat.pow 2 53 then (Nat.pow 2 52, e + 1) else (m, e)
    if greatestExponent < e then .infinite negative else .finite negative m e

/-- The double nearest to `digits * 10 ^ exponent`; powers beyond the range of doubles are not
computed. -/
def ofDecimal (negative : Bool) (digits : Nat) (exponent : Int) : Binary64 :=
  if digits = 0 then zero negative
  else
    let magnitude : Int := ((toString digits).length : Int) + exponent
    if 320 < magnitude then .infinite negative
    else if magnitude < -340 then zero negative
    else if 0 ≤ exponent then ofRatio negative (digits * Nat.pow 10 exponent.toNat) 1
    else ofRatio negative digits (Nat.pow 10 (-exponent).toNat)

def ofInt (n : Int) : Binary64 := ofRatio (n < 0) n.natAbs 1

def isFinite : Binary64 → Bool
  | .finite .. => true
  | _ => false

/-- The number without its fraction, for a finite one. -/
def truncate? : Binary64 → Option Int
  | .finite negative m e =>
    let (num, den) := scale m e
    some (if negative then -((num / den : Nat) : Int) else ((num / den : Nat) : Int))
  | _ => none

/-- The integer that a double is, if it is one. -/
def toInt? : Binary64 → Option Int
  | .finite negative m e =>
    let (num, den) := scale m e
    if num % den = 0 then
      some (if negative then -((num / den : Nat) : Int) else ((num / den : Nat) : Int))
    else none
  | _ => none

/-- Equality of numbers: no number equals NaN, and the two zeros are equal. -/
def same : Binary64 → Binary64 → Bool
  | .nan, _ | _, .nan => false
  | .infinite a, .infinite b => a == b
  | .finite a m e, .finite b n f => (m == 0 && n == 0) || (a == b && m == n && e == f)
  | _, _ => false

def isZero : Binary64 → Bool
  | .finite _ m _ => m == 0
  | _ => false

/-- The signed amount of a mantissa at an exponent that is not above its own. -/
def amountAt (k : Int) (negative : Bool) (m : Nat) (e : Int) : Int :=
  let n : Int := m * Nat.pow 2 (e - k).toNat
  if negative then -n else n

/-- The sum of two numbers, rounded once. Opposite infinities have none, and a sum of nothing is
negative only when both parts are. -/
def add : Binary64 → Binary64 → Binary64
  | .nan, _ | _, .nan => .nan
  | .infinite a, .infinite b => if a = b then .infinite a else .nan
  | .infinite a, .finite .. => .infinite a
  | .finite .., .infinite b => .infinite b
  | .finite a m e, .finite b n f =>
    let k := min e f
    let total := amountAt k a m e + amountAt k b n f
    if total = 0 then zero (a && b && m == 0)
    else
      let (num, den) := scale total.natAbs k
      ofRatio (total < 0) num den

/-- The order of two numbers; NaN stands in no order to any. -/
def compare : Binary64 → Binary64 → Option Ordering
  | .nan, _ | _, .nan => none
  | .infinite a, .infinite b => some (Ord.compare b a)
  | .infinite a, .finite .. => some (if a then .lt else .gt)
  | .finite .., .infinite b => some (if b then .gt else .lt)
  | .finite a m e, .finite b n f =>
    let k := min e f
    some (Ord.compare (amountAt k a m e) (amountAt k b n f))

/-- Zero and the numbers below it; NaN is not among them. -/
def atMostZero : Binary64 → Bool
  | .nan => false
  | .infinite negative => negative
  | .finite negative m _ => negative || m == 0

end Binary64
end TidyImports
