import TidyImports.Number.Binary64

/-!
# Shortest digits

`Decimal.shortest` finds the fewest decimal digits that read back as the same double: the reals
that round to it form an interval, and on the grids of one, two, … seventeen digits the two
neighbours of its value are tried in exact arithmetic. `Decimal.rounded` gives a fixed count of
digits, a tie to the even digit.
-/

namespace TidyImports

/-- The number `digits * 10 ^ exponent`. -/
structure Decimal where
  digits : Nat
  exponent : Int
  deriving DecidableEq, Repr

namespace Decimal

/-! ## Grids -/

/-- How often `num / den` holds `10 ^ exponent`, with the remainder as a quotient. -/
def onGrid (num den : Nat) (exponent : Int) : Nat × Nat :=
  if 0 ≤ exponent then (num, den * Nat.pow 10 exponent.toNat)
  else (num * Nat.pow 10 (-exponent).toNat, den)

/-- The power of ten of the first digit of `num / den`, from a guess by bit lengths. -/
def leadingPower (num den : Nat) : Int :=
  let bits : Int := (num.log2 : Int) - (den.log2 : Int)
  let guess := bits * 30103 / 100000 + 2
  let reaches (k : Int) : Bool := let (n, d) := onGrid num den k; d ≤ n
  ((List.range 6).map fun (i : Nat) => guess - (i : Int)).find? reaches |>.getD (guess - 6)

/-- Drops zeros at the end of the digits. -/
def trim (fuel : Nat) (d : Decimal) : Decimal :=
  match fuel with
  | 0 => d
  | fuel + 1 =>
    if d.digits ≠ 0 ∧ d.digits % 10 = 0 then trim fuel ⟨d.digits / 10, d.exponent + 1⟩ else d

/-! ## Shortest -/

/-- The reals that round to `mantissa * 2 ^ exponent`: their ends as multiples of a quarter of
the unit in the last place, and whether the ends belong to them. -/
structure Interval where
  low : Nat
  value : Nat
  high : Nat
  closed : Bool

def Interval.around (mantissa : Nat) (exponent : Int) : Interval :=
  let low :=
    if mantissa = Nat.pow 2 52 ∧ Binary64.leastExponent < exponent then 4 * mantissa - 1
    else 4 * mantissa - 2
  ⟨low, 4 * mantissa, 4 * mantissa + 2, mantissa % 2 = 0⟩

/-- The best number with the grid `10 ^ power` in the interval, if the grid meets it. -/
def nearestIn (i : Interval) (exponent power : Int) : Option Nat :=
  let (unit, den) := Binary64.scale 1 (exponent - 2)
  let (n, d) := onGrid (i.value * unit) den power
  let below := n / d
  let inside (k : Nat) : Bool :=
    let (ln, ld) := onGrid (i.low * unit) den power
    let (hn, hd) := onGrid (i.high * unit) den power
    if i.closed then ln ≤ k * ld && k * hd ≤ hn else ln < k * ld && k * hd < hn
  let candidates := [below, below + 1].filter inside
  match candidates with
  | [] => none
  | [k] => some k
  | _ =>
    let twice := 2 * (n % d)
    if twice < d then some below
    else if d < twice then some (below + 1)
    else if below % 2 = 0 then some below else some (below + 1)

/-- The shortest digits of `mantissa * 2 ^ exponent`, which is not zero. -/
def shortest (mantissa : Nat) (exponent : Int) : Decimal :=
  let interval := Interval.around mantissa exponent
  let (num, den) := Binary64.scale mantissa exponent
  let lead := leadingPower num den
  let tries := (List.range 17).map fun (count : Nat) => lead - (count : Int)
  let found := tries.findSome? fun power =>
    (nearestIn interval exponent power).map fun k => (⟨k, power⟩ : Decimal)
  (found.getD ⟨mantissa, exponent⟩).trim 20

/-! ## A fixed count of digits -/

/-- The value of `mantissa * 2 ^ exponent`, which is not zero, with `count` digits. -/
def rounded (count mantissa : Nat) (exponent : Int) : Decimal :=
  let (num, den) := Binary64.scale mantissa exponent
  let power := leadingPower num den - ((count : Int) - 1)
  let (n, d) := onGrid num den power
  (⟨Binary64.divideToEven n d, power⟩ : Decimal).trim (count + 1)

/-- The power of ten of the first digit. -/
def lead (d : Decimal) : Int := d.exponent + ((toString d.digits).length : Int) - 1

end Decimal
end TidyImports
