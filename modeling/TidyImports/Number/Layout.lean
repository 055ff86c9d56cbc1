import TidyImports.Number.Shortest

/-!
# Written numbers

`Layout.write` lays digits out, positionally or with an exponent. Two layouts are used:
`Layout.full` for values, with the fewest digits that read back, and `Layout.general` for
durations, with six digits.
-/

namespace TidyImports

/-- The decisions that a written number leaves open. -/
structure Layout where
  /-- The least and the greatest power of ten of a first digit that is written positionally. -/
  least : Int
  greatest : Int
  /-- Whether a number without a fraction ends in a point and a zero. -/
  pointed : Bool

namespace Layout

/-- Positional from `1e-4` up to, not including, `1e16`. -/
def full : Layout := ⟨-4, 15, true⟩

/-- Positional from `1e-4` up to, not including, `1e6`. -/
def general : Layout := ⟨-4, 5, false⟩

def positional (pointed : Bool) (digits : List Char) (lead : Int) : List Char :=
  if lead < 0 then
    '0' :: '.' :: List.replicate (-lead - 1).toNat '0' ++ digits
  else
    let whole := lead.toNat + 1
    if digits.length ≤ whole then
      digits ++ List.replicate (whole - digits.length) '0' ++ (if pointed then ['.', '0'] else [])
    else digits.take whole ++ '.' :: digits.drop whole

/-- The exponent has a sign and at least two digits. -/
def scientific (digits : List Char) (lead : Int) : List Char :=
  let power := (toString lead.natAbs).toList
  let head :=
    match digits with
    | [] => []
    | [d] => [d]
    | d :: rest => d :: '.' :: rest
  head ++ 'e' :: (if lead < 0 then '-' else '+') ::
    (if power.length < 2 then '0' :: power else power)

def write (layout : Layout) (negative : Bool) (d : Decimal) : String :=
  let digits := (toString d.digits).toList
  let lead := d.lead
  let body :=
    if layout.least ≤ lead ∧ lead ≤ layout.greatest then positional layout.pointed digits lead
    else scientific digits lead
  String.ofList (if negative then '-' :: body else body)

end Layout

namespace Binary64

/-- Lays a double out with the digits that `digits` chooses for its mantissa and exponent. -/
def writeWith (layout : Layout) (digits : Nat → Int → Decimal) : Binary64 → String
  | .nan => "nan"
  | .infinite negative => if negative then "-inf" else "inf"
  | .finite negative 0 _ => layout.write negative ⟨0, 0⟩
  | .finite negative m e => layout.write negative (digits m e)

/-- The fewest digits that read back. -/
def written (x : Binary64) : String := x.writeWith .full Decimal.shortest

/-- Six digits. -/
def brief (x : Binary64) : String := x.writeWith .general (Decimal.rounded 6)

end Binary64
end TidyImports
