import TidyImports.Data.Value

/-!
# Order and sums of values

Values of a data file have an order and a sum only within a kind: numbers and truth values by
amount, texts and lists item by item. `Value.less?` tells whether a value stands before another that
it is not alike, and `Value.plus` puts one behind the other.
-/

namespace TidyImports.Value

/-! ## Order -/

/-- A number as a double would hold it if doubles had mantissas of any size. -/
def dyadic? : Value → Option Binary64
  | .bool b => some (.finite false (if b then 1 else 0) 0)
  | .int n => some (.finite (n < 0) n.natAbs 0)
  | .float x => some x
  | _ => none

mutual

/-- Whether a value stands before another: `none` when their kinds have no order. NaN stands before
no number and after none. -/
def less? : Value → Value → Option Bool
  | .text s, .text t => some (s < t)
  | .list xs, .list ys => lessItems? xs ys
  | v, w =>
    match v.dyadic?, w.dyadic? with
    | some x, some y => some (x.compare y == some .lt)
    | _, _ => none

/-- The first items that are not alike decide; a list that ends before that is the lesser one. -/
def lessItems? : List Value → List Value → Option Bool
  | [], ys => some !ys.isEmpty
  | _ :: _, [] => some false
  | x :: xs, y :: ys => if x.alike y then lessItems? xs ys else less? x y

end

/-! ## Sums -/

inductive SumFault where
  /-- The two kinds have no sum. -/
  | kinds
  /-- An integer is too large to be added to a double. -/
  | tooLarge
  deriving DecidableEq, Repr

def toDouble : Value → Except SumFault Binary64
  | .float x => .ok x
  | v =>
    match v.amount? with
    | none => .error .kinds
    | some n =>
      let x := Binary64.ofInt n
      if x.isFinite then .ok x else .error .tooLarge

/-- Numbers are added, texts and lists are joined. -/
def plus : Value → Value → Except SumFault Value
  | .text s, .text t => .ok (.text (s ++ t))
  | .list xs, .list ys => .ok (.list (xs ++ ys))
  | .float x, w => (toDouble w).map fun y => .float (x.add y)
  | v, .float y => (toDouble v).map fun x => .float (x.add y)
  | v, w =>
    match v.amount?, w.amount? with
    | some m, some n => .ok (.int (m + n))
    | _, _ => .error .kinds

end TidyImports.Value
