import TidyImports.Number.Layout
import TidyImports.Number.Read
import TidyImports.Data.Moment

/-!
# Values of data files

Linter reports, notebooks and configuration files hold values of any kind where one kind is
expected, and such a value may travel through unchanged. `Value` is all of them; a table keeps its
entries in insertion order.

* `Value.truthy` decides what counts as set;
* `Value.same` is equality of values: numbers and truth values compare by amount, tables without
  regard to order; `Value.alike` differs from it in NaN only;
* `Value.obstacle?` is the first part that keeps a value from being written as JSON.
-/

namespace TidyImports

inductive Value where
  | null
  | bool (b : Bool)
  | int (n : Int)
  | float (x : Binary64)
  | text (s : String)
  | list (items : List Value)
  | table (entries : List (String × Value))
  | moment (m : Moment)
  deriving Repr, Inhabited

abbrev Table := List (String × Value)

/-! ## Tables -/

namespace Table

def get? (t : Table) (key : String) : Option Value := t.lookup key

def has (t : Table) (key : String) : Bool := (t.get? key).isSome

/-- Sets a key; one that is present keeps its place. -/
def put : Table → String → Value → Table
  | [], key, v => [(key, v)]
  | (k, w) :: rest, key, v => if k = key then (k, v) :: rest else (k, w) :: put rest key v

def keys (t : Table) : List String := t.map (·.1)

theorem keys_put_of_mem {t : Table} {key : String} (v : Value) (h : key ∈ t.keys) :
    (t.put key v).keys = t.keys := by
  induction t with
  | nil => simp [keys] at h
  | cons e rest ih =>
    obtain ⟨k, w⟩ := e
    by_cases hk : k = key
    · simp [put, hk, keys]
    · have hm : key ∈ keys rest := by
        simp [keys] at h
        rcases h with h | h
        · exact absurd h.symm hk
        · simpa [keys] using h
      have := ih hm
      simp only [put, hk, ↓reduceIte]
      simpa [keys] using this

theorem keys_put_of_notMem {t : Table} {key : String} (v : Value) (h : key ∉ t.keys) :
    (t.put key v).keys = t.keys ++ [key] := by
  induction t with
  | nil => simp [put, keys]
  | cons e rest ih =>
    obtain ⟨k, w⟩ := e
    have hk : k ≠ key := fun e => h (by simp [keys, e])
    have hm : key ∉ keys rest := fun m => h (by simp [keys] at m ⊢; exact Or.inr m)
    have := ih hm
    simp only [put, hk, ↓reduceIte]
    simpa [keys] using this

end Table

namespace Value

/-! ## Truth -/

def truthy : Value → Bool
  | .null => false
  | .bool b => b
  | .int n => n != 0
  | .float x => !x.isZero
  | .text s => !s.isEmpty
  | .list items => !items.isEmpty
  | .table entries => !entries.isEmpty
  | .moment _ => true

def isNull : Value → Bool
  | .null => true
  | _ => false

/-! ## Equality -/

/-- The integer that a truth value, an integer or a whole double stands for. -/
def amount? : Value → Option Int
  | .bool b => some (if b then 1 else 0)
  | .int n => some n
  | .float x => x.toInt?
  | _ => none

def sameScalar : Value → Value → Bool
  | .null, .null => true
  | .text s, .text t => s == t
  | .moment m, .moment n => m == n
  | .float x, .float y => x.same y
  | v, w =>
    match v.amount?, w.amount? with
    | some m, some n => m == n
    | _, _ => false

mutual

/-- Equality of values, given the equality of those that are neither lists nor tables. -/
def sameBy (eq : Value → Value → Bool) : Value → Value → Bool
  | .list xs, .list ys => sameItemsBy eq xs ys
  | .table xs, .table ys => xs.length == ys.length && sameEntriesBy eq xs ys
  | .list _, _ | .table _, _ => false
  | v, w => eq v w

def sameItemsBy (eq : Value → Value → Bool) : List Value → List Value → Bool
  | [], [] => true
  | x :: xs, y :: ys => sameBy eq x y && sameItemsBy eq xs ys
  | _, _ => false

/-- Every entry has its equal under the same key of the other table. -/
def sameEntriesBy (eq : Value → Value → Bool) :
    List (String × Value) → List (String × Value) → Bool
  | [], _ => true
  | (k, v) :: xs, ys =>
    (match ys.lookup k with
      | some w => sameBy eq v w
      | none => false) && sameEntriesBy eq xs ys

end

def same (v w : Value) : Bool := sameBy sameScalar v w

def sameItems (xs ys : List Value) : Bool := sameItemsBy sameScalar xs ys

def isNaN : Value → Bool
  | .float .nan => true
  | _ => false

/-- Equality of values in which every NaN is one and the same item, and so is equal to itself. -/
def alike (v w : Value) : Bool := sameBy (fun v w => v.isNaN && w.isNaN || sameScalar v w) v w

/-! ## Parts -/

/-- The items that a value yields one after the other: of a list its items, of a text its
characters, of a table its keys. -/
def items? : Value → Option (List Value)
  | .list items => some items
  | .text s => some (s.toList.map fun c => .text (String.ofList [c]))
  | .table entries => some (entries.map fun e => .text e.1)
  | _ => none

mutual

/-- Whether some integer in a value has more digits than may be written. -/
def tooLong : Value → Bool
  | .int n => Numeral.tooManyDigits n
  | .list items => anyTooLong items
  | .table entries => anyTooLongEntry entries
  | _ => false

def anyTooLong : List Value → Bool
  | [] => false
  | v :: rest => tooLong v || anyTooLong rest

def anyTooLongEntry : List (String × Value) → Bool
  | [] => false
  | (_, v) :: rest => tooLong v || anyTooLongEntry rest

end

/-- What a JSON text cannot hold. -/
inductive Obstacle where
  | moment
  | digits
  deriving DecidableEq, Repr

mutual

def obstacle? : Value → Option Obstacle
  | .moment _ => some .moment
  | .int n => if Numeral.tooManyDigits n then some .digits else none
  | .list items => itemsObstacle? items
  | .table entries => entriesObstacle? entries
  | _ => none

def itemsObstacle? : List Value → Option Obstacle
  | [] => none
  | v :: rest => (obstacle? v).or (itemsObstacle? rest)

def entriesObstacle? : List (String × Value) → Option Obstacle
  | [] => none
  | (_, v) :: rest => (obstacle? v).or (entriesObstacle? rest)

end

/-! ## Literals -/

mutual

/-- A value as a literal: texts quoted, lists in brackets, tables in braces. -/
def literal : Value → String
  | .null => "None"
  | .bool b => if b then "True" else "False"
  | .int n => toString n
  | .float x => x.written
  | .text s => String.ofList (Text.quoted s.toList)
  | .list items => "[" ++ literalItems true items ++ "]"
  | .table entries => "\x7b" ++ literalEntries true entries ++ "\x7d"
  | .moment m => m.literal

def literalItems (first : Bool) : List Value → String
  | [] => ""
  | v :: rest => (if first then "" else ", ") ++ literal v ++ literalItems false rest

def literalEntries (first : Bool) : List (String × Value) → String
  | [] => ""
  | (k, v) :: rest =>
    (if first then "" else ", ") ++ String.ofList (Text.quoted k.toList) ++ ": " ++ literal v ++
      literalEntries false rest

end

/-- A value as a text: a text is itself, a moment in its usual form, all else a literal. -/
def display : Value → String
  | .text s => s
  | .moment m => m.text
  | v => v.literal

end Value
end TidyImports
