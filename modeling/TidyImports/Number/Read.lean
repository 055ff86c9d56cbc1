import TidyImports.Text.Printable
import TidyImports.Number.Binary64

/-!
# Numbers read from texts

* `Numeral.readInt` reads an integer with an optional sign;
* `Numeral.readDouble?` reads a decimal number, an infinity or NaN.

Digits of every script count, a single low line may stand between two digits, and white space may
stand around the number. An integer of more than `Numeral.digitLimit` digits is refused.
-/

namespace TidyImports.Numeral

/-- The greatest count of decimal digits that is converted between numbers and texts. -/
def digitLimit : Nat := 4300

/-- The least natural number with more digits than that. -/
def unwritable : Nat := Nat.pow 10 digitLimit

def tooManyDigits (n : Int) : Bool := unwritable ≤ n.natAbs

inductive Fault where
  /-- The text is no numeral. -/
  | invalid (text : Text)
  /-- The text begins with a numeral of that many digits. -/
  | tooLong (digits : Nat)
  deriving DecidableEq, Repr

def tooLongMessage (detail : String) : String :=
  s!"Exceeds the limit ({digitLimit} digits) for integer string conversion{detail}; " ++
    "use sys.set_int_max_str_digits() to increase the limit"

/-- A quoted text in this message is cut off after two hundred characters. -/
def Fault.message : Fault → String
  | .invalid text =>
    "invalid literal for int() with base 10: " ++ String.ofList ((Text.quoted text).take 200)
  | .tooLong digits => tooLongMessage s!": value has {digits} digits"

/-! ## Plain characters -/

/-- White space beside a numeral: that of ASCII, and every other blank character. -/
def blank (c : Char) : Bool :=
  let n := c.toNat
  (9 ≤ n && n ≤ 13) || n == 32 || (128 ≤ n && Text.blank c)

/-- Digits of all scripts as ASCII digits. -/
def plain (text : Text) : Text :=
  text.map fun c =>
    match Text.digit? c with
    | some d => Char.ofNat (48 + d)
    | none => c

def stripped (text : Text) : Text := Text.stripWith blank (plain text)

/-- Splits a sign off; `true` is a minus. -/
def sign : Text → Bool × Text
  | '-' :: rest => (true, rest)
  | '+' :: rest => (false, rest)
  | rest => (false, rest)

/-- The digits at the start, with single low lines between them left out, and the rest; `none`
when a low line does not stand between two digits. -/
def digits : Text → Option (Text × Text)
  | [] => some ([], [])
  | c :: rest =>
    if c.isDigit then
      match rest with
      | '_' :: d :: rest' =>
        if d.isDigit then (digits (d :: rest')).map fun (ds, r) => (c :: ds, r) else none
      | ['_'] => none
      | rest => (digits rest).map fun (ds, r) => (c :: ds, r)
    else some ([], c :: rest)
termination_by text => text.length

def value (ds : Text) : Nat := ds.foldl (fun n c => n * 10 + (c.toNat - 48)) 0

/-! ## Integers -/

def readInt (text : Text) : Except Fault Int :=
  let (negative, body) := sign (stripped text)
  match digits body with
  | none | some ([], _) => .error (.invalid text)
  | some (ds, rest) =>
    if digitLimit < ds.length then .error (.tooLong ds.length)
    else if rest.isEmpty then .ok (if negative then -(value ds : Int) else value ds)
    else .error (.invalid text)

/-! ## Doubles -/

def named? (body : Text) : Option (Bool → Binary64) :=
  let word := String.ofList (body.map Char.toLower)
  if word = "inf" ∨ word = "infinity" then some .infinite
  else if word = "nan" then some fun _ => .nan
  else none

/-- The exponent after the digits of a number, zero without one. -/
def exponent? : Text → Option Int
  | [] => some 0
  | c :: rest =>
    if c = 'e' ∨ c = 'E' then
      let (negative, body) := sign rest
      match digits body with
      | some (d :: ds, []) =>
        let n : Int := value (d :: ds)
        some (if negative then -n else n)
      | _ => none
    else none

/-- The digits of a number with its point: those before it, those after it and the rest. -/
def pointed? (body : Text) : Option (Text × Text × Text) :=
  match digits body with
  | none => none
  | some (whole, '.' :: rest) =>
    match rest with
    | '_' :: _ => none
    | rest => (digits rest).map fun (part, rest) => (whole, part, rest)
  | some (whole, rest) => some (whole, [], rest)

def readDouble? (text : Text) : Option Binary64 :=
  let (negative, body) := sign (stripped text)
  match named? body with
  | some build => some (build negative)
  | none =>
    match pointed? body with
    | none => none
    | some (whole, part, rest) =>
      if whole.isEmpty && part.isEmpty then none
      else
        (exponent? rest).map fun e =>
          Binary64.ofDecimal negative (value (whole ++ part)) (e - part.length)

end TidyImports.Numeral
