import TidyImports.Console.Literal.Token

/-!
# Literals

A literal is a constant: a number with an optional sign, a complex number as the sum of a real and
an imaginary part, texts, constant words, tuples, sets and tables of literals. The members of a set
and the keys of a table must be such that they can be looked up, which sets and tables are not.
`Literal.valid` tells whether a text is a literal.
-/

namespace TidyImports.Literal

inductive Kind where
  | number (imaginary signed : Bool)
  /-- Any other literal, and whether it can be looked up. -/
  | other (fixed : Bool)
  /-- The word `set` before it is called. -/
  | set
  deriving DecidableEq, Repr

/-- Whether a literal can be looked up; the word `set` alone is none. -/
def Kind.fixed? : Kind → Option Bool
  | .number .. => some true
  | .other fixed => some fixed
  | .set => none

/-- What follows the texts that stand side by side; all are bytes or none is. -/
def textsRest (bytes : Bool) : List Token → Option (List Token)
  | .text b :: rest => if b = bytes then textsRest bytes rest else none
  | rest => some rest

/-- A number with a sign in front. -/
def negated? : Kind → Option Kind
  | .number imaginary false => some (.number imaginary true)
  | _ => none

/-! ## Depth

Reading goes through nested rules, and a text that needs more than 6000 of them at once is refused.
The room is what is left of them; the numbers below are what each part needs. An item is looked for
after every bracket and every comma, also where none follows, so that empty brackets and a last
comma need as much as an item that is a number. -/

/-- The room for a text, after the rules around it. -/
def outermost : Nat := 6000 - 2

/-- The room for an item behind a comma outside all brackets. -/
def outerItem : Nat := outermost - 2

def numberDepth : Nat := 23

def textDepth : Nat := 25

def callDepth : Nat := 47

/-- The room for the first item of a tuple, or for what stands alone in brackets. -/
def firstItem (room : Nat) : Nat := room - 28

def secondItem (room : Nat) : Nat := room - 30

def laterItem (room : Nat) : Nat := room - 31

/-- The room for the first member of a set, or for the key and the value of the first entry of a
table. -/
def firstMember (room : Nat) : Nat := room - 29

def laterMember (room : Nat) : Nat := room - 30

/-! ## Reading -/

mutual

/-- A literal that may be the sum or difference of two numbers. -/
def sum? : (fuel room : Nat) → List Token → Option (Kind × List Token)
  | 0, _, _ => none
  | fuel + 1, room, ts => do
    let (left, rest) ← signed? fuel room ts
    match rest with
    | .plus :: rest | .minus :: rest =>
      match left, ← signed? fuel room rest with
      | .number false _, (.number true false, rest) => some (.other true, rest)
      | _, _ => none
    | rest => some (left, rest)

def signed? : (fuel room : Nat) → List Token → Option (Kind × List Token)
  | 0, _, _ => none
  | fuel + 1, room, .plus :: rest | fuel + 1, room, .minus :: rest => do
    let (kind, rest) ← signed? fuel (room - 1) rest
    (negated? kind).map (·, rest)
  | fuel + 1, room, ts => atom? fuel room ts

def atom? : (fuel room : Nat) → List Token → Option (Kind × List Token)
  | 0, _, _ => none
  | _, room, .number imaginary :: rest =>
    if numberDepth ≤ room then some (.number imaginary false, rest) else none
  | _, room, .text bytes :: rest =>
    if textDepth ≤ room then (textsRest bytes rest).map (.other true, ·) else none
  | _, room, .constant :: rest =>
    if numberDepth ≤ room then some (.other true, rest) else none
  | _, room, .set :: .leftParen :: .rightParen :: rest =>
    if callDepth ≤ room then some (.other false, rest) else none
  | _, room, .set :: rest =>
    if numberDepth ≤ room then some (.set, rest) else none
  | _, room, .leftParen :: .rightParen :: rest =>
    if numberDepth ≤ firstItem room then some (.other true, rest) else none
  | _, room, .leftBrace :: .rightBrace :: rest =>
    if numberDepth ≤ firstMember room then some (.other false, rest) else none
  | fuel + 1, room, .leftParen :: rest => do
    let (kind, rest) ← sum? fuel (firstItem room) rest
    match kind, rest with
    | .set, .rightParen :: .leftParen :: .rightParen :: rest => some (.other false, rest)
    | kind, .rightParen :: rest => some (kind, rest)
    | kind, rest => do
      let fixed ← kind.fixed?
      let (others, rest) ← items? fuel (secondItem room) (laterItem room) .rightParen rest
      some (.other (fixed && others), rest)
  | fuel + 1, room, .leftBrace :: rest => do
    let (kind, rest) ← sum? fuel (firstMember room) rest
    let fixed ← kind.fixed?
    let (others, rest) ← match rest with
      | .colon :: rest => entries? fuel (firstMember room) (laterMember room) rest
      | rest => items? fuel (laterMember room) (laterMember room) .rightBrace rest
    if fixed && others then some (.other false, rest) else none
  | _, _, _ => none

/-- The items behind another one up to the closing bracket: whether all can be looked up. The next
item has its own room. -/
def items? : (fuel next later : Nat) → (close : Token) → List Token → Option (Bool × List Token)
  | 0, _, _, _, _ => none
  | fuel + 1, next, later, close, ts =>
    match ts with
    | .comma :: t :: rest =>
      if t = close then
        if numberDepth ≤ next then some (true, rest) else none
      else do
        let (kind, rest) ← sum? fuel next (t :: rest)
        let fixed ← kind.fixed?
        let (others, rest) ← items? fuel later later close rest
        some (fixed && others, rest)
    | t :: rest => if t = close then some (true, rest) else none
    | [] => none

/-- The entries of a table from the first value on: whether all keys can be looked up. -/
def entries? : (fuel next later : Nat) → List Token → Option (Bool × List Token)
  | 0, _, _, _ => none
  | fuel + 1, next, later, ts => do
    let (value, rest) ← sum? fuel next ts
    let _ ← value.fixed?
    match rest with
    | .rightBrace :: rest => some (true, rest)
    | .comma :: .rightBrace :: rest =>
      if numberDepth ≤ later then some (true, rest) else none
    | .comma :: rest => do
      let (key, rest) ← sum? fuel later rest
      let fixed ← key.fixed?
      match rest with
      | .colon :: rest => do
        let (others, rest) ← entries? fuel later later rest
        some (fixed && others, rest)
      | _ => none
    | _ => none

end

/-- Whether tokens are a literal; commas outside brackets make a tuple, as if it were closed at the
end. -/
def validTokens (ts : List Token) : Bool :=
  let fuel := 4 * ts.length + 8
  (do
    let (kind, rest) ← sum? fuel outermost ts
    let _ ← kind.fixed?
    let (_, rest) ← items? fuel outerItem outerItem .rightParen (rest ++ [Token.rightParen])
    if rest.isEmpty then some () else none).isSome

def valid (text : Text) : Bool :=
  match tokens? text with
  | some ts => validTokens ts
  | none => false

end TidyImports.Literal
