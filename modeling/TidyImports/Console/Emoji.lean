import TidyImports.Console.EmojiNames
import TidyImports.Text.Blank
import TidyImports.Text.LowerCase

/-!
# Symbols by name

A name between two colons stands for a symbol, in capital or small letters. The ending `-emoji` or
`-text` asks for the coloured or the plain form of it. A name of no symbol stays as it is, with
both its colons.
-/

namespace TidyImports.Emoji

/-! ## The table -/

def pairs : List Text → List (Text × Text)
  | name :: symbol :: rest => (name, symbol) :: pairs rest
  | _ => []

def table : List (Text × Text) := nameLines.flatMap fun line => pairs (Text.splitAt ' ' line.toList)

/-! ## Codes -/

/-- What precedes an ending. -/
def beforeEnd? (ending text : Text) : Option Text :=
  (Text.dropStart? ending.reverse text.reverse).map List.reverse

/-- A name and the mark of the form that its ending asks for. -/
def split (code : Text) : Text × Text :=
  match beforeEnd? "-emoji".toList code, beforeEnd? "-text".toList code with
  | some name, _ => (name, [Char.ofNat 0xFE0F])
  | none, some name => (name, [Char.ofNat 0xFE0E])
  | none, none => (code, [])

def symbol? (code : Text) : Option Text :=
  let (name, form) := split code
  (table.lookup (Text.lower name)).map (· ++ form)

/-- The code behind a colon, which ends at the next colon and holds no white space, and the rest. -/
def code? (text : Text) : Option (Text × Text) :=
  match text.span fun c => c != ':' && !Text.blank c with
  | (code, ':' :: rest) => some (code, rest)
  | _ => none

/-- The fuel bounds the count of characters. -/
def replaceFrom : (fuel : Nat) → Text → Text
  | 0, text => text
  | _, [] => []
  | fuel + 1, c :: rest =>
    if c ≠ ':' then c :: replaceFrom fuel rest
    else
      match code? rest with
      | none => ':' :: replaceFrom fuel rest
      | some (code, after) =>
        (symbol? code).getD (':' :: code ++ [':']) ++ replaceFrom fuel after

def replace (text : Text) : Text := replaceFrom text.length text

end TidyImports.Emoji
