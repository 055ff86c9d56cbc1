import TidyImports.Console.Color
import TidyImports.Text.LowerCase

/-!
# Styles

A style is written in words: attributes, each of which `not` switches off, a colour, a background
behind `on` and a target behind `link`. `Style.normal` gives all spellings of one style the same
name, and leaves a text that is no style as it is, in small letters.
-/

namespace TidyImports

/-- The latest setting of an attribute comes first. -/
structure Style where
  attributes : List (Text × Bool) := []
  color : Option Text := none
  background : Option Text := none
  link : Option Text := none

namespace Style

inductive Fault where
  /-- The words make no style. -/
  | unknown
  /-- A colour lacks a number. -/
  | numeral (fault : Numeral.Fault)
  deriving DecidableEq, Repr

/-! ## Attributes -/

/-- The attributes in the order in which they are written. -/
def attributeNames : List String :=
  ["bold", "dim", "italic", "underline", "blink", "blink2", "reverse", "conceal", "strike",
    "underline2", "frame", "encircle", "overline"]

def shortNames : List (String × String) :=
  [("b", "bold"), ("d", "dim"), ("i", "italic"), ("u", "underline"), ("r", "reverse"),
    ("c", "conceal"), ("s", "strike"), ("uu", "underline2"), ("o", "overline")]

/-- The attribute of a name or short name. -/
def attribute? (word : Text) : Option Text :=
  let name := String.ofList word
  if name ∈ attributeNames then some word else (shortNames.lookup name).map String.toList

/-! ## Reading -/

def checkColor (word : Text) : Except Fault Unit :=
  match Color.known word with
  | .ok true => .ok ()
  | .ok false => .error .unknown
  | .error fault => .error (.numeral fault)

/-- Reads words; of two settings of one thing the later counts. -/
def readWords (style : Style) : List Text → Except Fault Style
  | [] => .ok style
  | word :: rest =>
    let small := Text.lower word
    if small = "on".toList then
      match rest with
      | [] => .error .unknown
      | color :: rest => do
        checkColor (Text.lower color)
        readWords { style with background := some (Text.lower color) } rest
    else if small = "not".toList then
      match rest with
      | [] => .error .unknown
      | name :: rest =>
        match attribute? name with
        | none => .error .unknown
        | some name => readWords { style with attributes := (name, false) :: style.attributes } rest
    else if small = "link".toList then
      match rest with
      | [] => .error .unknown
      | target :: rest => readWords { style with link := some target } rest
    else
      match attribute? small with
      | some name => readWords { style with attributes := (name, true) :: style.attributes } rest
      | none => do
        checkColor small
        readWords { style with color := some small } rest

def plainName : Text := "none".toList

/-- The empty text and the word `none` are the style that sets nothing. -/
def parse (text : Text) : Except Fault Style :=
  if text.isEmpty || Text.strip text = plainName then .ok {} else readWords {} (Text.words text)

/-! ## Writing -/

def attributeWords (style : Style) (name : String) : List Text :=
  match style.attributes.lookup name.toList with
  | some true => [name.toList]
  | some false => ["not".toList, name.toList]
  | none => []

/-- The words of a style in a fixed order. -/
def toWords (style : Style) : List Text :=
  attributeNames.flatMap style.attributeWords ++ style.color.toList ++
    (style.background.map fun c => ["on".toList, c]).getD [] ++
    (style.link.map fun l => ["link".toList, l]).getD []

def toText (style : Style) : Text :=
  match style.toWords with
  | [] => plainName
  | words => Text.joinWith [' '] words

/-- The name by which opening and closing tags find each other. -/
def normal (text : Text) : Except Numeral.Fault Text :=
  match parse text with
  | .ok style => .ok style.toText
  | .error .unknown => .ok (Text.lower (Text.strip text))
  | .error (.numeral fault) => .error fault

end Style
end TidyImports
