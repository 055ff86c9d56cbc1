import TidyImports.Text.Width

/-!
# Lines of a terminal

`Wrap.parts` breaks a line that is wider than a terminal into parts, between words where it can;
`Wrap.shorten` and `Wrap.pad` then give each part the width that `Justify` asks for.
-/

namespace TidyImports.Wrap

/-- What happens to a word that is wider than a line. -/
inductive Overflow where
  | fold
  | ellipsis
  deriving DecidableEq, Repr

inductive Justify where
  | none
  | left
  | center
  | right
  deriving DecidableEq, Repr

/-! ## Tabs -/

def tabWidth : Nat := 8

/-- Blanks for tabs, up to the next multiple of the tab width. -/
def expandTabs (column : Nat) : Text → Text
  | [] => []
  | '\t' :: rest =>
    let width := tabWidth - column % tabWidth
    List.replicate width ' ' ++ expandTabs (column + width) rest
  | c :: rest => c :: expandTabs (column + Text.charColumns c) rest

/-! ## Words -/

/-- Words with the blank characters after them, the first also with those before it. The fuel bounds
their count. -/
def words : (fuel : Nat) → Text → List Text
  | 0, _ => []
  | fuel + 1, text =>
    let (before, rest) := text.span Text.blank
    let (word, rest) := rest.span fun c => !Text.blank c
    if word.isEmpty then []
    else
      let (after, rest) := rest.span Text.blank
      (before ++ word ++ after) :: words fuel rest

def dropEnd (text : Text) : Text := (text.reverse.dropWhile Text.blank).reverse

/-- Cuts a text into pieces of at most `width` columns. -/
def chop (width used : Nat) (current : Text) : Text → List Text
  | [] => [current]
  | c :: rest =>
    let w := Text.charColumns c
    if width < used + w then current :: chop width w [c] rest
    else chop width (used + w) (current ++ [c]) rest

/-- Distributes words over lines; `current` is the line being filled, `used` its columns. -/
def fill (overflow : Overflow) (width : Nat) (current : Text) (used : Nat) :
    List Text → List Text
  | [] => [current]
  | word :: rest =>
    let columns := Text.columns (dropEnd word)
    if used + columns ≤ width then
      fill overflow width (current ++ word) (used + Text.columns word) rest
    else if width < columns then
      let front := if current.isEmpty then [] else [current]
      match overflow with
      | .fold =>
        let parts := chop width 0 [] word
        let final := parts.getLast?.getD []
        front ++ parts.dropLast ++ fill overflow width final (Text.columns final) rest
      | .ellipsis => front ++ fill overflow width word (Text.columns word) rest
    else current :: fill overflow width word (Text.columns word) rest

/-! ## Lines -/

/-- The front of a text that takes exactly so many columns, found by halving: characters of no width
at its end may belong to it or not. A blank stands for half of a wide character. -/
def halve (columns : Nat) (text : Text) : (fuel start stop : Nat) → Text
  | 0, start, _ => text.take start
  | fuel + 1, start, stop =>
    let middle := (start + stop) / 2
    let front := text.take (middle + 1)
    let used := Text.columns front
    if used = columns then front
    else if used = columns + 1 && (front.getLast?.map Text.charColumns) == some 2 then
      front.dropLast ++ [' ']
    else if columns < used then halve columns text fuel start middle
    else halve columns text fuel middle stop

/-- The front of a text that is wider than the columns. -/
def fit (columns : Nat) (text : Text) : Text :=
  if columns = 0 then [] else halve columns text text.length 0 text.length

def truncate (overflow : Overflow) (width : Nat) (line : Text) : Text :=
  if Text.columns line ≤ width then line
  else
    match overflow with
    | .fold => fit width line
    | .ellipsis => fit (width - 1) line ++ ['…']

/-- Drops blank characters at the end of a line of too many characters. -/
def cropEnd (width : Nat) (line : Text) : Text :=
  let blanks := (line.reverse.takeWhile Text.blank).length
  line.take (line.length - min blanks (line.length - width))

def blanks (n : Nat) : Text := List.replicate n ' '

/-- Cuts off what has no place; a line that is moved to the right ends without blanks. -/
def shorten (justify : Justify) (overflow : Overflow) (width : Nat) (line : Text) : Text :=
  let line := cropEnd width line
  match justify with
  | .none | .left => truncate overflow width line
  | .center | .right => truncate overflow width (dropEnd line)

/-- Fills a line up. -/
def pad (justify : Justify) (width : Nat) (line : Text) : Text :=
  let room := width - Text.columns line
  match justify with
  | .none => line
  | .left => line ++ blanks room
  | .center => blanks (room / 2) ++ line ++ blanks (room - room / 2)
  | .right => blanks room ++ line

/-- The parts of a line without tabs, one behind the other. -/
def parts (overflow : Overflow) (width : Nat) (line : Text) : List Text :=
  match words (line.length + 1) line with
  | [] => [line]
  | ws => fill overflow width [] 0 ws

end TidyImports.Wrap
