import TidyImports.Console.Emoji
import TidyImports.Console.Literal.Check
import TidyImports.Console.Marked
import TidyImports.Text.Word

/-!
# Markup

Messages may hold style tags in brackets and names of symbols. A tag begins with a small letter, a
number sign, a slash or an at sign and holds no further opening bracket; an odd count of backslashes
before it makes it plain text. On an uncoloured terminal a tag leaves nothing behind, but a closing
tag must still close something. `Markup.render` gives the text that is left, with its styles.

Markup, tables and the breaking of lines follow a library for terminals. Messages go through them,
and no file, printed diff or JSON report does. Results about commands say only that a message is
printed, or that its markup ends the command with a failure, whatever the rules for markup are.
-/

namespace TidyImports

namespace Markup

/-! ## Tags -/

inductive Piece where
  | plain (text : Text)
  | tag (text : Text)
  deriving DecidableEq, Repr

def beginsTag (c : Char) : Bool := c.isLower || c = '#' || c = '/' || c = '@'

/-- The tag whose opening bracket stands before the text, and what follows its closing bracket. -/
def tag? (text : Text) : Option (Text × Text) :=
  match text with
  | c :: _ =>
    if !beginsTag c then none
    else
      match text.span (· ≠ ']') with
      | (body, ']' :: rest) => if '[' ∈ body then none else some (body, rest)
      | _ => none
  | [] => none

/-- Splits markup at its tags; `seen` is the plain text before. The fuel bounds the count of
characters. -/
def pieces : (fuel : Nat) → (seen : Text) → Text → List Piece
  | 0, seen, text => [.plain (seen ++ text)]
  | fuel + 1, seen, text =>
    let (slashes, rest) := text.span (· = '\\')
    match rest with
    | [] => [.plain (seen ++ slashes)]
    | '[' :: rest =>
      match tag? rest with
      | none => pieces fuel (seen ++ slashes ++ ['[']) rest
      | some (body, rest) =>
        let kept := List.replicate (slashes.length / 2) '\\'
        if slashes.length % 2 = 1 then
          .plain seen :: .plain kept :: .plain ('[' :: body ++ [']']) :: pieces fuel [] rest
        else .plain seen :: .plain kept :: .tag body :: pieces fuel [] rest
    | c :: rest => pieces fuel (seen ++ slashes ++ [c]) rest

/-- A backslash before a bracket that opens no tag disappears. -/
def unescape : Text → Text
  | '\\' :: '[' :: rest => '[' :: unescape rest
  | c :: rest => c :: unescape rest
  | [] => []

/-- Bell, backspace, vertical tab, form feed and carriage return are not printed. -/
def printed (c : Char) : Bool := !([7, 8, 11, 12, 13].contains c.toNat)

def plain (text : Text) : Text := (Emoji.replace text).filter printed

/-- A tag that is open, under the normal name of its style, and where its text begins. -/
structure OpenTag where
  name : Text
  parameters : Option Text
  start : Nat

def OpenTag.style (t : OpenTag) : Text :=
  match t.parameters with
  | none => t.name
  | some parameters => t.name ++ ' ' :: parameters

/-- Whether the parameters of a handler are a name, a name with a literal in parentheses, or a
literal. -/
def isHandler (parameters : Text) : Bool :=
  let text := Text.strip parameters
  match text.dropWhile fun c => Text.wordChar c || c == '.' with
  | [] => true
  | '(' :: rest =>
    if rest.getLast? = some ')' && '\n' ∉ rest then Literal.valid ('(' :: rest)
    else Literal.valid text
  | _ => Literal.valid text

/-! ## Rendering -/

def ofNumeral {α : Type} (r : Except Numeral.Fault α) : Except Failure α :=
  r.mapError fun fault => .invalid (.numeral fault)

/-- The latest open tag of that name, and the others; without a name it is the latest of all. -/
def take? (name : Text) : List OpenTag → Option (OpenTag × List OpenTag)
  | [] => none
  | t :: rest =>
    if name.isEmpty || t.name = name then some (t, rest)
    else (take? name rest).map fun (found, others) => (found, t :: others)

/-- The style of a tag that is closed at `stop`; a handler has none. -/
def closeAt (stop : Nat) (t : OpenTag) : Except Failure (List Marked.Span) :=
  if t.name.head? ≠ some '@' then .ok [⟨t.start, stop, t.style⟩]
  else if isHandler (t.parameters.getD []) then .ok []
  else .error (.misuse .markup)

/-- Closes the tag that a closing tag names. -/
def closeTag (stop : Nat) (name : Text) (stack : List OpenTag) :
    Except Failure (List Marked.Span × List OpenTag) := do
  let name := Text.strip name
  let name ← if name.isEmpty then pure name else ofNumeral (Style.normal name)
  match take? name stack with
  | none => .error (.misuse .markup)
  | some (t, stack) => do
    let spans ← closeAt stop t
    pure (spans, stack)

/-- Appends pieces to what is rendered; `stack` holds the open tags, the latest first. -/
def join (done : Marked) (stack : List OpenTag) : List Piece → Except Failure Marked
  | [] =>
    .ok { done with
      spans := done.spans ++ stack.map fun t => ⟨t.start, done.text.length, t.style⟩ }
  | .plain text :: rest => join { done with text := done.text ++ plain (unescape text) } stack rest
  | .tag body :: rest =>
    match body.span (· ≠ '=') with
    | ('/' :: name, _) => do
      let (spans, stack) ← closeTag done.text.length name stack
      join { done with spans := done.spans ++ spans } stack rest
    | (name, parameters) => do
      let name ← ofNumeral (Style.normal name)
      join done (⟨name, parameters.tail?, done.text.length⟩ :: stack) rest

/-- The spans in the order of their starts; of two with one start the later one comes first. -/
def sortSpans (m : Marked) : Marked :=
  { m with spans := m.spans.reverse.mergeSort fun s t => s.start ≤ t.start }

def render (markup : Text) : Except Failure Marked :=
  if '[' ∈ markup then (join {} [] (pieces markup.length [] markup)).map sortSpans
  else .ok { text := plain markup }

end Markup

end TidyImports
