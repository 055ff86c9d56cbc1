import TidyImports.Text.Blank

/-!
# UTF-8

* `Utf8.encode` writes a text as bytes;
* `Utf8.decode` reads bytes; it refuses overlong forms, surrogates and numbers past the last
  character, and says which bytes rule the text out.
-/

namespace TidyImports.Utf8

abbrev Bytes := List UInt8

/-! ## Writing -/

def encodeChar (c : Char) : Bytes :=
  let n := c.toNat
  if n < 0x80 then [UInt8.ofNat n]
  else if n < 0x800 then [UInt8.ofNat (0xC0 + n / 64), UInt8.ofNat (0x80 + n % 64)]
  else if n < 0x10000 then
    [UInt8.ofNat (0xE0 + n / 4096), UInt8.ofNat (0x80 + n / 64 % 64), UInt8.ofNat (0x80 + n % 64)]
  else
    [UInt8.ofNat (0xF0 + n / 262144), UInt8.ofNat (0x80 + n / 4096 % 64),
      UInt8.ofNat (0x80 + n / 64 % 64), UInt8.ofNat (0x80 + n % 64)]

def encode (text : Text) : Bytes := text.flatMap encodeChar

/-! ## Reading -/

inductive Reason where
  | start
  | continuation
  | ended
  deriving DecidableEq, Repr

/-- The `count` bytes from `position` on, the first of them `byte`, begin no character. -/
structure Fault where
  position : Nat
  count : Nat
  byte : UInt8
  reason : Reason
  deriving DecidableEq, Repr

def Reason.message : Reason → String
  | .start => "invalid start byte"
  | .continuation => "invalid continuation byte"
  | .ended => "unexpected end of data"

def Fault.message (f : Fault) : String :=
  let what :=
    if f.count = 1 then
      s!"byte 0x{String.ofList (Text.hex 2 f.byte.toNat)} in position {f.position}"
    else s!"bytes in position {f.position}-{f.position + f.count - 1}"
  s!"'utf-8' codec can't decode {what}: {f.reason.message}"

/-- A byte that may stand after the first one of a character. -/
def continues (b : UInt8) : Bool := 0x80 ≤ b.toNat && b.toNat < 0xC0

/-- The second byte of a character that begins with `a`. -/
def second (a b : UInt8) : Bool :=
  continues b &&
    match a.toNat with
    | 0xE0 => 0xA0 ≤ b.toNat
    | 0xED => b.toNat < 0xA0
    | 0xF0 => 0x90 ≤ b.toNat
    | 0xF4 => b.toNat < 0x90
    | _ => true

/-- The character of the payload bits in up to four bytes. -/
def assemble (lead : Nat) (tail : List UInt8) : Char :=
  Char.ofNat (tail.foldl (fun n b => n * 64 + (b.toNat - 0x80)) lead)

def decodeFrom (position : Nat) : Bytes → Except Fault Text
  | [] => .ok []
  | a :: rest =>
    let n := a.toNat
    let fault (count : Nat) (reason : Reason) : Except Fault Text :=
      .error ⟨position, count, a, reason⟩
    if n < 0x80 then (Char.ofNat n :: ·) <$> decodeFrom (position + 1) rest
    else if n < 0xC2 ∨ 0xF4 < n then fault 1 .start
    else
      match rest with
      | [] => fault 1 .ended
      | b :: rest =>
        if !second a b then fault 1 .continuation
        else if n < 0xE0 then
          (assemble (n - 0xC0) [b] :: ·) <$> decodeFrom (position + 2) rest
        else
          match rest with
          | [] => fault 2 .ended
          | c :: rest =>
            if !continues c then fault 2 .continuation
            else if n < 0xF0 then
              (assemble (n - 0xE0) [b, c] :: ·) <$> decodeFrom (position + 3) rest
            else
              match rest with
              | [] => fault 3 .ended
              | d :: rest =>
                if !continues d then fault 3 .continuation
                else (assemble (n - 0xF0) [b, c, d] :: ·) <$> decodeFrom (position + 4) rest

def decode (bytes : Bytes) : Except Fault Text := decodeFrom 0 bytes

end TidyImports.Utf8
