import TidyImports.Text.Blank

/-!
# Dates and times of day

A configuration file may hold a date, a time of day, both, or both with an offset from UTC.
`Date.make?` refuses what the calendar does not have.
-/

namespace TidyImports

structure Date where
  year : Nat
  month : Nat
  day : Nat
  deriving DecidableEq, Repr

structure Clock where
  hour : Nat
  minute : Nat
  second : Nat
  micro : Nat
  deriving DecidableEq, Repr

inductive Moment where
  | date (d : Date)
  | time (c : Clock)
  | naive (d : Date) (c : Clock)
  /-- A date and a time with their offset from UTC in minutes. -/
  | aware (d : Date) (c : Clock) (offset : Int)
  deriving DecidableEq, Repr

/-! ## The calendar -/

def leapYear (year : Nat) : Bool := year % 4 == 0 && (year % 100 != 0 || year % 400 == 0)

def daysIn (year month : Nat) : Nat :=
  if month = 2 then (if leapYear year then 29 else 28)
  else if month = 4 ∨ month = 6 ∨ month = 9 ∨ month = 11 then 30
  else 31

def Date.make? (year month day : Nat) : Option Date :=
  if 1 ≤ year ∧ year ≤ 9999 ∧ 1 ≤ month ∧ month ≤ 12 ∧ 1 ≤ day ∧ day ≤ daysIn year month then
    some ⟨year, month, day⟩
  else none

/-! ## Written moments -/

/-- A number with leading zeros up to `width` digits. -/
def padded (width n : Nat) : String :=
  let digits := toString n
  String.ofList (List.replicate (width - digits.length) '0') ++ digits

def Date.text (d : Date) : String :=
  s!"{padded 4 d.year}-{padded 2 d.month}-{padded 2 d.day}"

def Clock.text (c : Clock) : String :=
  let whole := s!"{padded 2 c.hour}:{padded 2 c.minute}:{padded 2 c.second}"
  if c.micro = 0 then whole else s!"{whole}.{padded 6 c.micro}"

def offsetText (offset : Int) : String :=
  let n := offset.natAbs
  (if offset < 0 then "-" else "+") ++ s!"{padded 2 (n / 60)}:{padded 2 (n % 60)}"

def Moment.text : Moment → String
  | .date d => d.text
  | .time c => c.text
  | .naive d c => d.text ++ " " ++ c.text
  | .aware d c offset => d.text ++ " " ++ c.text ++ offsetText offset

/-- The parts of a time of day; seconds and their fraction only when they are not zero. -/
def Clock.parts (c : Clock) : List Nat :=
  if c.micro ≠ 0 then [c.hour, c.minute, c.second, c.micro]
  else if c.second ≠ 0 then [c.hour, c.minute, c.second]
  else [c.hour, c.minute]

def Date.parts (d : Date) : List Nat := [d.year, d.month, d.day]

def commaSeparated (ns : List Nat) : String := ", ".intercalate (ns.map toString)

/-- An offset as whole days and the seconds that remain, which are never negative. -/
def offsetLiteral (offset : Int) : String :=
  let seconds := offset * 60
  if seconds = 0 then "datetime.timezone.utc"
  else
    let days := seconds / 86400
    let rest := seconds % 86400
    let parts := (if days = 0 then [] else [s!"days={days}"]) ++
      (if rest = 0 then [] else [s!"seconds={rest}"])
    "datetime.timezone(datetime.timedelta(" ++ ", ".intercalate parts ++ "))"

def Moment.literal : Moment → String
  | .date d => "datetime.date(" ++ commaSeparated d.parts ++ ")"
  | .time c => "datetime.time(" ++ commaSeparated c.parts ++ ")"
  | .naive d c => "datetime.datetime(" ++ commaSeparated (d.parts ++ c.parts) ++ ")"
  | .aware d c offset =>
    "datetime.datetime(" ++ commaSeparated (d.parts ++ c.parts) ++ ", tzinfo=" ++
      offsetLiteral offset ++ ")"

end TidyImports
