import TidyImports.Disk.Basic
import TidyImports.Text.LineBreak

/-!
# Source files

Texts are worked on with line feeds; a file gets its own line ending back when it is written.
`readText` reads a whole text, `readSource` a text with the ending to restore, and `writeSource`
puts the ending back; `writeSourceAs` takes it by its spelling.
-/

namespace TidyImports

/-- The characters of a file. -/
def Disk.readRaw (disk : Disk) (p : PathName) (guard : Guard := Guard.none) :
    Except FileFault Text := do
  let bytes ← disk.read p guard
  (Utf8.decode bytes).mapError .decode

/-- The text of a file with line feeds only. -/
def Disk.readText (disk : Disk) (p : PathName) (guard : Guard := Guard.none) :
    Except FileFault Text :=
  (disk.readRaw p guard).map Text.unifyBreaks

def readSource (disk : Disk) (p : PathName) (guard : Guard := Guard.none) :
    Except Failure (Text × Text.Ending) :=
  match disk.readRaw p guard with
  | .ok raw => .ok (raw.unifyBreaks, Text.endingOf raw)
  | .error fault => .error (fault.failure fun f => .source (.read p.toString f))

def writeSource (disk : Disk) (p : PathName) (text : Text) (ending : Text.Ending)
    (guard : Guard := Guard.none) : Except Failure Disk :=
  (disk.write p (Utf8.encode (Text.breakWith ending text)) guard).mapError fun fault =>
    fault.failure fun f => .source (.write p.toString f)

/-- Writes a source file with the ending of a spelling. A null character in it is found before the
file is opened, any other spelling of no ending after that. -/
def writeSourceAs (disk : Disk) (p : PathName) (text spelling : Text)
    (guard : Guard := Guard.none) : Except Failure Disk :=
  if '\x00' ∈ spelling then .error (.invalid .nullCharacter)
  else
    match Text.Ending.ofText? spelling with
    | some ending => writeSource disk p text ending guard
    | none => do
      let _ ← writeSource disk p text .lf guard
      .error (.invalid (.ending spelling))

end TidyImports
