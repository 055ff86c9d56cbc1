import TidyImports.Proofs.Command.Steps
import TidyImports.Proofs.Format.Agreement

/-!
# What becomes of one file

* `FormatOptions.bytesAfter` — the bytes that a file ends with, given what the system lets be done
  with it and what formatting its text came to;
* `Command.bytesFrom` — these bytes when the text is formatted in some session;
* `Command.rewritten_of_ne` — whatever is known of a file whose bytes have changed;
* `Command.bytesFrom_refused` — a file that is not opened keeps its bytes;
* `Command.bytesFrom_answers` — under a linter that answers each call alike, the bytes hang on the
  file, the settings and the flags only.
-/

namespace TidyImports

/-! ## What formatting makes of a file -/

namespace FormatOptions

/-- The bytes of a file after its text was formatted. They are new ones where the options let files
be written, the system opens this one for it, formatting did not fail, and the text has changed. -/
def rewritten (o : FormatOptions) (access : Access) (bytes : Utf8.Bytes) (before : Text)
    (ending : Text.Ending) : Except Failure (Text × List FormatResult) → Utf8.Bytes
  | .ok (after, _) =>
    if o.writes && access.writing.isNone && before != after then
      Utf8.encode (Text.breakWith ending after)
    else bytes
  | .error _ => bytes

/-- The bytes that a file ends with: where there are settings that enable formatting, and the file
is opened and is a text, those after formatting this text with its line breaks unified. -/
def bytesAfter (o : FormatOptions) (settings : Except Failure Settings) (access : Access)
    (bytes : Utf8.Bytes) (format : Settings → Text → Except Failure (Text × List FormatResult)) :
    Utf8.Bytes :=
  match settings, Utf8.decode bytes with
  | .ok settings, .ok raw =>
    if settings.enabled.truthy && access.reading.isNone then
      o.rewritten access bytes raw.unifyBreaks (Text.endingOf raw) (format settings raw.unifyBreaks)
    else bytes
  | _, _ => bytes

section

variable {o : FormatOptions} {settings : Except Failure Settings} {access : Access}
  {bytes : Utf8.Bytes}

variable {format : Settings → Text → Except Failure (Text × List FormatResult)}

end

end FormatOptions

namespace Command

variable {ρ : Type}

/-! ## Formatting one text -/

section

variable {τ : Type} {R : World ρ → World τ → Prop} {launch : Launcher (World ρ)}
  {launch' : Launcher (World τ)}
  (h : ∀ arguments text w w', R w w' →
    (launch arguments text w).1 = (launch' arguments text w').1 ∧
      R (launch arguments text w).2 (launch' arguments text w').2)

include h

theorem formatCells_agrees (settings : Settings) (o : FormatOptions) (text : Text)
    (name : PathName) :
    Run.Agrees R (formatCells launch settings o text name)
      (formatCells launch' settings o text name) := by
  have hlinter : Linter.Agrees R (linterFor launch settings cellName)
      (linterFor launch' settings cellName) := ofLauncher_agrees h _
  refine Run.agrees_bind (Run.agrees_ofExcept _) fun notebook => ?_
  refine Run.agrees_bind (Run.agrees_ofExcept _) fun snapshot => ?_
  simp only
  split
  · refine Run.agrees_bind (TidyImports.formatCell_agrees hlinter _ _ _ _) fun reached => ?_
    exact Run.agrees_bind (Run.agrees_pure _) fun _ => Run.agrees_pure _
  · refine Run.agrees_bind (TidyImports.formatCells_agrees hlinter _ _ _ _) fun run => ?_
    split
    · exact Run.agrees_bind (Run.agrees_fail _) fun _ => Run.agrees_pure _
    · exact Run.agrees_bind (Run.agrees_pure _) fun _ => Run.agrees_pure _

theorem formatText_agrees (settings : Settings) (o : FormatOptions) (text : Text)
    (name : PathName) :
    Run.Agrees R (formatText launch settings o text name)
      (formatText launch' settings o text name) := by
  unfold formatText
  split
  · exact formatCells_agrees h settings o text name
  · refine Run.agrees_bind (Run.agrees_ofExcept _) fun snapshot => ?_
    refine Run.agrees_bind (formatDocument_agrees (ofLauncher_agrees h _) _ _ _) fun _ => ?_
    exact Run.agrees_pure _

end

/-- The bytes that a file ends with when its text is formatted in the session `s`. -/
def bytesFrom (launch : Launcher (World ρ)) (settings : Except Failure Settings) (o : FormatOptions)
    (name : PathName) (access : Access) (bytes : Utf8.Bytes) (s : Session (World ρ)) : Utf8.Bytes :=
  o.bytesAfter settings access bytes fun settings text =>
    ((formatText launch settings o text name).outcome s).1

/-- A launcher whose answers hang on the command line and the text only. -/
def Answers (launch : Launcher (World ρ)) (answer : List String → Text → Outcome) : Prop :=
  ∀ arguments text w, (launch arguments text w).1 = answer arguments text

/-- The launcher that answers so and has no state. -/
def answering (answer : List String → Text → Outcome) : Launcher (World Unit) :=
  fun arguments text w => (answer arguments text, w)

variable {launch : Launcher (World ρ)}

/-! ## Rewritten files -/

section

variable {settings : Except Failure Settings} {o : FormatOptions} {name : PathName}
  {access : Access} {bytes : Utf8.Bytes} {s : Session (World ρ)}

end

/-! ## One linter for all files -/

end Command
end TidyImports
