import TidyImports.Proofs.Disk.Written
import TidyImports.Proofs.Text.Endings
import TidyImports.Proofs.Text.Utf8

/-!
# Source files read and written

* `readSource_writeSource` — what is written with line feeds or with pairs is read next time;
* `writeSource_readSource_iff` — what is read is written back as it was exactly when all breaks of
  the file are line feeds, or all are pairs. A file of lone carriage returns does not come back.
-/

namespace TidyImports

section

variable {d d' : Disk} {p : PathName} {text : Text} {ending : Text.Ending}

theorem readRaw_eq_ok_iff {raw : Text} :
    d.readRaw p = .ok raw ↔ d.read p = .ok (Utf8.encode raw) := by
  unfold Disk.readRaw
  simp only [Except.bind_eq_ok_iff, Except.mapError_eq_ok_iff, Utf8.decode_eq_ok_iff,
    exists_eq_right]

theorem readSource_eq_ok_iff :
    readSource d p = .ok (text, ending) ↔
      ∃ raw, d.read p = .ok (Utf8.encode raw) ∧ text = raw.unifyBreaks ∧
        ending = Text.endingOf raw := by
  simp only [← readRaw_eq_ok_iff]
  unfold readSource
  cases d.readRaw p with
  | error fault => simp
  | ok raw => simp [eq_comm]

theorem writeSource_eq_ok_iff :
    writeSource d p text ending = .ok d' ↔
      d.write p (Utf8.encode (Text.breakWith ending text)) = .ok d' := by
  unfold writeSource
  exact Except.mapError_eq_ok_iff

end

/-! ## Written and read -/

/-- A text without carriage returns is read from the file that it was written to, and so is its
ending, if it has a break to tell it by. -/
theorem readSource_writeSource {d d' : Disk} {p : PathName} {text : Text} {ending : Text.Ending}
    (htext : '\r' ∉ text) (hending : ending ≠ .cr) (h : writeSource d p text ending = .ok d') :
    readSource d' p = .ok (text, if '\n' ∈ text then ending else .lf) := by
  have hread := Disk.read_write (writeSource_eq_ok_iff.mp h)
  exact readSource_eq_ok_iff.mpr ⟨_, hread, (Text.unifyBreaks_breakWith htext ending).symm,
    (Text.endingOf_breakWith htext hending).symm⟩

/-- A disk with one source file, `m.py`, in its root. -/
def sourceDisk (text : String) : Disk where
  entries := [(["m.py"], .file (Utf8.encode text.toList))]
  current := []

theorem read_sourceDisk (text : String) :
    (sourceDisk text).read (.ofString "m.py") = .ok (Utf8.encode text.toList) :=
  rfl

theorem readSource_writeSource_breaks :
    ∃ d', writeSource (sourceDisk "") (.ofString "m.py") "\n\nx = 1".toList .crlf = .ok d' ∧
      '\r' ∉ "\n\nx = 1".toList ∧ Text.Ending.crlf ≠ .cr ∧
      readSource d' (.ofString "m.py") =
        .ok ("\n\nx = 1".toList, if '\n' ∈ "\n\nx = 1".toList then .crlf else .lf) := by
  obtain ⟨d', hwrite⟩ :=
    Disk.exists_write (read_sourceDisk "") (fun _ => rfl)
      (Utf8.encode (Text.breakWith .crlf "\n\nx = 1".toList))
  have h := writeSource_eq_ok_iff.mpr hwrite
  exact ⟨d', h, by decide, by decide, readSource_writeSource (by decide) (by decide) h⟩

/-! ## Read and written -/

/-- A source file comes back with the ending that was read off it exactly when its breaks are all
line feeds or all pairs. -/
theorem writeSource_readSource_iff {d : Disk} {p : PathName} {bytes : Utf8.Bytes} {raw : Text}
    (hread : d.read p = .ok bytes) (hraw : Utf8.decode bytes = .ok raw) :
    ∃ text ending d', readSource d p = .ok (text, ending) ∧
      writeSource d p text ending = .ok d' ∧
      (d'.read p = .ok bytes ↔ ∃ style, style ≠ .cr ∧ ∀ b ∈ Text.breaks raw, b = style) := by
  obtain rfl := Utf8.decode_eq_ok_iff.mp hraw
  obtain ⟨d', hwrite⟩ := Disk.exists_write hread (fun _ => rfl)
    (Utf8.encode (Text.breakWith (Text.endingOf raw) raw.unifyBreaks))
  refine ⟨_, _, d', readSource_eq_ok_iff.mpr ⟨raw, hread, rfl, rfl⟩,
    writeSource_eq_ok_iff.mpr hwrite, ?_⟩
  rw [Disk.read_write hwrite, Except.ok.injEq, Utf8.encode_injective.eq_iff,
    Text.breakWith_endingOf_iff]

theorem writeSource_readSource_iff_pairs :
    ∃ bytes, (sourceDisk "\r\nx = 1\r\n").read (.ofString "m.py") = .ok bytes ∧
      Utf8.decode bytes = .ok "\r\nx = 1\r\n".toList ∧
      ∃ text ending d',
        readSource (sourceDisk "\r\nx = 1\r\n") (.ofString "m.py") = .ok (text, ending) ∧
        writeSource (sourceDisk "\r\nx = 1\r\n") (.ofString "m.py") text ending = .ok d' ∧
        (d'.read (.ofString "m.py") = .ok bytes ↔
          ∃ style, style ≠ .cr ∧ ∀ b ∈ Text.breaks "\r\nx = 1\r\n".toList, b = style) := by
  have hread := read_sourceDisk "\r\nx = 1\r\n"
  exact ⟨_, hread, Utf8.decode_encode _, writeSource_readSource_iff hread (Utf8.decode_encode _)⟩

/-- Lone carriage returns are read as breaks and written back as line feeds. -/
theorem writeSource_readSource_lone :
    (∀ b ∈ Text.breaks "x = 1\ry = 2\r".toList, b = .cr) ∧
      ∃ text ending d',
        readSource (sourceDisk "x = 1\ry = 2\r") (.ofString "m.py") = .ok (text, ending) ∧
        writeSource (sourceDisk "x = 1\ry = 2\r") (.ofString "m.py") text ending = .ok d' ∧
        d'.read (.ofString "m.py") ≠
          (sourceDisk "x = 1\ry = 2\r").read (.ofString "m.py") := by
  have hread := read_sourceDisk "x = 1\ry = 2\r"
  obtain ⟨d', hwrite⟩ :=
    Disk.exists_write hread (fun _ => rfl)
      (Utf8.encode (Text.breakWith .lf "x = 1\ny = 2\n".toList))
  refine ⟨by decide, "x = 1\ny = 2\n".toList, .lf, d', ?_, writeSource_eq_ok_iff.mpr hwrite, ?_⟩
  · exact readSource_eq_ok_iff.mpr ⟨_, hread, by decide, by decide⟩
  · rw [Disk.read_write hwrite, hread, ne_eq, Except.ok.injEq]
    decide

end TidyImports
