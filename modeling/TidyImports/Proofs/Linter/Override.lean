import TidyImports.Proofs.Data.Toml.Entry
import TidyImports.Proofs.Data.Toml.Text
import TidyImports.Proofs.Linter.Entries

/-!
# Overrides read as TOML

The overrides of a configuration are lines `key = value` whose values are written as ASCII JSON,
while the linter reads them as TOML. For a list of texts the two agree as long as no character of
them needs a pair of escapes.

* `overrideLines_of_clear` — the lines, where nothing keeps a value from being written;
* `parse_override` — the line of a list of texts, read as TOML.
-/

namespace TidyImports

open Toml (Path Bare dotted nest InBasicPlane Printable)

namespace Config

/-- The parts of a setting name. -/
def Key.path : Key → Path
  | .select => ["lint", "select"]
  | .requiredImports => ["lint", "isort", "required-imports"]
  | .linesAfterImports => ["lint", "isort", "lines-after-imports"]
  | .combineAsImports => ["lint", "isort", "combine-as-imports"]
  | .splitOnTrailingComma => ["lint", "isort", "split-on-trailing-comma"]
  | .lineLength => ["line-length"]
  | .skipMagicTrailingComma => ["format", "skip-magic-trailing-comma"]

theorem Key.path_ne_nil (key : Key) : key.path ≠ [] := by cases key <;> simp [Key.path]

theorem Key.bare_of_mem_path (key : Key) : ∀ part ∈ key.path, Bare part :=
  Toml.bare_of_all (by cases key <;> decide)

theorem Key.toList_name (key : Key) : key.name.toList = dotted key.path := by
  cases key <;> decide

/-! ## The lines -/

theorem overrideLines_of_clear {entries : Table} (h : ∀ e ∈ entries, e.2.obstacle? = none) :
    overrideLines entries =
      .ok (entries.map fun e => e.1 ++ " = " ++ Json.render .inline e.2) := by
  induction entries with
  | nil => rfl
  | cons e rest ih =>
    obtain ⟨key, v⟩ := e
    obtain ⟨hv, hrest⟩ := List.forall_mem_cons.mp h
    rw [overrideLines, settingText, Value.checkJson, hv, ih hrest]
    rfl

theorem obstacle?_texts (items : List String) :
    (Value.list (items.map .text)).obstacle? = none := by
  rw [Value.obstacle?]
  induction items with
  | nil => rfl
  | cons s items ih =>
    rw [List.map_cons, Value.itemsObstacle?, ih]
    rfl

/-! ## The line of a list of texts -/

theorem parse_line (key : Key) (items : List String) :
    Toml.parse (key.name ++ " = " ++ Json.render .inline (.list (items.map .text))).toList =
      if ∀ s ∈ items, InBasicPlane s.toList then .ok (nest (.list (items.map .text)) key.path)
      else .error .malformed := by
  have hne := key.path_ne_nil
  have hbare := key.bare_of_mem_path
  obtain ⟨text, htext, hlength⟩ := Toml.write_list 0 (items.map .text)
  rw [List.length_map] at hlength
  have hline : (key.name ++ " = " ++ Json.render .inline (.list (items.map .text))).toList =
      dotted key.path ++ ' ' :: '=' :: ' ' :: '[' :: text := by
    simp [Json.render, htext, key.toList_name]
  -- else it might be joined with a line feed behind it
  have hbreak : '\r' ∉ '[' :: text := by
    intro hmem
    rw [← htext] at hmem
    exact absurd (Toml.printable_write 0 items _ hmem) (by decide)
  have hread := Toml.readValue_writeList 0 items [] (2 * text.length + 6) (by omega)
  rw [List.append_nil, htext] at hread
  rw [hline]
  split
  · rename_i hall
    rw [if_pos hall] at hread
    exact Toml.parse_entry hne hbare (by decide) hbreak hread
  · rename_i hall
    rw [if_neg hall] at hread
    exact Toml.parse_entry_error hne hbare (by decide) hbreak hread

theorem printable_line (key : Key) (items : List String) :
    ∀ c ∈ (key.name ++ " = " ++ Json.render .inline (.list (items.map .text))).toList,
      Printable c := by
  have hname : ∀ c ∈ key.name.toList, Printable c :=
    Toml.printable_of_all (by cases key <;> decide)
  have hequals : ∀ c ∈ " = ".toList, Printable c := Toml.printable_of_all (by decide)
  have hvalue : ∀ c ∈ (Json.render .inline (.list (items.map .text))).toList, Printable c := by
    rw [Json.render, String.toList_ofList]
    exact Toml.printable_write 0 items
  rw [String.toList_append, String.toList_append, List.forall_mem_append, List.forall_mem_append]
  exact ⟨⟨hname, hequals⟩, hvalue⟩

/-- **The override of a list of texts** is one line of printable ASCII. Read as TOML it gives that
list under its key, exactly if all characters of the texts are in the basic plane; a character
beyond it makes the line malformed. A selection of no rules is not set and has no line. -/
theorem parse_override {c : Config} {key : Key} {items : List String}
    (hset : c.get key = .list (items.map .text))
    (hclear : ∀ other, other ≠ key → (c.get other).obstacle? = none) :
    ∃ lines line value, c.overrides = .ok lines ∧ line ∈ lines ∧
      line = key.name ++ " = " ++ value ∧ (∀ d ∈ line.toList, Printable d) ∧
      Toml.parse line.toList =
        if ∀ s ∈ items, InBasicPlane s.toList then .ok (nest (.list (items.map .text)) key.path)
        else .error .malformed := by
  have hentries : ∀ e ∈ c.toEntries, e.2.obstacle? = none := by
    intro e he
    obtain ⟨other, rfl⟩ := exists_of_mem_toEntries he
    by_cases hother : other = key
    · rw [hother, hset]
      exact obstacle?_texts items
    · exact hclear other hother
  have hmem : (key.name, c.get key) ∈ c.toEntries := mem_toEntries (by rw [hset]; rfl)
  refine ⟨_, key.name ++ " = " ++ Json.render .inline (c.get key), _,
    overrideLines_of_clear hentries,
    List.mem_map.mpr ⟨_, hmem, rfl⟩, rfl, ?_, ?_⟩
  · rw [hset]
    exact printable_line key items
  · rw [hset]
    exact parse_line key items

/-- A required import of a name beyond the basic plane. -/
def beyondBasicPlane : Config := { requiredImports := some [.text "import 𠮷"] }

theorem parse_override_beyond :
    (beyondBasicPlane.get .requiredImports = .list (["import 𠮷"].map .text) ∧
      ∀ other, other ≠ .requiredImports → (beyondBasicPlane.get other).obstacle? = none) ∧
    ∃ lines line value, beyondBasicPlane.overrides = .ok lines ∧ line ∈ lines ∧
      line = Key.requiredImports.name ++ " = " ++ value ∧ (∀ d ∈ line.toList, Printable d) ∧
      Toml.parse line.toList =
        if ∀ s ∈ ["import 𠮷"], InBasicPlane s.toList then
          .ok (nest (.list (["import 𠮷"].map .text)) Key.requiredImports.path)
        else .error .malformed := by
  have hset : beyondBasicPlane.get .requiredImports = .list (["import 𠮷"].map .text) := rfl
  have hclear : ∀ other, other ≠ .requiredImports →
      (beyondBasicPlane.get other).obstacle? = none := by
    intro other _
    cases other <;> rfl
  exact ⟨⟨hset, hclear⟩, parse_override hset hclear⟩

theorem overrides_malformed :
    beyondBasicPlane.overrides =
      .ok ["lint.isort.required-imports = [\"import \\ud842\\udfb7\"]"] ∧
    Toml.parse "lint.isort.required-imports = [\"import \\ud842\\udfb7\"]".toList =
      .error .malformed := by
  have hline : "lint.isort.required-imports = [\"import \\ud842\\udfb7\"]" =
      Key.requiredImports.name ++ " = " ++ Json.render .inline (.list (["import 𠮷"].map .text)) := by
    decide
  have hbeyond : ¬ ∀ s ∈ ["import 𠮷"], InBasicPlane s.toList := by decide
  rw [hline]
  refine ⟨rfl, ?_⟩
  rw [parse_line, if_neg hbeyond]

end Config
end TidyImports
