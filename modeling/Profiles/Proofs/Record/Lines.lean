import Profiles.Proofs.Outline.Lines
import Profiles.Query
import Profiles.Recipe

/-!
# Lines of the text of a record

Whatever a record holds, it cannot end a line of its own text. The compact JSON text and the plain text for
debugging are one line, and the other two layouts have as many line breaks as the kind of the record says,
with no other control character in them and none of them at the end (`Record.text_lines`). So a text can be
put on a line of a log, or of a stream of documents, and is read there as one.

A hidden line break could come from a quoted text, from a name or a key, or from the fill of a padded leaf.
The first cannot be, by how texts are quoted; the names and keys of records and the fills of the supported
formats are looked at here.
-/

namespace Profiles

namespace Text

/-- A text without a character below the space. -/
structure OnOneLine (text : String) : Prop where
  visible : ∀ c ∈ text.toList, 0x20 ≤ c.toNat
  unended : text.toList.getLast? ≠ some '\n'

/-- A text in which the only characters below the space are so many line breaks, none of them at its end. -/
structure OnLines (breaks : Nat) (text : String) : Prop where
  visible : ∀ c ∈ text.toList, c.toNat < 0x20 → c = '\n'
  count_eq : text.toList.count '\n' = breaks
  unended : text.toList.getLast? ≠ some '\n'

theorem OnOneLine.of_controls {text : String} (h : controls text.toList = []) : OnOneLine text := by
  have visible := controls_eq_nil_iff.mp h
  refine ⟨visible, fun broken => ?_⟩
  -- a line break is itself such a character
  exact absurd (visible '\n' (List.mem_of_getLast? broken)) (by decide)

theorem OnLines.of_controls {text : String} {count : Nat} {final : Char}
    (h : controls text.toList = breaks true count) (ending : text.toList.getLast? = some final)
    (shown : final ≠ '\n') : OnLines count text := by
  obtain ⟨visible, counted⟩ := controls_eq_breaks h
  refine ⟨visible, counted, fun broken => ?_⟩
  exact shown (Option.some.inj (ending.symm.trans broken))

end Text

/-! ### Names, keys and fills -/

theorem Person.namesInline_outline (person : Person) : person.outline.NamesInline :=
  ⟨rfl, rfl, trivial, rfl, trivial, rfl, trivial, rfl, trivial, trivial⟩

theorem Group.namesInline_outline (group : Group) : group.outline.NamesInline :=
  ⟨rfl, rfl, trivial, rfl, trivial, trivial⟩

theorem Workspace.namesInline_outline (workspace : Workspace) : workspace.outline.NamesInline :=
  ⟨rfl, rfl, trivial, rfl, trivial, trivial⟩

theorem Fixture.namesInline_outline (fixture : Fixture) : fixture.outline.NamesInline :=
  ⟨rfl, rfl, fixture.person.namesInline_outline, rfl, fixture.group.namesInline_outline, rfl,
    fixture.workspace.namesInline_outline, trivial⟩

/-- No name and no key of a record ends a line. -/
theorem Record.namesInline_outline (record : Record) : record.outline.NamesInline := by
  cases record with
  | person p => exact p.namesInline_outline
  | group g => exact g.namesInline_outline
  | workspace w => exact w.namesInline_outline
  | fixture f => exact f.namesInline_outline

/-- A supported specification is read, and its fill is visible. -/
theorem Format.exists_of_supported {spec : String} (supported : spec ∈ supported) :
    ∃ format, ofSpec? spec = some format ∧ 0x20 ≤ format.fill.toNat := by
  have visible : ∀ spec ∈ Format.supported,
      (ofSpec? spec).any fun format => decide (0x20 ≤ format.fill.toNat) := by decide
  obtain ⟨format, read, fill⟩ := (Option.any_eq_true ..).mp (visible spec supported)
  exact ⟨format, read, of_decide_eq_true fill⟩

theorem Format.alternate_eq {spec : String} {format : Format} {flag : Bool}
    (found : (ofSpec? spec).map alternate = some flag) (read : ofSpec? spec = some format) :
    format.alternate = flag := by
  rw [read] at found
  exact Option.some.inj found

/-! ### Records -/

/-- How often the lines of a record break: once after each opening brace, and once after each field. -/
def Kind.lineBreaks : Kind → Nat
  | person => 5
  | group => 3
  | workspace => 3
  | fixture => 15

namespace Record

theorem lineBreaks_outline (record : Record) : record.outline.lineBreaks = record.kind.lineBreaks := by
  cases record <;> rfl

theorem getLast?_render_toJson (record : Record) (layout : Json.Layout) (depth : Nat) :
    (record.outline.toJson.render layout depth).getLast? = some '}' := by
  cases record <;> exact List.getLast?_concat

theorem getLast?_render (record : Record) (format : Format) (depth : Nat) :
    (Debug.render format (.select format) depth record.outline).getLast? = some '}' := by
  have closing : ((Debug.Layout.select format).closing depth).getLast? = some '}' := by
    -- the layout is either of the two, and each of them ends in a brace
    unfold Debug.Layout.select
    split
    · exact List.getLast?_concat
    · rfl
  -- every record has a field, so its text ends in what closes a structure
  have ends (text : List Char) :
      (text ++ (Debug.Layout.select format).closing depth).getLast? = some '}' := by
    rw [List.getLast?_append, closing, Option.some_or]
  cases record <;> exact ends _

theorem controls_json (record : Record) (pretty : Bool) :
    Text.controls (record.outline.json pretty).toList = Text.breaks pretty record.kind.lineBreaks := by
  rw [Outline.toList_json, Json.controls_render_toJson, lineBreaks_outline]

theorem controls_debug (record : Record) {format : Format} (fill : 0x20 ≤ format.fill.toNat) :
    Text.controls (Debug.text format record.outline).toList
      = Text.breaks format.alternate record.kind.lineBreaks := by
  rw [Debug.toList_text, Debug.controls_render fill 0 _ record.namesInline_outline,
    lineBreaks_outline]

/-- **No content can change the lines of a text.** Whatever a record holds, its compact JSON text and its
texts for debugging without the alternate flag are one line. Its pretty JSON text and its texts with that
flag have no control characters but line breaks, as many as its kind says, and do not end in one. -/
theorem text_lines (record : Record) :
    (∃ text, record.answer (.json false) = .ok (.text text) ∧ Text.OnOneLine text) ∧
    (∃ text, record.answer (.json true) = .ok (.text text) ∧
      Text.OnLines record.kind.lineBreaks text) ∧
    ∀ spec ∈ Format.supported, ∃ format text, Format.ofSpec? spec = some format ∧
      record.answer (.debug spec) = .ok (.text text) ∧
      (format.alternate = false → Text.OnOneLine text) ∧
      (format.alternate = true → Text.OnLines record.kind.lineBreaks text) := by
  refine ⟨⟨_, rfl, .of_controls (record.controls_json false)⟩, ⟨_, rfl, ?_⟩, ?_⟩
  · have brace : (record.outline.json true).toList.getLast? = some '}' := by
      -- a document is an object, so the last character is a brace
      rw [Outline.toList_json, getLast?_render_toJson]
    exact .of_controls (record.controls_json true) brace (by decide)
  · intro spec supported
    obtain ⟨format, read, fill⟩ := Format.exists_of_supported supported
    have lines := record.controls_debug fill
    have brace : (Debug.text format record.outline).toList.getLast? = some '}' := by
      rw [Debug.toList_text, getLast?_render]
    refine ⟨format, Debug.text format record.outline, read, by rw [answer, read], ?_, ?_⟩
    · intro plain
      rw [plain] at lines
      exact .of_controls lines
    · intro alternate
      rw [alternate] at lines
      exact .of_controls lines brace (by decide)

/-- A name and a slug with line breaks of their own, in a fixture with a padded age, leave it its lines. -/
theorem text_lines_broken_name :
    let record := (Recipe.fixture "Ann\n\x7b\n" (-1) "\r\n" "\x00\x1b").record
    "#010x?" ∈ Format.supported ∧ "08x?" ∈ Format.supported ∧
      (∃ text, record.answer (.debug "#010x?") = .ok (.text text) ∧ Text.OnLines 15 text) ∧
      ∃ text, record.answer (.debug "08x?") = .ok (.text text) ∧ Text.OnOneLine text := by
  intro record
  have alternate : "#010x?" ∈ Format.supported := by decide
  have plain : "08x?" ∈ Format.supported := by decide
  refine ⟨alternate, plain, ?_, ?_⟩
  · obtain ⟨format, text, read, answered, -, lines⟩ := (text_lines record).2.2 _ alternate
    exact ⟨text, answered, lines (Format.alternate_eq (by decide) read)⟩
  · obtain ⟨format, text, read, answered, line, -⟩ := (text_lines record).2.2 _ plain
    exact ⟨text, answered, line (Format.alternate_eq (by decide) read)⟩

end Record

end Profiles
