import Profiles.Debug
import Profiles.Json.Printer
import Profiles.Proofs.Text.Lines

/-!
# Lines of a rendering

Where the lines of a rendering break is a matter of its structure alone. The JSON text and the text for
debugging of an outline either have no line break at all, or one after each opening brace and one after each
field, `Outline.lineBreaks` together, and in neither case another control character
(`Json.controls_render_toJson`, `Debug.controls_render`).

A rendering that stands one level further in is the same text moved further in, line by line
(`Json.render_succ`, `Debug.render_succ`). That is so because every line break is one of the layout: none
comes out of a leaf, and none out of a key.
-/

namespace Profiles

open Text

namespace Outline

/-! ### Line breaks -/

mutual

/-- How often the lines of an outline break when each field has one of its own. -/
def lineBreaks : Outline → Nat
  | scalar _ => 0
  | struct _ [] => 0
  | struct _ ((_, value) :: fields) => value.lineBreaks + fieldBreaks fields + 2

/-- The line breaks of the fields after the first, each with the one before it. -/
def fieldBreaks : List (String × Outline) → Nat
  | [] => 0
  | (_, value) :: fields => value.lineBreaks + fieldBreaks fields + 1

end

mutual

/-- The names and the keys of an outline have no control characters. -/
def NamesInline : Outline → Prop
  | scalar _ => True
  | struct name fields => controls name.toList = [] ∧ KeysInline fields

/-- No key of some fields has a control character, and no name or key further in. -/
def KeysInline : List (String × Outline) → Prop
  | [] => True
  | (key, value) :: fields => controls key.toList = [] ∧ value.NamesInline ∧ KeysInline fields

end

end Outline

theorem Outline.toList_json (outline : Outline) (pretty : Bool) :
    (outline.json pretty).toList = outline.toJson.render (.select pretty) 0 :=
  String.toList_ofList

theorem Debug.toList_text (format : Format) (outline : Outline) :
    (text format outline).toList = render format (.select format) 0 outline :=
  String.toList_ofList

/-! ### JSON -/

namespace Json

open Outline

variable (pretty : Bool) (depth : Nat)

/-- How many spaces a level is worth. -/
def Layout.step (pretty : Bool) : Nat := if pretty then 2 else 0

theorem Layout.breaksOnce_lineBreak : BreaksOnce pretty (step pretty) (select pretty).lineBreak := by
  cases pretty with
  | false => exact BreaksOnce.never rfl
  | true => exact BreaksOnce.always_of_spaces [] rfl 2 0

theorem Layout.controls_colon : controls (Layout.select pretty).colon = [] := by
  cases pretty <;> rfl

@[simp] theorem controls_renderName (name : String) :
    controls (renderName (.select pretty) name) = [] := by
  rw [renderName, controls_append, Quoted.controls_encode, Layout.controls_colon]
  rfl

theorem indented_renderName (width : Nat) (name : String) :
    indented width (renderName (.select pretty) name) = renderName (.select pretty) name :=
  indented_of_inline (controls_renderName pretty name) width

mutual

/-- **The lines of a JSON text break at its structure alone.** -/
theorem controls_render_toJson (depth : Nat) : (outline : Outline) →
    controls (outline.toJson.render (.select pretty) depth) = breaks pretty outline.lineBreaks
  -- leaves are quoted or drawn from digits, so they count for no line
  | .scalar (.str text) => by simp [toJson, Scalar.toJson, render, lineBreaks]
  | .scalar (.int n) => by simp [toJson, Scalar.toJson, render, lineBreaks]
  | .scalar (.bool b) => by simp [toJson, Scalar.toJson, render, lineBreaks]
  | .struct name [] => by
    rw [toJson, membersOf, render, lineBreaks, breaks_zero]
    rfl
  | .struct name ((key, value) :: fields) => by
    have line := Layout.breaksOnce_lineBreak pretty
    have first := controls_render_toJson (depth + 1) value
    have others := controls_renderMembers (depth + 1) fields
    have brace : controls ['}'] = [] := rfl
    -- the breaks in the order in which they come: the opening, the first member, the others, the closing
    have count : value.lineBreaks + fieldBreaks fields + 2
        = 1 + value.lineBreaks + fieldBreaks fields + 1 := by omega
    rw [toJson, membersOf, render, lineBreaks, count, breaks_add, breaks_add, breaks_add]
    simp only [controls_append, controls_cons (show 0x20 ≤ '{'.toNat by decide), line.controls_eq,
      controls_renderName, first, others, brace, List.append_nil]

/-- The members after the first have each the line break before it. -/
theorem controls_renderMembers (depth : Nat) : (fields : List (String × Outline)) →
    controls (renderMembers (.select pretty) depth (membersOf fields)) = breaks pretty (fieldBreaks fields)
  | [] => by rw [membersOf, renderMembers, fieldBreaks, breaks_zero, controls_nil]
  | (key, value) :: fields => by
    have line := Layout.breaksOnce_lineBreak pretty
    have first := controls_render_toJson depth value
    have others := controls_renderMembers depth fields
    -- the comma is no control, and the line break behind it counts for this member
    have count : value.lineBreaks + fieldBreaks fields + 1
        = 1 + value.lineBreaks + fieldBreaks fields := by omega
    rw [membersOf, renderMembers, fieldBreaks, count, breaks_add, breaks_add]
    simp only [controls_append, controls_cons (show 0x20 ≤ ','.toNat by decide), line.controls_eq,
      controls_renderName, first, others, List.append_nil]

end

mutual

/-- **A document one level further in** is the same document, moved further in. -/
theorem render_succ (depth : Nat) : (value : Json) →
    value.render (.select pretty) (depth + 1)
      = indented (Layout.step pretty) (value.render (.select pretty) depth)
  | null => by rw [render, render]; exact (indented_of_inline rfl _).symm
  | bool b => by rw [render, render, indented_of_inline (controls_boolWord b)]
  | int n => by rw [render, render, indented_of_inline (controls_decimal n)]
  -- the mantissa and the exponent stand on one line
  | decimal mantissa exponent => by
    have inline : controls (Numeral.decimal mantissa ++ 'e' :: Numeral.decimal exponent) = [] := by
      rw [controls_append, controls_cons (by decide), controls_decimal, controls_decimal]
      rfl
    rw [render, render, indented_of_inline inline]
  | str text => by rw [render, render, indented_of_inline (Quoted.controls_encode _)]
  | arr [] => by rw [render, render]; exact (indented_of_inline rfl _).symm
  -- the first item stands behind the bracket, on a line of its own
  | arr (item :: items) => by
    have line := Layout.breaksOnce_lineBreak pretty
    have first := render_succ (depth + 1) item
    have others := renderItems_succ (depth + 1) items
    have bracket : indented (Layout.step pretty) [']'] = [']'] := indented_of_inline rfl _
    rw [render, render]
    simp only [indented_append, indented_cons (show '[' ≠ '\n' by decide), line.indented_eq, first,
      others, bracket]
  | obj [] => by rw [render, render]; exact (indented_of_inline rfl _).symm
  | obj ((name, value) :: members) => by
    have line := Layout.breaksOnce_lineBreak pretty
    have first := render_succ (depth + 1) value
    have others := renderMembers_succ (depth + 1) members
    have brace : indented (Layout.step pretty) ['}'] = ['}'] := indented_of_inline rfl _
    rw [render, render]
    simp only [indented_append, indented_cons (show '{' ≠ '\n' by decide), line.indented_eq,
      indented_renderName, first, others, brace]

theorem renderItems_succ (depth : Nat) : (items : List Json) →
    renderItems (.select pretty) (depth + 1) items
      = indented (Layout.step pretty) (renderItems (.select pretty) depth items)
  | [] => rfl
  | item :: items => by
    have line := Layout.breaksOnce_lineBreak pretty
    have first := render_succ depth item
    have others := renderItems_succ depth items
    -- the comma is no line break, so only the layout and the value are moved
    rw [renderItems, renderItems]
    simp only [indented_append, indented_cons (show ',' ≠ '\n' by decide), line.indented_eq, first,
      others]

theorem renderMembers_succ (depth : Nat) : (members : List (String × Json)) →
    renderMembers (.select pretty) (depth + 1) members
      = indented (Layout.step pretty) (renderMembers (.select pretty) depth members)
  | [] => rfl
  | (name, value) :: members => by
    have line := Layout.breaksOnce_lineBreak pretty
    have first := render_succ depth value
    have others := renderMembers_succ depth members
    rw [renderMembers, renderMembers]
    simp only [indented_append, indented_cons (show ',' ≠ '\n' by decide), line.indented_eq,
      indented_renderName, first, others]

end

end Json

/-! ### Texts for debugging -/

namespace Format

variable {format : Format}

theorem controls_pad (fill : 0x20 ≤ format.fill.toNat) (side : Align) {text : List Char}
    (inline : controls text = []) : controls (format.pad side text) = [] := by
  have filled (count : Nat) : controls (List.replicate count format.fill) = [] :=
    controls_replicate fill count
  unfold pad
  cases format.align.getD side with
  | left | right | center => simp only [controls_append, inline, filled, List.append_nil]

theorem controls_digits (format : Format) (n : Int64) : controls (format.digits n) = [] := by
  -- digits are visible, whichever letters are used
  rw [controls_eq_nil_iff]
  intro c hc
  exact visible_of_hexDigit (isSome_of_mem_digits hc)

theorem controls_sign (format : Format) (negative : Bool) : controls (format.sign negative) = [] := by
  unfold sign
  split
  · rfl
  · split <;> rfl

theorem controls_mark (format : Format) : controls format.mark = [] := by
  unfold mark
  split <;> rfl

/-- A number stays on its line when the fill does. -/
theorem controls_int (fill : 0x20 ≤ format.fill.toNat) (n : Int64) : controls (format.int n) = [] := by
  have sign := format.controls_sign (n < 0)
  have mark := format.controls_mark
  have digits := format.controls_digits n
  unfold int
  split
  · have zeros (count : Nat) : controls (List.replicate count '0') = [] :=
      controls_replicate (by decide) count
    simp only [controls_append, sign, mark, digits, zeros, List.append_nil]
  · refine controls_pad fill .right ?_
    simp only [controls_append, sign, mark, digits, List.append_nil]

theorem controls_bool (fill : 0x20 ≤ format.fill.toNat) (b : Bool) : controls (format.bool b) = [] := by
  refine controls_pad fill .left ?_
  unfold cut
  split
  · exact controls_boolWord b
  · exact controls_take (controls_boolWord b) _

/-- **A leaf stays on its line**, whatever the flags. -/
theorem controls_scalar (fill : 0x20 ≤ format.fill.toNat) (value : Scalar) :
    controls (format.scalar value) = [] := by
  cases value with
  | str text => exact Literal.controls_encode text.toList
  | int n => exact controls_int fill n
  | bool b => exact controls_bool fill b

end Format

namespace Debug

open Outline

variable {format : Format}

/-- How many spaces a level is worth. -/
def Layout.step (format : Format) : Nat := if format.alternate then 4 else 0

/-- What follows the name of a structure breaks its line. -/
theorem Layout.breaksOnce_opening (format : Format) :
    BreaksOnce format.alternate (step format) (select format).opening := by
  unfold select step
  -- without the flag no piece has a break, with it each has one
  cases format.alternate with
  | false => exact BreaksOnce.never rfl
  | true => exact BreaksOnce.always_of_spaces [' ', '{'] rfl 4 1

theorem Layout.breaksOnce_between (format : Format) :
    BreaksOnce format.alternate (step format) (select format).between := by
  unfold select step
  cases format.alternate with
  | false => exact BreaksOnce.never rfl
  | true => exact BreaksOnce.always_of_spaces [','] rfl 4 1

theorem Layout.breaksOnce_closing (format : Format) :
    BreaksOnce format.alternate (step format) (select format).closing := by
  unfold select step
  cases format.alternate with
  | false => exact BreaksOnce.never rfl
  | true => exact BreaksOnce.always [','] ['}'] rfl rfl 4 0

theorem controls_renderKey {key : String} (inline : controls key.toList = []) :
    controls (renderKey key) = [] := by
  rw [renderKey, controls_append, inline]
  rfl

mutual

/-- **The lines of a text for debugging break at its structure alone.** -/
theorem controls_render (fill : 0x20 ≤ format.fill.toNat) (depth : Nat) : (outline : Outline) →
    outline.NamesInline →
    controls (render format (.select format) depth outline) = breaks format.alternate outline.lineBreaks
  | .scalar value, _ => by
    rw [render, lineBreaks, breaks_zero, Format.controls_scalar fill]
  | .struct name [], named => by
    rw [render, lineBreaks, breaks_zero, named.1]
  | .struct name ((key, value) :: fields), ⟨named, keyed, inside, rest⟩ => by
    have opening := Layout.breaksOnce_opening format
    have closing := Layout.breaksOnce_closing format
    have first := controls_render fill (depth + 1) value inside
    have others := controls_renderFields fill depth fields rest
    -- the same order as in the document: opening, first field, others, closing
    have count : value.lineBreaks + fieldBreaks fields + 2
        = 1 + value.lineBreaks + fieldBreaks fields + 1 := by omega
    rw [render, lineBreaks, count, breaks_add, breaks_add, breaks_add]
    simp only [controls_append, named, opening.controls_eq, controls_renderKey keyed, first, others,
      closing.controls_eq, List.nil_append, List.append_nil]

theorem controls_renderFields (fill : 0x20 ≤ format.fill.toNat) (depth : Nat) :
    (fields : List (String × Outline)) → KeysInline fields →
    controls (renderFields format (.select format) depth fields)
      = breaks format.alternate (fieldBreaks fields)
  | [], _ => by rw [renderFields, fieldBreaks, breaks_zero, controls_nil]
  | (key, value) :: fields, ⟨keyed, inside, rest⟩ => by
    have between := Layout.breaksOnce_between format
    have first := controls_render fill (depth + 1) value inside
    have others := controls_renderFields fill depth fields rest
    have count : value.lineBreaks + fieldBreaks fields + 1
        = 1 + value.lineBreaks + fieldBreaks fields := by omega
    rw [renderFields, fieldBreaks, count, breaks_add, breaks_add]
    simp only [controls_append, between.controls_eq, controls_renderKey keyed, first, others,
      List.append_nil]

end

mutual

/-- **A text for debugging one level further in** is the same text, moved further in. -/
theorem render_succ (fill : 0x20 ≤ format.fill.toNat) (depth : Nat) : (outline : Outline) →
    outline.NamesInline →
    render format (.select format) (depth + 1) outline
      = indented (Layout.step format) (render format (.select format) depth outline)
  | .scalar value, _ => by
    rw [render, render, indented_of_inline (Format.controls_scalar fill value)]
  | .struct name [], named => by
    rw [render, render, indented_of_inline named.1]
  | .struct name ((key, value) :: fields), ⟨named, keyed, inside, rest⟩ => by
    have opening := Layout.breaksOnce_opening format
    have closing := Layout.breaksOnce_closing format
    have first := render_succ fill (depth + 1) value inside
    have others := renderFields_succ fill depth fields rest
    -- each piece is moved by itself, and those that break a line have their next level
    rw [render, render]
    simp only [indented_append, indented_of_inline named, opening.indented_eq,
      indented_of_inline (controls_renderKey keyed), first, others, closing.indented_eq]

theorem renderFields_succ (fill : 0x20 ≤ format.fill.toNat) (depth : Nat) :
    (fields : List (String × Outline)) → KeysInline fields →
    renderFields format (.select format) (depth + 1) fields
      = indented (Layout.step format) (renderFields format (.select format) depth fields)
  | [], _ => rfl
  | (key, value) :: fields, ⟨keyed, inside, rest⟩ => by
    have between := Layout.breaksOnce_between format
    have first := render_succ fill (depth + 1) value inside
    have others := renderFields_succ fill depth fields rest
    rw [renderFields, renderFields]
    simp only [indented_append, between.indented_eq, indented_of_inline (controls_renderKey keyed),
      first, others]

end

end Debug

end Profiles
