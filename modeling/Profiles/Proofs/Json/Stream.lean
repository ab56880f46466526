import Profiles.Proofs.Record.Calls

/-!
# Printing and writing agree

The JSON text of a record can be written from the calls of its serialization as they come, without the tree. The
`Writer` takes one call at a time and keeps, besides the text so far, only a stack with an entry for each open
structure: whether that structure still waits for its first field. The length of the stack is the level, and the entry
on top decides about the comma. It breaks its lines by itself and shares nothing with the printer of values but the
way in which a text and a number are spelled. A call that has no place, a field or an end outside every structure, is
refused.

The writer ends with the text that the printer makes of the whole tree (`Record.write_calls`). What carries the
induction is the place of an outline in the stream: wherever its calls begin, with whatever text written and
whatever structures open, they add the text of its document at the level that the stack has, and leave the stack as
it was.
-/

namespace Profiles

/-! ### The writer -/

namespace Json

/-- The text of a scalar. -/
def scalarText : Scalar → List Char
  | .str text => Quoted.encode text.toList
  | .int value => Numeral.ofInt64 value
  | .bool value => Text.boolWord value

/-- A writer of a document. -/
structure Writer where
  /-- What is written so far. -/
  text : List Char
  /-- For each open structure, the innermost first, whether it waits for its first field. -/
  fresh : List Bool

namespace Writer

/-- What comes before a field or a closing mark that stands in so many structures: in a pretty document a
new line with two spaces for each of them. -/
def lineStart (pretty : Bool) (level : Nat) : List Char :=
  if pretty then '\n' :: (List.replicate level [' ', ' ']).flatten else []

/-- A key and what divides it from its value. -/
def keyText (pretty : Bool) (key : String) : List Char :=
  Quoted.encode key.toList ++ if pretty then [':', ' '] else [':']

/-- **One call is written.** -/
def step (pretty : Bool) : Writer → Event → Option Writer
  | ⟨text, stack⟩, .scalar value => some ⟨text ++ scalarText value, stack⟩
  | ⟨text, stack⟩, .enter _ _ => some ⟨text ++ ['{'], true :: stack⟩
  | ⟨text, first :: stack⟩, .field key =>
    some ⟨text ++ (if first then [] else [',']) ++ lineStart pretty (stack.length + 1)
      ++ keyText pretty key, false :: stack⟩
  -- a structure without fields closes on the line on which it was opened
  | ⟨text, first :: stack⟩, .leave =>
    some ⟨text ++ (if first then [] else lineStart pretty stack.length) ++ ['}'], stack⟩
  | _, _ => none

/-- A writer that has written nothing. -/
def start : Writer := ⟨[], []⟩

/-- The writer after a stream of calls. -/
def run (pretty : Bool) (calls : List Event) : Option Writer := calls.foldlM (step pretty) start

open Outline

/-! ### Pieces -/

/-- The lines of the writer start like those of the printer. -/
theorem lineStart_eq (pretty : Bool) (level : Nat) :
    lineStart pretty level = (Layout.select pretty).lineBreak level := by
  -- on one line there is nothing to start with; else two spaces for each level come to twice as many spaces
  cases pretty with
  | false => rfl
  | true =>
    show '\n' :: (List.replicate level (List.replicate 2 ' ')).flatten = _
    rw [List.flatten_replicate_replicate, Nat.mul_comm]
    rfl

theorem keyText_eq (pretty : Bool) (key : String) :
    keyText pretty key = renderName (.select pretty) key := by
  cases pretty <;> rfl

theorem scalarText_eq (pretty : Bool) (depth : Nat) (value : Scalar) :
    scalarText value = value.toJson.render (.select pretty) depth := by
  cases value with
  | str text => rw [Scalar.toJson, render]; rfl
  | int n => rw [Scalar.toJson, render]; rfl
  | bool b => rw [Scalar.toJson, render]; rfl

/-! ### One call at a time -/

variable {pretty : Bool} {text : List Char} {stack : List Bool}

theorem step_enter (name : String) (size : Nat) :
    step pretty ⟨text, stack⟩ (.enter name size) = some ⟨text ++ ['{'], true :: stack⟩ := rfl

/-- The first field of a structure comes without a comma. -/
theorem step_field_first (key : String) :
    step pretty ⟨text, true :: stack⟩ (.field key)
      = some ⟨text ++ (Layout.select pretty).lineBreak (stack.length + 1)
          ++ renderName (.select pretty) key, false :: stack⟩ := by
  rw [step, lineStart_eq, keyText_eq]
  simp

/-- Any other field comes with one. -/
theorem step_field (key : String) :
    step pretty ⟨text, false :: stack⟩ (.field key)
      = some ⟨text ++ ',' :: (Layout.select pretty).lineBreak (stack.length + 1)
          ++ renderName (.select pretty) key, false :: stack⟩ := by
  rw [step, lineStart_eq, keyText_eq]
  simp

/-- A structure with fields ends on a line of its own. -/
theorem step_leave :
    step pretty ⟨text, false :: stack⟩ .leave
      = some ⟨text ++ (Layout.select pretty).lineBreak stack.length ++ ['}'], stack⟩ := by
  rw [step, lineStart_eq]
  simp

/-! ### A whole outline -/

mutual

/-- **The calls of an outline write its document**, at the level at which they come. -/
theorem foldlM_events (text : List Char) (stack : List Bool) : (outline : Outline) →
    outline.events.foldlM (step pretty) ⟨text, stack⟩
      = some ⟨text ++ outline.toJson.render (.select pretty) stack.length, stack⟩
  | scalar value => by
    rw [toJson, ← scalarText_eq]
    rfl
  | struct name [] => by
    -- the flag is still up, so the brace closes where it was opened
    rw [toJson, membersOf, render, events, fieldEvents]
    simp [step]
  | struct name ((key, value) :: fields) => by
    -- the first field finds its structure waiting, all others are written by the lemma below
    simp only [events, fieldEvents, List.cons_append, List.foldlM_cons, List.foldlM_append, step_enter,
      step_field_first, foldlM_events _ _ value, foldlM_fieldEvents _ stack fields, step_leave,
      Option.bind_eq_bind, Option.bind_some, List.foldlM_nil]
    simp [toJson, membersOf, render]

/-- The calls of the fields after the first add them as further members. -/
theorem foldlM_fieldEvents (text : List Char) (stack : List Bool) :
    (fields : List (String × Outline)) →
    (fieldEvents fields).foldlM (step pretty) ⟨text, false :: stack⟩
      = some ⟨text ++ renderMembers (.select pretty) (stack.length + 1) (membersOf fields),
          false :: stack⟩
  | [] => by simp [fieldEvents, membersOf, renderMembers]
  -- the structure has had a field, so the key comes with a comma; then the value, then the other fields
  | (key, value) :: fields => by
    simp only [fieldEvents, List.foldlM_cons, List.foldlM_append, step_field, foldlM_events _ _ value,
      foldlM_fieldEvents _ stack fields, Option.bind_eq_bind, Option.bind_some]
    simp [membersOf, renderMembers]

end

end Writer

end Json

/-- **The JSON text of a record is a rendering of its calls.** For every record and in both layouts, the
writer that takes the calls of the serialization one by one ends with nothing open, and with the text that
the query for JSON answers. -/
theorem Record.write_calls (record : Record) (pretty : Bool) :
    ∃ calls text, record.answer (.calls none) = .ok (.events calls) ∧
      record.answer (.json pretty) = .ok (.text text) ∧
      Json.Writer.run pretty calls = some ⟨text.toList, []⟩ := by
  refine ⟨record.outline.events, record.outline.json pretty, ?_, rfl, ?_⟩
  -- without a budget the calls are the whole stream
  · rw [answer, Outline.transcript_unlimited]
  -- the writer starts at the outermost level with nothing open, and ends there
  · rw [Json.Writer.run, Json.Writer.start, Json.Writer.foldlM_events, Outline.json,
      String.toList_ofList]
    rfl

end Profiles
