import Profiles.Proofs.Record.Lines

/-!
# One layout from the other

The alternate layout of a text for debugging says the same as the plain one. Its lines, without their
indentation and without the comma at the end of each field, joined by the spaces and commas of the plain
layout, are the plain text (`Record.joinLines?_text`), under all flags that write the leaves alike, which leaves
out hexadecimal numbers with their mark.

`Debug.joinLines?` goes this way back, and looks at the text alone. A line is told by its ends (`Line.read?`): one that
closes a structure holds nothing but its brace, one that opens a structure ends with a brace, and every other holds a
field and ends with its comma. A text whose lines are not such, are not indented by the level at which they stand, or
leave a structure open, is not joined.

So there are three sorts of lines, whatever a leaf in between holds, and what closes a structure has its
brace where the fields inside still have spaces. An outline is gone through line by line
(`Debug.joins_render`), with the text behind it left open: a field that holds a structure takes as many lines
as the structure has, and leaves the reader at the level at which it found him.
-/

namespace Profiles

/-! ### Joining lines -/

namespace Debug

/-- What a line says that stands in a structure, without its indentation and the comma of a field. -/
inductive Line where
  | closing
  | opening (text : List Char)
  | field (text : List Char)

/-- The brace that closes a structure which stands `depth` levels in; further in, it ends a field. -/
def closer (depth : Nat) : List Char := if depth = 0 then ['}'] else ['}', ',']

/-- What follows the indentation of a level. -/
def unindent? (depth : Nat) (line : List Char) : Option (List Char) :=
  if line.take (4 * depth) = indent depth then some (line.drop (4 * depth)) else none

/-- **A line of a structure** that stands `depth` levels in. -/
def Line.read? (depth : Nat) (line : List Char) : Option Line :=
  -- the brace stands one level further out than the fields
  if line = indent depth ++ closer depth then some .closing
  else (unindent? (depth + 1) line).bind fun content =>
    if content.getLast? = some '{' then some (.opening content)
    else if content.getLast? = some ',' then some (.field content.dropLast)
    else none

/-- What the plain layout puts before a field: a space before the first of a structure, a comma and a space
before any other. -/
def separator (first : Bool) : List Char := if first then [' '] else [',', ' ']

/-- The rest of the lines on one line, from inside `depth` structures to the end of the outermost; `first` tells
whether the innermost has no field yet. -/
def joinFrom? : Nat → Bool → List (List Char) → Option (List Char)
  | 0, _, [] => some []
  | depth + 1, first, line :: rest =>
    match Line.read? depth line with
    | some .closing => (joinFrom? depth false rest).map ([' ', '}'] ++ ·)
    | some (.opening text) => (joinFrom? (depth + 2) true rest).map (separator first ++ text ++ ·)
    | some (.field text) => (joinFrom? (depth + 1) false rest).map (separator first ++ text ++ ·)
    | none => none
  | _, _, _ => none

/-- **A text of many lines on one.** The first line is taken as it is, and opens a structure if others follow. -/
def joinLines? (text : List Char) : Option (List Char) :=
  match text.splitOn '\n' with
  | [] => none
  | line :: rest =>
    if rest = [] then some line
    else if line.getLast? = some '{' then (joinFrom? 1 true rest).map (line ++ ·)
    else none

end Debug

open Text

/-! ### Leaves without a line break -/

namespace Text

theorem newline_notMem_of_controls {text : List Char} (inline : controls text = []) : '\n' ∉ text := by
  intro broken
  exact absurd (controls_eq_nil_iff.mp inline '\n' broken) (by decide)

end Text

namespace Format

variable {format : Format}

/-- The same flags with or without the alternate one. -/
def withAlternate (format : Format) (alternate : Bool) : Format := { format with alternate := alternate }

/-- A decimal leaf does not depend on the alternate flag. -/
theorem scalar_withAlternate (decimal : format.hex = none) (alternate : Bool) (value : Scalar) :
    (format.withAlternate alternate).scalar value = format.scalar value := by
  obtain ⟨fill, align, plus, flag, zero, width, precision, hex⟩ := format
  obtain rfl : hex = none := decimal
  -- the flag is looked at for the mark only, which decimal numbers do not have
  cases value with
  | str text => rfl
  | int n => rfl
  | bool b => rfl

/-- What is padded with no line break has none more than before. -/
theorem newline_notMem_pad (fill : format.fill ≠ '\n') (side : Align) {text : List Char}
    (inline : '\n' ∉ text) : '\n' ∉ format.pad side text := by
  have filled (count : Nat) : '\n' ∉ List.replicate count format.fill := by
    intro broken
    exact fill (List.eq_of_mem_replicate broken).symm
  unfold pad
  cases format.align.getD side with
  | left | right | center => simp only [List.mem_append, inline, filled, or_self, not_false_eq_true]

/-- **A leaf has no line break**, unless it is filled with them. -/
theorem newline_notMem_scalar (fill : format.fill ≠ '\n') (value : Scalar) : '\n' ∉ format.scalar value := by
  -- a quoted text has its line breaks escaped, and the other leaves are drawn from a few characters
  cases value with
  | str text => exact newline_notMem_of_controls (Literal.controls_encode text.toList)
  | int n =>
    have sign := newline_notMem_of_controls (format.controls_sign (n < 0))
    have mark := newline_notMem_of_controls format.controls_mark
    have digits := newline_notMem_of_controls (format.controls_digits n)
    show '\n' ∉ format.int n
    unfold int
    split
    · have zeros (count : Nat) : '\n' ∉ List.replicate count '0' :=
        newline_notMem_of_controls (controls_replicate (by decide) count)
      simp only [List.mem_append, sign, mark, digits, zeros, or_self, not_false_eq_true]
    · refine newline_notMem_pad fill .right ?_
      simp only [List.mem_append, sign, mark, digits, or_self, not_false_eq_true]
  | bool b =>
    refine newline_notMem_pad fill .left (newline_notMem_of_controls ?_)
    unfold cut
    -- a word may be cut short, but nothing comes into it
    split
    · exact controls_boolWord b
    · exact controls_take (controls_boolWord b) _

end Format

namespace Debug

open Outline

/-! ### Lines -/

theorem unindent?_append (depth : Nat) (text : List Char) :
    unindent? depth (indent depth ++ text) = some text := by
  have length : (indent depth).length = 4 * depth := List.length_replicate
  rw [unindent?, List.take_left' length, if_pos rfl, List.drop_left' length]

/-- A line of the fields of a structure does not close it: it has spaces where the brace would be. -/
theorem indent_append_ne_closer (depth : Nat) (text : List Char) :
    indent (depth + 1) ++ text ≠ indent depth ++ closer depth := by
  have further : indent (depth + 1) = indent depth ++ [' ', ' ', ' ', ' '] :=
    List.replicate_append_replicate (n := 4 * depth) (m := 4).symm
  intro same
  rw [further, List.append_assoc, List.append_cancel_left_eq] at same
  have head := congrArg List.head? same
  -- where the brace would be, the line still has a space
  unfold closer at head
  split at head <;> cases head

namespace Line

variable (depth : Nat) (text : List Char)

theorem read?_closer : read? depth (indent depth ++ closer depth) = some .closing := by
  rw [read?, if_pos rfl]

theorem read?_opening : read? depth (indent (depth + 1) ++ (text ++ ['{'])) = some (.opening (text ++ ['{'])) := by
  rw [read?, if_neg (indent_append_ne_closer depth _), unindent?_append, Option.bind_some,
    if_pos List.getLast?_concat]

theorem read?_field : read? depth (indent (depth + 1) ++ (text ++ [','])) = some (.field text) := by
  have last : (text ++ [',']).getLast? = some ',' := List.getLast?_concat
  rw [read?, if_neg (indent_append_ne_closer depth _), unindent?_append, Option.bind_some, last,
    if_neg (by decide), if_pos rfl, List.dropLast_concat]

end Line

/-! ### Fields -/

theorem newline_notMem_indent (depth : Nat) : '\n' ∉ indent depth :=
  newline_notMem_of_controls (controls_replicate (by decide) _)

theorem newline_notMem_closer (depth : Nat) : '\n' ∉ closer depth := by
  unfold closer
  split
  · decide
  · decide

/-- The text of some fields of a structure that stands `depth` levels in, in the alternate layout, is joined to
their text in the plain one: behind the indentation of its first line it is read up to the comma that ends the
last field, and the lines behind that are still to come. -/
def Joins (depth : Nat) (broken line : List Char) : Prop :=
  ∀ (first : Bool) (rest : List Char),
    joinFrom? (depth + 1) first ((indent (depth + 1) ++ broken ++ ',' :: '\n' :: rest).splitOn '\n') =
      (joinFrom? (depth + 1) false (rest.splitOn '\n')).map (separator first ++ line ++ ·)

namespace Joins

variable {depth : Nat} {broken line broken' line' head : List Char}

/-- A field on one line. -/
theorem leaf (inline : '\n' ∉ head) : Joins depth head head := by
  intro first rest
  have noBreak : '\n' ∉ indent (depth + 1) ++ (head ++ [',']) := by
    simp [newline_notMem_indent, inline]
  have text : indent (depth + 1) ++ head ++ ',' :: '\n' :: rest
      = indent (depth + 1) ++ (head ++ [',']) ++ '\n' :: rest := by simp
  rw [text, List.splitOn_append_cons_self_of_not_mem noBreak, joinFrom?, Line.read?_field]

/-- Fields behind others. -/
theorem between (h : Joins depth broken line) (h' : Joins depth broken' line') :
    Joins depth (broken ++ Layout.alternate.between depth ++ broken')
      (line ++ Layout.plain.between depth ++ line') := by
  intro first rest
  have text : indent (depth + 1) ++ (broken ++ Layout.alternate.between depth ++ broken') ++ ',' :: '\n' :: rest
      = indent (depth + 1) ++ broken ++ ',' :: '\n' :: (indent (depth + 1) ++ broken' ++ ',' :: '\n' :: rest) := by
    simp [Layout.alternate]
  -- what is behind the first fields starts with the line of the others
  rw [text, h first, h' false, Option.map_map]
  simp [Layout.plain, separator, Function.comp_def]

/-- What stands in a structure, with the brace that closes it. -/
theorem inside (h : Joins depth broken line) (rest : List (List Char)) {closing : List Char}
    (split : closing.splitOn '\n' = (indent depth ++ closer depth) :: rest) :
    joinFrom? (depth + 1) true ((indent (depth + 1) ++ broken ++ ',' :: '\n' :: closing).splitOn '\n') =
      (joinFrom? depth false rest).map ([' '] ++ line ++ [' ', '}'] ++ ·) := by
  rw [h true, split, joinFrom?, Line.read?_closer, Option.map_map]
  simp [separator, Function.comp_def]

/-- A field that is a structure with fields. -/
theorem struct (inline : '\n' ∉ head) (h : Joins (depth + 1) broken line) :
    Joins depth (head ++ Layout.alternate.opening (depth + 1) ++ broken ++ Layout.alternate.closing (depth + 1))
      (head ++ Layout.plain.opening (depth + 1) ++ line ++ Layout.plain.closing (depth + 1)) := by
  intro first rest
  -- the structure takes a line of its own to open, and one to close
  have clearOpening : '\n' ∉ indent (depth + 1) ++ (head ++ [' '] ++ ['{']) := by
    simp [newline_notMem_indent, inline]
  have clearClosing : '\n' ∉ indent (depth + 1) ++ closer (depth + 1) := by
    simp [newline_notMem_indent, newline_notMem_closer]
  have text : indent (depth + 1)
        ++ (head ++ Layout.alternate.opening (depth + 1) ++ broken ++ Layout.alternate.closing (depth + 1))
        ++ ',' :: '\n' :: rest
      = indent (depth + 1) ++ (head ++ [' '] ++ ['{']) ++ '\n' :: (indent (depth + 2) ++ broken
        ++ ',' :: '\n' :: (indent (depth + 1) ++ closer (depth + 1) ++ '\n' :: rest)) := by
    simp [Layout.alternate, closer]
  -- the comma behind its brace ends the structure as a field of the one around it
  rw [text, List.splitOn_append_cons_self_of_not_mem clearOpening, joinFrom?, Line.read?_opening]
  simp only [h.inside _ (List.splitOn_append_cons_self_of_not_mem clearClosing rest), Option.map_map]
  simp [Layout.plain, Function.comp_def]

end Joins

theorem joinLines?_of_notMem {line : List Char} (inline : '\n' ∉ line) : joinLines? line = some line := by
  have alone : line.splitOn '\n' = [line] := List.splitOn_eq_singleton inline
  rw [joinLines?, alone]
  exact if_pos rfl

/-- A structure with fields that holds everything else. -/
theorem joinLines?_struct {broken line name : List Char} (inline : '\n' ∉ name) (h : Joins 0 broken line) :
    joinLines? (name ++ Layout.alternate.opening 0 ++ broken ++ Layout.alternate.closing 0) =
      some (name ++ Layout.plain.opening 0 ++ line ++ Layout.plain.closing 0) := by
  have clearOpening : '\n' ∉ name ++ [' '] ++ ['{'] := by
    simp [inline]
  have text : name ++ Layout.alternate.opening 0 ++ broken ++ Layout.alternate.closing 0
      = name ++ [' '] ++ ['{'] ++ '\n' :: (indent 1 ++ broken ++ ',' :: '\n' :: (indent 0 ++ closer 0)) := by
    simp [Layout.alternate, closer]
  -- the last brace has no comma, and no line comes after it
  have last : (indent 0 ++ closer 0).splitOn '\n' = [indent 0 ++ closer 0] := rfl
  rw [text, joinLines?, List.splitOn_append_cons_self_of_not_mem clearOpening]
  simp only [List.splitOn_ne_nil, if_false, List.getLast?_concat, if_true, h.inside [] last, joinFrom?, Option.map_some]
  simp [Layout.plain]

/-! ### Outlines -/

/-- Two sets of flags that write each leaf alike, and without a line break. -/
structure SameLeaves (broken line : Format) : Prop where
  alike : ∀ value, broken.scalar value = line.scalar value
  inline : ∀ value, '\n' ∉ line.scalar value

section

variable {broken line : Format}

mutual

/-- **The text of a field is joined**, whatever stands in front of its value. -/
theorem joins_render (leaves : SameLeaves broken line) (depth : Nat) {head : List Char}
    (clear : '\n' ∉ head) :
    (outline : Outline) → outline.NamesInline →
    Joins depth (head ++ render broken .alternate (depth + 1) outline)
      (head ++ render line .plain (depth + 1) outline)
  | .scalar value, _ => by
    rw [render, render, leaves.alike]
    refine .leaf ?_
    simp [clear, leaves.inline]
  -- an empty structure is its name, which stands on that line too
  | .struct name [], named => by
    rw [render, render]
    refine .leaf ?_
    simp [clear, newline_notMem_of_controls named.1]
  | .struct name ((key, value) :: fields), ⟨named, keyed, inside, rest⟩ => by
    -- the line that opens the structure starts with the key in front of it
    have clearHead : '\n' ∉ head ++ name.toList := by
      simp [clear, newline_notMem_of_controls named]
    have clearKey := newline_notMem_of_controls (controls_renderKey keyed)
    have first := joins_render leaves (depth + 1) clearKey value inside
    have all := joins_renderFields leaves (depth + 1) first fields rest
    simpa [render] using Joins.struct clearHead all

/-- Fields are joined to those in front of them. -/
theorem joins_renderFields (leaves : SameLeaves broken line) (depth : Nat) {front front' : List Char}
    (h : Joins depth front front') :
    (fields : List (String × Outline)) → KeysInline fields →
    Joins depth (front ++ renderFields broken .alternate depth fields)
      (front' ++ renderFields line .plain depth fields)
  | [], _ => by
    rw [renderFields, renderFields, List.append_nil, List.append_nil]
    exact h
  -- the next field goes behind those that have been joined already
  | (key, value) :: fields, ⟨keyed, inside, rest⟩ => by
    have clearKey := newline_notMem_of_controls (controls_renderKey keyed)
    have next := h.between (joins_render leaves depth clearKey value inside)
    have all := joins_renderFields leaves depth next fields rest
    simpa [renderFields] using all

end

/-- **The text of an outline is joined.** -/
theorem joinLines?_render (leaves : SameLeaves broken line) (outline : Outline) (named : outline.NamesInline) :
    joinLines? (render broken .alternate 0 outline) = some (render line .plain 0 outline) := by
  cases outline with
  | scalar value =>
    rw [render, render, leaves.alike]
    exact joinLines?_of_notMem (leaves.inline value)
  | struct name fields =>
    obtain ⟨clear, keyed⟩ := named
    have clearName := newline_notMem_of_controls clear
    cases fields with
    | nil =>
      rw [render, render]
      exact joinLines?_of_notMem clearName
    -- the first field has nothing in front of it, and the others are joined to it one by one
    | cons field fields =>
      obtain ⟨key, value⟩ := field
      obtain ⟨keyed, inside, rest⟩ := keyed
      have clearKey := newline_notMem_of_controls (controls_renderKey keyed)
      have first := joins_render leaves 0 clearKey value inside
      have all := joins_renderFields leaves 0 first fields rest
      simpa [render] using joinLines?_struct clearName all

end

end Debug

/-! ### Records -/

theorem Format.sameLeaves {format : Format} (decimal : format.hex = none) (fill : format.fill ≠ '\n') :
    Debug.SameLeaves (format.withAlternate true) (format.withAlternate false) where
  alike value := by
    rw [scalar_withAlternate decimal true, scalar_withAlternate decimal false]
  inline value := by
    rw [scalar_withAlternate decimal false]
    exact newline_notMem_scalar fill value

/-- **The alternate text is the plain one on many lines.** For every record and all flags that leave the numbers
decimal and do not fill with line breaks, the lines of the alternate text, without their indentation and the
commas at their ends and joined as the fields and braces of the plain layout are, give the plain text. -/
theorem Record.joinLines?_text (record : Record) {format : Format} (decimal : format.hex = none)
    (fill : format.fill ≠ '\n') :
    Debug.joinLines? (Debug.text (format.withAlternate true) record.outline).toList =
      some (Debug.text (format.withAlternate false) record.outline).toList := by
  rw [Debug.toList_text, Debug.toList_text]
  exact Debug.joinLines?_render (Format.sameLeaves decimal fill) record.outline record.namesInline_outline

/-- Braces, commas and line breaks in a fixture, and a fill that looks like the end of a structure. -/
theorem Record.joinLines?_text_braces :
    let record := Record.fixture ⟨.new "\x7b\n    \x7d," (-7) "a: \x7b", .new, .new "\x7d"⟩
    let format : Format := ⟨'\x7d', some .right, true, true, false, 9, some 2, none⟩
    format.hex = none ∧ format.fill ≠ '\n' ∧
      Debug.joinLines? (Debug.text (format.withAlternate true) record.outline).toList =
        some (Debug.text (format.withAlternate false) record.outline).toList := by
  intro record format
  have fill : format.fill ≠ '\n' := by decide
  exact ⟨rfl, fill, record.joinLines?_text rfl fill⟩

end Profiles
