import Profiles.Json.Quoted
import Profiles.Proofs.Debug.Number

/-!
# Lines of a text

What can end a line, or do other things than be read, lies below the space. `Text.controls` picks those
characters out of a text, so one equation says both which of them a text holds and how many: a text on one
line has no controls, and one of several lines has line breaks and nothing else (`Text.breaks`).

A text moves further in when spaces are put after each of its line breaks (`Text.indented`). One without
controls has no line break, so it stays as it is.

Neither way of quoting a text lets a control character through, whatever is quoted, and digits are visible;
so the leaves of every rendering stay on their line.
-/

namespace Profiles

namespace Text

/-! ### Characters below the space -/

/-- The characters of a text that lie below the space. -/
def controls (text : List Char) : List Char := text.filter fun c => c.toNat < 0x20

@[simp] theorem controls_nil : controls [] = [] := rfl

@[simp] theorem controls_append (text rest : List Char) :
    controls (text ++ rest) = controls text ++ controls rest :=
  List.filter_append ..

theorem controls_eq_nil_iff {text : List Char} : controls text = [] ↔ ∀ c ∈ text, 0x20 ≤ c.toNat := by
  rw [controls, List.filter_eq_nil_iff]
  simp only [decide_eq_true_eq, Nat.not_lt]

/-- A character in front that does not lie below the space is not seen. -/
theorem controls_cons {c : Char} (visible : 0x20 ≤ c.toNat) (text : List Char) :
    controls (c :: text) = controls text := by
  rw [controls, List.filter_cons_of_neg]
  · rfl
  · simpa using visible

theorem controls_newline (text : List Char) : controls ('\n' :: text) = '\n' :: controls text := rfl

theorem controls_replicate {c : Char} (visible : 0x20 ≤ c.toNat) (count : Nat) :
    controls (List.replicate count c) = [] := by
  rw [controls_eq_nil_iff]
  intro d hd
  rwa [List.eq_of_mem_replicate hd]

/-- A part of a text has no more controls than the whole. -/
theorem controls_take {text : List Char} (inline : controls text = []) (count : Nat) :
    controls (text.take count) = [] := by
  rw [controls_eq_nil_iff] at inline ⊢
  intro c hc
  exact inline c (List.mem_of_mem_take hc)

/-- The line breaks of a text that has so many, if it may have any. -/
def breaks (allowed : Bool) (count : Nat) : List Char :=
  if allowed then List.replicate count '\n' else []

@[simp] theorem breaks_zero (allowed : Bool) : breaks allowed 0 = [] := by
  cases allowed <;> rfl

theorem breaks_add (allowed : Bool) (m n : Nat) :
    breaks allowed (m + n) = breaks allowed m ++ breaks allowed n := by
  cases allowed with
  | false => rfl
  | true => exact List.replicate_append_replicate.symm

/-- A text whose controls are line breaks holds no other control character, and as many of them. -/
theorem controls_eq_breaks {text : List Char} {count : Nat} (h : controls text = breaks true count) :
    (∀ c ∈ text, c.toNat < 0x20 → c = '\n') ∧ text.count '\n' = count := by
  have lines : controls text = List.replicate count '\n' := h
  constructor
  · intro c hc below
    -- a control character of the text is among those that are picked, and these are line breaks
    have control : c ∈ controls text := List.mem_filter.mpr ⟨hc, by simpa using below⟩
    rw [lines] at control
    exact List.eq_of_mem_replicate control
  -- picking keeps all line breaks, as they are below the space
  · have counted : (controls text).count '\n' = text.count '\n' := List.count_filter (by decide)
    rw [← counted, lines, List.count_replicate_self]

/-! ### Moving further in -/

/-- A text with so many spaces more after each of its line breaks. -/
def indented (width : Nat) (text : List Char) : List Char :=
  text.flatMap fun c => if c = '\n' then '\n' :: List.replicate width ' ' else [c]

@[simp] theorem indented_append (width : Nat) (text rest : List Char) :
    indented width (text ++ rest) = indented width text ++ indented width rest :=
  List.flatMap_append

theorem indented_cons {c : Char} (notBreak : c ≠ '\n') (width : Nat) (text : List Char) :
    indented width (c :: text) = c :: indented width text := by
  rw [indented, List.flatMap_cons, if_neg notBreak]
  rfl

theorem indented_newline (width : Nat) (text : List Char) :
    indented width ('\n' :: text) = '\n' :: (List.replicate width ' ' ++ indented width text) := rfl

@[simp] theorem indented_zero (text : List Char) : indented 0 text = text := by
  -- a line break is put back as it was, with no spaces behind it
  have same : ∀ c : Char, (if c = '\n' then '\n' :: List.replicate 0 ' ' else [c]) = [c] := by
    intro c
    split
    · next h => rw [h, List.replicate_zero]
    · rfl
  rw [indented, funext same, List.flatMap_singleton']

/-- A text on one line stays as it is. -/
theorem indented_of_inline {text : List Char} (inline : controls text = []) (width : Nat) :
    indented width text = text := by
  rw [controls_eq_nil_iff] at inline
  induction text with
  | nil => rfl
  | cons c text ih =>
    have notBreak : c ≠ '\n' := by
      rintro rfl
      exact absurd (inline '\n' List.mem_cons_self) (by decide)
    rw [indented_cons notBreak, ih fun d hd => inline d (List.mem_cons_of_mem c hd)]

/-- What a layout puts between the parts of a text, by the level: one line break, if the lines may break at
all, and after it so many spaces for each level. -/
structure BreaksOnce (allowed : Bool) (width : Nat) (piece : Nat → List Char) : Prop where
  controls_eq (depth : Nat) : controls (piece depth) = breaks allowed 1
  indented_eq (depth : Nat) : indented width (piece depth) = piece (depth + 1)

/-- A piece without a line break is the same at every level. -/
theorem BreaksOnce.never {text : List Char} (inline : controls text = []) :
    BreaksOnce false 0 fun _ => text :=
  ⟨fun _ => inline, fun _ => indented_zero text⟩

/-- A piece with a line break ends a line, and begins the next with the spaces of some level. -/
theorem BreaksOnce.always (front back : List Char) (ending : controls front = [])
    (beginning : controls back = []) (width offset : Nat) :
    BreaksOnce true width fun depth =>
      front ++ '\n' :: (List.replicate (width * (depth + offset)) ' ' ++ back) := by
  have line (depth : Nat) : controls (List.replicate (width * (depth + offset)) ' ' ++ back) = [] := by
    rw [controls_append, controls_replicate (by decide), beginning, List.nil_append]
  constructor
  -- the front and the back have no breaks, so the one between them is the only one
  · intro depth
    rw [controls_append, ending, controls_newline, line]
    rfl
  · intro depth
    -- the spaces that are added stand before those of the level
    have further : width * (depth + 1 + offset) = width + width * (depth + offset) := by
      rw [Nat.add_right_comm, Nat.mul_add_one, Nat.add_comm]
    rw [indented_append, indented_of_inline ending, indented_newline, indented_of_inline (line depth),
      further, ← List.replicate_append_replicate, List.append_assoc]

/-- The next line may also begin with nothing but those spaces. -/
theorem BreaksOnce.always_of_spaces (front : List Char) (ending : controls front = [])
    (width offset : Nat) :
    BreaksOnce true width fun depth =>
      front ++ '\n' :: List.replicate (width * (depth + offset)) ' ' := by
  have line := always front [] ending rfl width offset
  simp only [List.append_nil] at line
  exact line

/-! ### Words and digits -/

@[simp] theorem controls_boolWord (b : Bool) : controls (boolWord b) = [] := by
  cases b <;> rfl

/-- A character that is read as a digit is visible. -/
theorem visible_of_hexDigit {c : Char} (h : (Numeral.hexDigit? c).isSome) : 0x20 ≤ c.toNat := by
  -- digits and letters all lie behind the zero
  unfold Numeral.hexDigit? at h
  split at h
  · next digit =>
    have low : '0'.toNat ≤ c.toNat := (Char.isDigit_iff_toNat.mp digit).1
    exact Nat.le_trans (by decide) low
  split at h
  · next letter => exact Nat.le_trans (by decide) (Char.le_def.mp letter.1)
  split at h
  · next letter => exact Nat.le_trans (by decide) (Char.le_def.mp letter.1)
  · cases h

theorem visible_digitChar : ∀ d < 16, 0x20 ≤ (Nat.digitChar d).toNat := by decide

theorem controls_toDigits {base : Nat} (low : 1 < base) (high : base ≤ 16) (n : Nat) :
    controls (Nat.toDigits base n) = [] := by
  rw [controls_eq_nil_iff]
  intro c hc
  obtain ⟨d, small, rfl⟩ := Numeral.exists_of_mem_toDigits low hc
  exact visible_digitChar d (Nat.lt_of_lt_of_le small high)

@[simp] theorem controls_decimal (n : Int) : controls (Numeral.decimal n) = [] := by
  cases n with
  | ofNat n => exact controls_toDigits (by decide) (by decide) n
  | negSucc n =>
    rw [Numeral.decimal_negSucc, controls_cons (by decide)]
    exact controls_toDigits (by decide) (by decide) (n + 1)

/-! ### Quoted texts -/

/-- A text whose characters are written one by one, each without controls. -/
theorem controls_flatMap {write : Char → List Char} (h : ∀ c, controls (write c) = [])
    (text : List Char) : controls (text.flatMap write) = [] := by
  induction text with
  | nil => rfl
  | cons c text ih => rw [List.flatMap_cons, controls_append, h, ih, List.nil_append]

/-- Quotes around a text without controls bring none. -/
theorem controls_quotes {text : List Char} (inline : controls text = []) :
    controls ('"' :: (text ++ ['"'])) = [] := by
  rw [controls_cons (by decide), controls_append, inline]
  rfl

/-- **A literal stays on its line**, whatever it quotes. -/
@[simp] theorem Literal.controls_encode (text : List Char) : controls (encode text) = [] := by
  refine controls_quotes (controls_flatMap (fun c => ?_) text)
  unfold escape
  -- six characters have a letter of their own
  iterate 6
    split
    · rfl
  split
  · -- a hidden character is spelled by its code point
    have digits : controls (Numeral.hexadecimal c.toNat) = [] :=
      controls_toDigits (by decide) (by decide) c.toNat
    rw [controls_append, controls_append, digits]
    rfl
  · next shown =>
    -- what is left is not hidden, and so not below the space
    have visible : 0x20 ≤ c.toNat := Nat.le_of_not_lt fun below => shown (isHidden_of_lt_space below)
    rw [controls_cons visible, controls_nil]

end Text

/-- **A JSON string stays on its line**, whatever it quotes. -/
@[simp] theorem Json.Quoted.controls_encode (text : List Char) :
    Text.controls (encode text) = [] := by
  refine Text.controls_quotes (Text.controls_flatMap (fun c => ?_) text)
  unfold escape
  -- seven characters have a letter of their own
  iterate 7
    split
    · rfl
  split
  · next below =>
    -- a control is spelled by two hexadecimal digits behind a backslash and a letter
    have first := Text.visible_digitChar (c.toNat / 16) (by omega)
    have second := Text.visible_digitChar (c.toNat % 16) (by omega)
    have spelled : ['\\', 'u', '0', '0', Nat.digitChar (c.toNat / 16), Nat.digitChar (c.toNat % 16)]
        = ['\\', 'u', '0', '0'] ++ [Nat.digitChar (c.toNat / 16), Nat.digitChar (c.toNat % 16)] := rfl
    rw [spelled, Text.controls_append, Text.controls_cons first, Text.controls_cons second]
    rfl
  · next above => rw [Text.controls_cons (Nat.le_of_not_lt above), Text.controls_nil]

end Profiles
