import Profiles.Debug
import Profiles.Proofs.Text.Numeral

/-!
# Numbers and truth values in their fields

What a text for debugging shows of a number or a truth value, for all flags there are (`Debug.leaf_fields`).

A number is written in three pieces: a sign, the mark of hexadecimal numbers, and its digits, which are the
canonical numeral of its size or of its word (`Format.Pieces`). The least number has no negative of its own
width and is written like any other, since its size is taken before it is put into a word. The field of a
number is at least as wide as its pieces and as the width asked for. What it has besides the pieces are zeros
before the digits, or the fill at the sides that the alignment says. The same is said of a truth value, whose
word is cut to the precision first; neither does a precision change a number, nor the zero flag a truth value.
-/

namespace Profiles

/-- **A text is placed in a field**, with the fill on the other side of it, or on both sides and the smaller half
on the left. -/
def Text.Placed (fill : Char) (side : Align) (text field : List Char) : Prop :=
  ∃ before after : Nat,
    field = List.replicate before fill ++ text ++ List.replicate after fill ∧
      (side = .left → before = 0) ∧ (side = .right → after = 0) ∧
      (side = .center → before = (before + after) / 2)

/-- The hexadecimal digits with letters of one case. -/
def LetterCase.alphabet : LetterCase → List Char
  | lower => "0123456789abcdef".toList
  | upper => "0123456789ABCDEF".toList

namespace Format

variable {format : Format} {n : Int64}

/-! ### Padding -/

theorem length_pad (format : Format) (side : Align) (text : List Char) :
    (format.pad side text).length = max format.width text.length := by
  unfold pad
  -- whichever side is filled, and how the fill is split in two, its length is what is missing
  cases format.align.getD side with
  | left | right | center =>
    simp only [List.length_append, List.length_replicate]
    omega

theorem placed_pad (format : Format) (side : Align) (text : List Char) :
    Text.Placed format.fill (format.align.getD side) text (format.pad side text) := by
  unfold pad
  cases format.align.getD side with
  | left => exact ⟨0, format.width - text.length, rfl, fun _ => rfl, nofun, nofun⟩
  | right =>
    refine ⟨format.width - text.length, 0, ?_, nofun, fun _ => rfl, nofun⟩
    exact (List.append_nil _).symm
  | center =>
    refine ⟨(format.width - text.length) / 2,
      format.width - text.length - (format.width - text.length) / 2, rfl, nofun, nofun, ?_⟩
    intro _
    omega

/-! ### The pieces of a number -/

/-- The digits that a format writes numbers with. -/
def alphabet (format : Format) : List Char := format.hex.elim "0123456789".toList LetterCase.alphabet

/-- What the digits of a number stand for: its size, or in hexadecimal its remainder by the number of words. -/
def quantity (format : Format) (n : Int64) : Nat :=
  if format.hex = none then n.toInt.natAbs else (n.toInt % 0x10000000000000000).toNat

/-- **The pieces of a number**: a minus sign for a negative decimal number, and a plus sign for every other where
one is asked for; the mark of hexadecimal numbers where the alternate flag asks for it; and a numeral. -/
structure Pieces (format : Format) (n : Int64) (sign mark digits : List Char) : Prop where
  sign_eq : sign =
    if n.toInt < 0 ∧ format.hex = none then ['-'] else if format.plus = true then ['+'] else []
  mark_eq : mark = if format.hex ≠ none ∧ format.alternate = true then ['0', 'x'] else []
  numeral : Numeral.Canonical format.alphabet (format.quantity n) digits

/-- The size of a number in hexadecimal is its word. -/
theorem quantity_eq_magnitude (format : Format) (n : Int64) : format.quantity n = format.magnitude n := by
  -- the word of a negative number is that number and as much as there are words
  have word : (n.toUInt64.toNat : Int) = n.toInt % 0x10000000000000000 := by
    rw [← Int64.toNat_toBitVec, ← Int64.toInt_toBitVec, BitVec.toInt_eq_toNat_cond]
    have bound := n.toBitVec.isLt
    split <;> omega
  unfold quantity magnitude
  cases format.hex with
  | none => rfl
  | some letters => simp [← word]

theorem isAlphabet (format : Format) : Numeral.IsAlphabet format.alphabet := by
  unfold alphabet
  cases format.hex with
  | none => exact ⟨rfl, rfl⟩
  | some letters =>
    cases letters with
    | lower | upper => exact ⟨rfl, rfl⟩

/-- The digits that a format writes are the canonical numeral. -/
theorem canonical_digits (format : Format) (n : Int64) :
    Numeral.Canonical format.alphabet (format.quantity n) (format.digits n) := by
  have complete := format.isAlphabet
  rw [quantity_eq_magnitude]
  unfold alphabet at complete ⊢
  unfold digits magnitude
  cases hex : format.hex with
  | none =>
    rw [hex] at complete
    have numeral := Numeral.canonical_toDigits id complete (by decide) (by decide) rfl n.toInt.natAbs
    rwa [List.map_id] at numeral
  | some letters =>
    rw [hex] at complete
    cases letters with
    | lower =>
      have numeral := Numeral.canonical_toDigits id complete (by decide) (by decide) rfl n.toUInt64.toNat
      rwa [List.map_id] at numeral
    | upper =>
      -- the letters are made large after the digits have been found
      exact Numeral.canonical_toDigits Char.toUpper complete (by decide) (by decide) rfl n.toUInt64.toNat

theorem pieces (format : Format) (n : Int64) :
    format.Pieces n (format.sign (n < 0)) format.mark (format.digits n) := by
  have negative : n < 0 ↔ n.toInt < 0 := Int64.lt_iff_toInt_lt
  refine ⟨?_, ?_, format.canonical_digits n⟩
  · simp [sign, negative]
  · simp [mark, Option.isSome_iff_ne_none]

/-- A number has no other pieces. -/
theorem Pieces.eq {sign mark digits : List Char} (h : format.Pieces n sign mark digits) :
    sign = format.sign (n < 0) ∧ mark = format.mark ∧ digits = format.digits n := by
  have written := format.pieces n
  exact ⟨h.sign_eq.trans written.sign_eq.symm, h.mark_eq.trans written.mark_eq.symm,
    h.numeral.unique format.isAlphabet written.numeral⟩

/-! ### Fields -/

/-- **The field of a number** with the given pieces, sign and mark in one. -/
structure NumberField (format : Format) (head digits field : List Char) : Prop where
  length_eq : field.length = max format.width (head ++ digits).length
  zeros : format.zero = true → ∃ count, field = head ++ List.replicate count '0' ++ digits
  filled : format.zero = false →
    Text.Placed format.fill (format.align.getD .right) (head ++ digits) field

/-- **The field of a word.** There are no zeros for it. -/
structure WordField (format : Format) (word field : List Char) : Prop where
  length_eq : field.length = max format.width word.length
  filled : Text.Placed format.fill (format.align.getD .left) word field

theorem numberField_int (format : Format) (n : Int64) :
    format.NumberField (format.sign (n < 0) ++ format.mark) (format.digits n) (format.int n) := by
  unfold int
  by_cases zero : format.zero = true
  -- the zeros stand between the head and the digits, as many as are missing
  · rw [if_pos zero]
    refine ⟨?_, fun _ => ⟨_, rfl⟩, fun unset => ?_⟩
    · simp only [List.length_append, List.length_replicate]
      omega
    · rw [zero] at unset
      cases unset
  · rw [if_neg zero]
    exact ⟨format.length_pad .right _, fun set => absurd set zero, fun _ => format.placed_pad .right _⟩

theorem wordField_bool (format : Format) :
    format.WordField ("true".toList.take (min 4 (format.precision.getD 4))) (format.bool true) := by
  -- a word of four letters is cut at four of them or earlier
  have cut : format.cut (Text.boolWord true) = "true".toList.take (min 4 (format.precision.getD 4)) := by
    unfold Format.cut
    cases format.precision with
    | none => rfl
    | some most =>
      show "true".toList.take most = "true".toList.take (min 4 most)
      rw [Nat.min_comm]
      exact List.take_eq_take_min
  rw [← cut]
  exact ⟨format.length_pad .left _, format.placed_pad .left _⟩

end Format

namespace Debug

/-- **Numbers and truth values under flags.** Wherever a number stands, under whatever flags, it has its three
pieces, which are determined; its field is as wide as they are and as the width at least, and holds besides
them zeros before the digits under the zero flag, or else the fill, on the left unless asked otherwise. The
precision does not matter to it. A truth value has a field of the same kind for its word, cut to the precision
and with the fill on the right unless asked otherwise; the zero flag does not matter to it. -/
theorem leaf_fields (format : Format) (layout : Layout) (depth : Nat) :
    (∀ n : Int64,
      (∃ sign mark digits, format.Pieces n sign mark digits) ∧
      (∀ sign mark digits, format.Pieces n sign mark digits →
        format.NumberField (sign ++ mark) digits (render format layout depth (.int n))) ∧
      ∀ precision,
        render { format with precision := precision } layout depth (.int n)
          = render format layout depth (.int n)) ∧
    format.WordField ("true".toList.take (min 4 (format.precision.getD 4)))
      (render format layout depth (.bool true)) ∧
    ∀ zero,
      render { format with zero := zero } layout depth (.bool true)
        = render format layout depth (.bool true) := by
  -- a leaf is written by itself, so neither the layout nor its depth matters
  have number (format : Format) (n : Int64) : render format layout depth (.int n) = format.int n := by
    rw [Outline.int, render]
    rfl
  have word (format : Format) : render format layout depth (.bool true) = format.bool true := by
    rw [Outline.bool, render]
    rfl
  refine ⟨fun n => ⟨⟨_, _, _, format.pieces n⟩, ?_, ?_⟩, ?_, ?_⟩
  · intro sign mark digits h
    obtain ⟨rfl, rfl, rfl⟩ := h.eq
    rw [number]
    exact format.numberField_int n
  -- no number is cut
  · intro precision
    rw [number, number]
    rfl
  · rw [word]
    exact format.wordField_bool
  -- no word has zeros put in front
  · intro zero
    rw [word, word]
    rfl

/-- The least number, once decimal in the middle of a field of stars, and once in hexadecimal with a sign, its mark
and zeros. -/
theorem leaf_fields_least :
    let least : Int64 := -9223372036854775808
    let stars : Format := ⟨'*', some .center, false, true, false, 23, some 2, none⟩
    let zeros : Format := ⟨' ', some .left, true, true, true, 20, none, some .upper⟩
    (stars.Pieces least ['-'] [] "9223372036854775808".toList ∧
      stars.NumberField ['-'] "9223372036854775808".toList (render stars .alternate 1 (.int least)) ∧
      render stars .alternate 1 (.int least) = "*-9223372036854775808**".toList) ∧
    (zeros.Pieces least ['+'] ['0', 'x'] "8000000000000000".toList ∧
      zeros.NumberField ['+', '0', 'x'] "8000000000000000".toList (render zeros .alternate 1 (.int least)) ∧
      render zeros .alternate 1 (.int least) = "+0x08000000000000000".toList) := by
  intro least stars zeros
  -- both are the pieces that are written, and only the digits have to be found
  have decimal : stars.Pieces least ['-'] [] "9223372036854775808".toList := by
    have digits : stars.digits least = "9223372036854775808".toList := by decide
    rw [← digits]
    exact stars.pieces least
  have hexadecimal : zeros.Pieces least ['+'] ['0', 'x'] "8000000000000000".toList := by
    have digits : zeros.digits least = "8000000000000000".toList := by decide
    rw [← digits]
    exact zeros.pieces least
  refine ⟨⟨decimal, ((leaf_fields stars .alternate 1).1 least).2.1 _ _ _ decimal, by decide⟩,
    hexadecimal, ((leaf_fields zeros .alternate 1).1 least).2.1 _ _ _ hexadecimal, by decide⟩

end Debug

end Profiles
