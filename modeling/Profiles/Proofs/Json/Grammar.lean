import Profiles.Json.Printer
import Profiles.Json.Reader

/-!
# The grammar of JSON

What a JSON document is, said without a reader: `Grammar.Value` and the relations around it follow the
productions of the standard one by one, from the six marks with their blanks to numbers and strings, and
`IsDocument` is the whole, a value with blanks on either side. A string holds no raw character below the
space, and a number no needless zero.

**Everything that is printed is a document** (`isDocument_render`), in any layout that adds blanks only.
-/

namespace Profiles

/-! ### Digits -/

namespace Numeral

theorem isDigit_of_mem {n : Nat} {c : Char} (h : c ∈ Nat.toDigits 10 n) : c.isDigit = true :=
  Nat.isDigit_of_mem_toDigits (by decide) (by decide) h

end Numeral

namespace Json

namespace Grammar

/-! ### The productions -/

/-- Blanks, if any. -/
def Blank (text : List Char) : Prop := ∀ c ∈ text, Token.isBlank c = true

/-- A mark, with blanks around it if wanted. -/
inductive Mark (mark : Char) : List Char → Prop where
  | intro {before after : List Char} (left : Blank before) (right : Blank after) :
    Mark mark (before ++ mark :: after)

/-- One digit or more. -/
def Digits (text : List Char) : Prop := text ≠ [] ∧ ∀ c ∈ text, c.isDigit = true

/-- A whole number: a zero, or digits of which the first is none. -/
inductive Whole : List Char → Prop where
  | zero : Whole ['0']
  | digits {first : Char} {rest : List Char} (nonzero : first ≠ '0') (all : Digits (first :: rest)) :
    Whole (first :: rest)

/-- A point and digits, if any. -/
inductive Fraction : List Char → Prop where
  | none : Fraction []
  | some {places : List Char} (all : Digits places) : Fraction ('.' :: places)

/-- A power of ten, if any: a letter, a sign if wanted, and digits. -/
inductive Exponent : List Char → Prop where
  | none : Exponent []
  | some (letter : Char) (sign : List Char) {digits : List Char} (isLetter : letter ∈ ['e', 'E'])
    (isSign : sign ∈ [[], ['+'], ['-']]) (all : Digits digits) : Exponent (letter :: (sign ++ digits))

/-- A number. -/
inductive Number : List Char → Prop where
  | intro (sign : List Char) {whole fraction exponent : List Char} (isSign : sign ∈ [[], ['-']])
    (isWhole : Whole whole) (isFraction : Fraction fraction) (isExponent : Exponent exponent) :
    Number (sign ++ whole ++ fraction ++ exponent)

/-- How a character may be written in a string: as it is, unless it is below the space, a quote or a
backslash; by a letter behind a backslash; or by a code unit of four digits. -/
inductive Letter : List Char → Prop where
  | plain {c : Char} (visible : 0x20 ≤ c.toNat) (notQuote : c ≠ '"') (notBackslash : c ≠ '\\') :
    Letter [c]
  | short {c : Char} (known : c ∈ ['"', '\\', '/', 'b', 'f', 'n', 'r', 't']) : Letter ['\\', c]
  | unit {a b c d : Char} (all : ∀ digit ∈ [a, b, c, d], (Numeral.hexDigit? digit).isSome) :
    Letter ['\\', 'u', a, b, c, d]

/-- The text between the quotes of a string. -/
inductive Letters : List Char → Prop where
  | nil : Letters []
  | cons {letter letters : List Char} (first : Letter letter) (rest : Letters letters) :
    Letters (letter ++ letters)

/-- A string. -/
inductive Literal : List Char → Prop where
  | intro {letters : List Char} (all : Letters letters) : Literal ('"' :: (letters ++ ['"']))

mutual

/-- **A value.** -/
inductive Value : List Char → Prop where
  | null : Value ['n', 'u', 'l', 'l']
  | true : Value ['t', 'r', 'u', 'e']
  | false : Value ['f', 'a', 'l', 's', 'e']
  | number {text : List Char} (h : Number text) : Value text
  | string {text : List Char} (h : Literal text) : Value text
  | emptyArray {opening closing : List Char} (left : Mark '[' opening) (right : Mark ']' closing) :
    Value (opening ++ closing)
  | array {opening items closing : List Char} (left : Mark '[' opening) (inner : Items items)
    (right : Mark ']' closing) : Value (opening ++ items ++ closing)
  | emptyObject {opening closing : List Char} (left : Mark '{' opening) (right : Mark '}' closing) :
    Value (opening ++ closing)
  | object {opening members closing : List Char} (left : Mark '{' opening) (inner : Members members)
    (right : Mark '}' closing) : Value (opening ++ members ++ closing)

/-- One value or more, with commas between them. -/
inductive Items : List Char → Prop where
  | one {value : List Char} (h : Value value) : Items value
  | more {value comma items : List Char} (h : Value value) (between : Mark ',' comma)
    (rest : Items items) : Items (value ++ comma ++ items)

/-- A name, a colon and a value. -/
inductive Member : List Char → Prop where
  | intro {name colon value : List Char} (isName : Literal name) (between : Mark ':' colon)
    (h : Value value) : Member (name ++ colon ++ value)

/-- One member or more, with commas between them. -/
inductive Members : List Char → Prop where
  | one {member : List Char} (h : Member member) : Members member
  | more {member comma members : List Char} (h : Member member) (between : Mark ',' comma)
    (rest : Members members) : Members (member ++ comma ++ members)

end

end Grammar

/-- **A document**: a value, with blanks around it if wanted. -/
inductive IsDocument : List Char → Prop where
  | intro {before value after : List Char} (left : Grammar.Blank before) (h : Grammar.Value value)
    (right : Grammar.Blank after) : IsDocument (before ++ value ++ after)

namespace Grammar

/-! ### What is printed -/

theorem blank_nil : Blank [] := fun _ h => absurd h List.not_mem_nil

theorem Mark.of_right {mark : Char} {after : List Char} (h : Blank after) : Mark mark (mark :: after) :=
  .intro blank_nil h

theorem Mark.of_left {mark : Char} {before : List Char} (h : Blank before) :
    Mark mark (before ++ [mark]) :=
  .intro h blank_nil

theorem digits_toDigits (n : Nat) : Digits (Nat.toDigits 10 n) :=
  ⟨Nat.toDigits_ne_nil, fun _ h => Numeral.isDigit_of_mem h⟩

theorem whole_toDigits (n : Nat) : Whole (Nat.toDigits 10 n) := by
  -- a zero is written by itself, and any other number without one in front
  obtain rfl | pos := Nat.eq_zero_or_pos n
  · exact .zero
  · obtain ⟨first, rest, digits, nonzero⟩ :=
      Numeral.exists_head_toDigits (b := 10) (by decide) (by decide) pos
    have all := digits_toDigits n
    rw [digits] at all ⊢
    exact .digits nonzero all

/-- The numeral of an integer is a number, also with a power of ten behind it. -/
theorem number_decimal (n : Int) {exponent : List Char} (h : Exponent exponent) :
    Number (Numeral.decimal n ++ exponent) := by
  cases n with
  | ofNat n => simpa using Number.intro [] (by simp) (whole_toDigits n) .none h
  | negSucc n => simpa using Number.intro ['-'] (by simp) (whole_toDigits (n + 1)) .none h

theorem exponent_decimal (n : Int) : Exponent ('e' :: Numeral.decimal n) := by
  cases n with
  | ofNat n => exact .some 'e' [] (by simp) (by simp) (digits_toDigits n)
  | negSucc n => exact .some 'e' ['-'] (by simp) (by simp) (digits_toDigits (n + 1))

theorem letter_escape (c : Char) : Letter (Quoted.escape c) := by
  unfold Quoted.escape
  -- seven characters have a letter of their own
  iterate 7
    split
    · exact .short (by decide)
  split
  · -- what is left of the characters below the space is spelled by its two last digits
    rename_i small
    refine .unit fun digit h => ?_
    have high := Numeral.hexDigit?_digitChar (c.toNat / 16) (by omega)
    have low := Numeral.hexDigit?_digitChar (c.toNat % 16) (by omega)
    have zero : (Numeral.hexDigit? '0').isSome := by decide
    simp only [List.mem_cons, List.not_mem_nil, or_false] at h
    obtain rfl | rfl | rfl | rfl := h
    · exact zero
    · exact zero
    · rw [high, Option.isSome_some]
    · rw [low, Option.isSome_some]
  -- neither below the space nor one of the seven, so not the quote or the backslash either
  · rename_i notQuote notBackslash _ _ _ _ _ visible
    exact .plain (by omega) notQuote notBackslash

theorem letters_body (text : List Char) : Letters (Quoted.body text) := by
  induction text with
  | nil => exact .nil
  | cons c text ih => exact .cons (letter_escape c) ih

theorem literal_encode (text : List Char) : Literal (Quoted.encode text) := .intro (letters_body text)

end Grammar

/-- **A layout that adds blanks only.** -/
structure Layout.AddsBlanks (layout : Layout) : Prop where
  /-- A line break is made of blanks. -/
  lineBreak : ∀ depth, Grammar.Blank (layout.lineBreak depth)
  /-- What stands between a name and its value is a colon and blanks. -/
  colon : Grammar.Mark ':' layout.colon

theorem Layout.addsBlanks_select (pretty : Bool) : (select pretty).AddsBlanks := by
  cases pretty with
  -- nothing at all is blank, and the colon has nothing behind it
  | false => exact ⟨fun _ => Grammar.blank_nil, .of_right Grammar.blank_nil⟩
  | true =>
    -- a line break is followed by spaces, and so is the colon by one
    refine ⟨fun depth c h => ?_, .of_right fun c h => ?_⟩
    · obtain rfl | h := List.mem_cons.mp h
      · rfl
      · rw [List.eq_of_mem_replicate h]; rfl
    · rw [List.mem_singleton.mp h]; rfl

namespace Grammar

variable {layout : Layout}

theorem member_renderName (blanks : layout.AddsBlanks) (name : String) {value : List Char}
    (h : Value value) : Member (renderName layout name ++ value) :=
  .intro (literal_encode name.toList) blanks.colon h

mutual

/-- **The text of a value is a value.** -/
theorem value_render (blanks : layout.AddsBlanks) (depth : Nat) :
    (value : Json) → Value (value.render layout depth)
  | null => .null
  | bool true => .true
  | bool false => .false
  -- a whole number is one without fraction and power of ten
  | int n => .number (by simpa [render] using number_decimal n .none)
  | decimal mantissa exponent => .number (number_decimal mantissa (exponent_decimal exponent))
  | str text => .string (literal_encode text.toList)
  | arr [] => .emptyArray (.of_right blank_nil) (.of_right blank_nil)
  | arr (item :: items) => by
    -- the first item is a value, and the others are added to it one by one
    have inner := items_render blanks (depth + 1) items (value_render blanks (depth + 1) item)
    simpa [render] using Value.array (.of_right (blanks.lineBreak (depth + 1))) inner
      (.of_left (blanks.lineBreak depth))
  | obj [] => .emptyObject (.of_right blank_nil) (.of_right blank_nil)
  | obj ((name, value) :: members) => by
    -- the same for members, where the first one is there before the recursion begins
    have first := member_renderName blanks name (value_render blanks (depth + 1) value)
    have inner := members_render blanks (depth + 1) members first
    simpa [render] using Value.object (.of_right (blanks.lineBreak (depth + 1))) inner
      (.of_left (blanks.lineBreak depth))

/-- The items after the first go on with a row of values. -/
theorem items_render (blanks : layout.AddsBlanks) (depth : Nat) :
    (items : List Json) → {first : List Char} → Value first →
    Items (first ++ renderItems layout depth items)
  | [], first, h => by simpa [renderItems] using Items.one h
  | item :: items, first, h => by
    have rest := items_render blanks depth items (value_render blanks depth item)
    simpa [renderItems] using Items.more h (.of_right (blanks.lineBreak depth)) rest

/-- The members after the first go on with a row of members. -/
theorem members_render (blanks : layout.AddsBlanks) (depth : Nat) :
    (members : List (String × Json)) → {first : List Char} → Member first →
    Members (first ++ renderMembers layout depth members)
  | [], first, h => by simpa [renderMembers] using Members.one h
  | (name, value) :: members, first, h => by
    -- the next member is complete before the rest of the row is looked at
    have second := member_renderName blanks name (value_render blanks depth value)
    have rest := members_render blanks depth members second
    simpa [renderMembers] using Members.more h (.of_right (blanks.lineBreak depth)) rest

end

end Grammar

/-- **What is printed is a document**, of whatever value and in whatever layout that adds blanks only. -/
theorem isDocument_render {layout : Layout} (blanks : layout.AddsBlanks) (value : Json) :
    IsDocument (value.render layout 0) := by
  simpa using IsDocument.intro Grammar.blank_nil (Grammar.value_render blanks 0 value) Grammar.blank_nil

end Json

end Profiles
