import Profiles.Outline
import Profiles.Text.Literal

/-!
# Texts for debugging

The text of an outline with names, braces and keys, as a reader of a program wants to see it.

How it is written is up to the flags of a `Format`. `Format.read?` reads them in their written form

    [[fill]align][+][#][0][width][.precision][x|X]?

where `fill` is any character, `align` one of `<`, `^` and `>`, and every piece may be left out.
`Format.ofSpec?` takes the specifications in `Format.supported` and refuses all others.

All flags but one are for the leaves. A number is a sign, a mark, and digits. With the zero flag, zeros between the
mark and the digits bring it to its width, and the fill and the side asked for play no part; otherwise the three
together are padded, to the right side unless asked otherwise. In hexadecimal the digits are those of the word of
64 bits, so a negative number has no minus sign. A precision does nothing to a number. A truth value is a word: it is
cut to the precision, then padded, to the left side unless asked otherwise, and with the fill even under the zero
flag. A text is written as a literal and no flag changes it.

The alternate flag chooses a `Layout`, which says how the fields of a structure are set apart: all on one line
(`plain`), or one a line, each indented by four spaces a level and ending in a comma (`alternate`).
-/

namespace Profiles

/-! ### Flags -/

/-- Which side of its field a text is put to. -/
inductive Align where
  | left
  | center
  | right
deriving DecidableEq

/-- The case of the letters among hexadecimal digits. -/
inductive LetterCase where
  | lower
  | upper
deriving DecidableEq

/-- The flags of a format. -/
structure Format where
  /-- The character that fills a field. -/
  fill : Char
  /-- The side asked for; each kind of value has its own where none is. -/
  align : Option Align
  /-- A plus sign is written before a number that has no minus sign. -/
  plus : Bool
  /-- Each field of a structure has a line of its own, and a hexadecimal number its mark. -/
  alternate : Bool
  /-- A number is filled with zeros behind its sign. -/
  zero : Bool
  /-- The least number of characters. -/
  width : Nat
  /-- The greatest number of characters of a word. -/
  precision : Option Nat
  /-- Numbers are written in hexadecimal, with letters of this case. -/
  hex : Option LetterCase
deriving DecidableEq

namespace Format

/-- The side that a mark asks for. -/
def align? : Char → Option Align
  | '<' => some .left
  | '^' => some .center
  | '>' => some .right
  | _ => none

/-- The fill and the side at the start of a specification, and what follows them. A mark in the second
place makes the first character the fill, whatever it is. -/
def readAlign : List Char → Char × Option Align × List Char
  | first :: second :: rest =>
    -- the second character is looked at first: a mark may itself be the fill
    match align? second, align? first with
    | some side, _ => (first, some side, rest)
    | none, some side => (' ', some side, second :: rest)
    | none, none => (' ', none, first :: second :: rest)
  | spec => (' ', none, spec)

/-- Whether a specification starts with the given mark, and what follows it. -/
def readMark (mark : Char) : List Char → Bool × List Char
  | c :: rest => if c = mark then (true, rest) else (false, c :: rest)
  | [] => (false, [])

/-- The number at the start of a specification, zero where there is none, and what follows it. -/
def readWidth (spec : List Char) : Nat × List Char :=
  (Nat.ofDigitChars 10 (spec.takeWhile Char.isDigit) 0, spec.dropWhile Char.isDigit)

/-- The number after a point at the start of a specification, and what follows it. -/
def readPrecision : List Char → Option Nat × List Char
  | '.' :: rest => (some (readWidth rest).1, (readWidth rest).2)
  | spec => (none, spec)

/-- The letter that asks for hexadecimal numbers, and what follows it. -/
def readHex : List Char → Option LetterCase × List Char
  | 'x' :: rest => (some .lower, rest)
  | 'X' :: rest => (some .upper, rest)
  | spec => (none, spec)

/-- **The flags of a specification**, which ends in a question mark. -/
def read? (spec : List Char) : Option Format :=
  let (fill, align, spec) := readAlign spec
  let (plus, spec) := readMark '+' spec
  let (alternate, spec) := readMark '#' spec
  let (zero, spec) := readMark '0' spec
  let (width, spec) := readWidth spec
  let (precision, spec) := readPrecision spec
  let (hex, spec) := readHex spec
  if spec = ['?'] then some { fill, align, plus, alternate, zero, width, precision, hex } else none

/-- The specifications that can be asked for. -/
def supported : List String :=
  ["?", "#?", "x?", "X?", "#x?", "#X?", "+?", "+x?", "+#?", "12?", "<12?", ">12?", "^12?", "*^11?",
    "*<9?", "0>6?", "#7?", "#^9?", "08?", "+08?", "#08?", "08x?", "#010x?", "020X?", ".2?", ".0?",
    "8.3?", "_>#10.1?"]

/-- The flags of a supported specification. -/
def ofSpec? (spec : String) : Option Format :=
  if spec ∈ supported then read? spec.toList else none

/-- All of the supported specifications have the written form. -/
theorem isSome_ofSpec? : ∀ spec ∈ supported, (ofSpec? spec).isSome := by decide

end Format

/-! ### Leaves -/

namespace Format

/-- **Padding** to the width; a text that is wide enough is left as it is. Of an odd number of fill
characters the centre has the smaller half on its left. -/
def pad (format : Format) (side : Align) (text : List Char) : List Char :=
  -- nothing is missing from a text that is longer than the width
  let missing := format.width - text.length
  match format.align.getD side with
  | .left => text ++ List.replicate missing format.fill
  | .right => List.replicate missing format.fill ++ text
  | .center =>
    List.replicate (missing / 2) format.fill ++ text
      ++ List.replicate (missing - missing / 2) format.fill

/-- The sign of a number: hexadecimal digits have none of their own. -/
def sign (format : Format) (negative : Bool) : List Char :=
  -- a plus sign is written where there is no minus sign, before hexadecimal digits of negative numbers too
  if negative && format.hex.isNone then ['-'] else if format.plus then ['+'] else []

/-- The mark before hexadecimal digits of either case. -/
def mark (format : Format) : List Char :=
  if format.hex.isSome && format.alternate then ['0', 'x'] else []

/-- The digits of a number: those of its size, or in hexadecimal those of its word. -/
def digits (format : Format) (value : Int64) : List Char :=
  match format.hex with
  | none => Nat.toDigits 10 value.toInt.natAbs
  | some .lower => Numeral.hexadecimal value.toUInt64.toNat
  | some .upper => (Numeral.hexadecimal value.toUInt64.toNat).map Char.toUpper

/-- A number under the flags. -/
def int (format : Format) (value : Int64) : List Char :=
  let head := format.sign (value < 0) ++ format.mark
  let digits := format.digits value
  -- zeros come between the mark and the digits, any other fill comes outside of both
  if format.zero then
    head ++ List.replicate (format.width - (head.length + digits.length)) '0' ++ digits
  else format.pad .right (head ++ digits)

/-- A text cut to the precision. -/
def cut (format : Format) (text : List Char) : List Char :=
  match format.precision with
  | none => text
  | some most => text.take most

/-- A truth value under the flags. -/
def bool (format : Format) (value : Bool) : List Char :=
  format.pad .left (format.cut (Text.boolWord value))

/-- **A leaf under the flags.** -/
def scalar (format : Format) : Scalar → List Char
  | .str text => Text.Literal.encode text.toList
  | .int value => format.int value
  | .bool value => format.bool value

end Format

/-! ### Structures -/

namespace Debug

/-- How the fields of a structure are set apart, by the level that the structure stands at. -/
structure Layout where
  /-- What comes between the name of a structure and its first field. -/
  opening : Nat → List Char
  /-- What comes between two fields. -/
  between : Nat → List Char
  /-- What comes after the last field. -/
  closing : Nat → List Char

/-- The indentation of a level. -/
def indent (depth : Nat) : List Char := List.replicate (4 * depth) ' '

/-- All fields on one line. -/
def Layout.plain : Layout where
  opening _ := [' ', '{', ' ']
  between _ := [',', ' ']
  closing _ := [' ', '}']

/-- Each field on a line of its own. -/
def Layout.alternate : Layout where
  opening depth := [' ', '{', '\n'] ++ indent (depth + 1)
  between depth := [',', '\n'] ++ indent (depth + 1)
  closing depth := [',', '\n'] ++ indent depth ++ ['}']

/-- The layout that a format selects. -/
def Layout.select (format : Format) : Layout := if format.alternate then .alternate else .plain

/-- The key of a field and what divides it from its value. -/
def renderKey (key : String) : List Char := key.toList ++ [':', ' ']

mutual

/-- **The text of an outline** that stands `depth` levels in. -/
def render (format : Format) (layout : Layout) (depth : Nat) : Outline → List Char
  | .scalar value => format.scalar value
  | .struct name [] => name.toList
  | .struct name ((key, value) :: fields) =>
    name.toList ++ layout.opening depth ++ renderKey key ++ render format layout (depth + 1) value
      ++ renderFields format layout depth fields ++ layout.closing depth

/-- The fields after the first of a structure that stands `depth` levels in. -/
def renderFields (format : Format) (layout : Layout) (depth : Nat) :
    List (String × Outline) → List Char
  | [] => []
  | (key, value) :: fields =>
    layout.between depth ++ renderKey key ++ render format layout (depth + 1) value
      ++ renderFields format layout depth fields

end

/-- The text of an outline under the given flags. -/
def text (format : Format) (outline : Outline) : String :=
  String.ofList (render format (.select format) 0 outline)

end Debug

end Profiles
