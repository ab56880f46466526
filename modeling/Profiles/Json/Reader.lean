import Profiles.Json.Basic
import Profiles.Json.Quoted

/-!
# Reading JSON

A text is read in two passes. The first cuts it into a row of tokens: six marks, strings, and bare words, which
are the two truth values, the null value and numbers. `Token.ofText?` goes from left to right with a `Scan`,
which holds the tokens found and where the reader stands: between two tokens, in a bare word (everything up
to a blank, a mark or a quote belongs to it), or in a string.

In the second pass the row becomes a value, by a machine that takes one token at a time. Its states say what may
come next, and the arrays and objects that are still open lie on a stack of `Frame`s. A row is accepted when the
machine ends with one complete value and nothing open; `read?` puts this behind the cutting into tokens.

The reader is strict: no comma before a closing mark, no second value, nothing but blanks between tokens.
-/

namespace Profiles

namespace Json

/-! ### Tokens -/

/-- A piece of a document that has no smaller ones: a mark, a bare word or a string. -/
inductive Token where
  | beginArray
  | endArray
  | beginObject
  | endObject
  | comma
  | colon
  | null
  | bool (value : Bool)
  | int (value : Int)
  | decimal (mantissa exponent : Int)
  | str (text : String)

namespace Token

/-- The token that a mark is. -/
def ofMark? : Char → Option Token
  | '[' => some beginArray
  | ']' => some endArray
  | '{' => some beginObject
  | '}' => some endObject
  | ',' => some comma
  | ':' => some colon
  | _ => none

/-- The four characters that may stand between tokens. -/
def isBlank (c : Char) : Bool := c = ' ' ∨ c = '\t' ∨ c = '\n' ∨ c = '\r'

/-- Whether a character ends the bare word before it. -/
def endsWord (c : Char) : Bool := isBlank c || c = '"' || (ofMark? c).isSome

/-- The power of ten that a number ends in: nothing, or `e` or `E`, a sign if wanted, and digits. -/
def exponent? : List Char → Option Int
  | [] => some 0
  | e :: rest =>
    -- the digits may not be left out once the letter is there
    if e = 'e' ∨ e = 'E' then
      match rest with
      | '+' :: digits => (Numeral.readNat? digits).map Int.ofNat
      | rest => Numeral.readInt? rest
    else none

/-- A number without its sign: digits with no needless zero in front, then a point and digits if wanted,
then the power of ten. `negative` tells whether a minus sign came before it. -/
def unsigned? (negative : Bool) (word : List Char) : Option Token := do
  let sign (n : Nat) : Int := if negative then -n else n
  let whole := word.takeWhile Char.isDigit
  let value ← Numeral.readNat? whole
  -- a zero may only stand in front where it is the whole number
  guard (whole.length = 1 ∨ whole.head? ≠ some '0')
  match word.dropWhile Char.isDigit with
  -- no integer is a negative zero
  | [] => return if negative ∧ value = 0 then decimal 0 0 else int (sign value)
  | '.' :: rest =>
    let places := rest.takeWhile Char.isDigit
    guard (places ≠ [])
    -- the places behind the point are digits of the mantissa, and lower the power of ten
    let value ← Numeral.readNat? (whole ++ places)
    let exponent ← exponent? (rest.dropWhile Char.isDigit)
    return decimal (sign value) (exponent - places.length)
  | rest => return decimal (sign value) (← exponent? rest)

/-- The number that a bare word is, if it is one. A minus sign may come before it, a plus sign may not. -/
def number? : List Char → Option Token
  | '-' :: word => unsigned? true word
  | word => unsigned? false word

/-- The token that a bare word is: one of three names, or a number. -/
def ofWord? (word : List Char) : Option Token :=
  if word = ['t', 'r', 'u', 'e'] then some (bool true)
  else if word = ['f', 'a', 'l', 's', 'e'] then some (bool false)
  else if word = ['n', 'u', 'l', 'l'] then some null
  else number? word

end Token

/-- Where a reader of tokens stands. -/
inductive Scan.Place where
  | between
  /-- In a bare word, its characters read so far, the latest first. -/
  | word (letters : List Char)
  /-- In a string, its text read so far, the latest first. -/
  | quoted (text : List Char) (mode : Quoted.Mode)

/-- A reader of tokens: those it has found, the latest first, and where it stands. -/
structure Scan where
  found : List Token
  place : Scan.Place

namespace Scan

/-- A character between two tokens: it is passed over, is a mark, or opens a string or a word. -/
def outside (found : List Token) (c : Char) : Scan :=
  if Token.isBlank c then ⟨found, .between⟩
  else if c = '"' then ⟨found, .quoted [] .plain⟩
  else match Token.ofMark? c with
    | some mark => ⟨mark :: found, .between⟩
    | none => ⟨found, .word [c]⟩

/-- **One character is read.** -/
def step : Scan → Char → Option Scan
  | ⟨found, .between⟩, c => some (outside found c)
  | ⟨found, .word letters⟩, c =>
    -- the character that ends a word is not part of it, and is read as one between tokens
    if Token.endsWord c then
      (Token.ofWord? letters.reverse).map fun token => outside (token :: found) c
    else some ⟨found, .word (c :: letters)⟩
  -- behind a backslash a quote is one of the letters
  | ⟨found, .quoted text .plain⟩, '"' => some ⟨.str (String.ofList text.reverse) :: found, .between⟩
  | ⟨found, .quoted text mode⟩, c =>
    (mode.step c).map fun (mode, complete) => ⟨found, .quoted (complete.toList ++ text) mode⟩

/-- The tokens of a text that ends here; a string must be closed, a word may end with the text. -/
def finish? : Scan → Option (List Token)
  | ⟨found, .between⟩ => some found.reverse
  | ⟨found, .word letters⟩ =>
    (Token.ofWord? letters.reverse).map fun token => (token :: found).reverse
  | ⟨_, .quoted _ _⟩ => none

/-- A reader that has read nothing. -/
def start : Scan := ⟨[], .between⟩

end Scan

/-- The tokens of a text. -/
def Token.ofText? (text : List Char) : Option (List Token) := do
  (← text.foldlM Scan.step Scan.start).finish?

namespace Scan

/-! ### Reading the strings that were written -/

@[simp] theorem step_unit (found : List Token) (text : List Char) (high : Option Nat)
    (count value : Nat) (c : Char) :
    step ⟨found, .quoted text (.unit high count value)⟩ c =
      (Quoted.Mode.step (.unit high count value) c).map fun (mode, complete) =>
        ⟨found, .quoted (complete.toList ++ text) mode⟩ := rfl

/-- Reading one written character of a string completes that character. -/
theorem foldlM_escape (found : List Token) (text : List Char) (c : Char) :
    (Quoted.escape c).foldlM step ⟨found, .quoted text .plain⟩
      = some ⟨found, .quoted (c :: text) .plain⟩ := by
  unfold Quoted.escape
  -- seven characters have a letter of their own
  iterate 7
    split
    · subst c; rfl
  split
  · -- the first four characters open a code unit with two zeros, the last two hold its value
    rename_i small
    have high := Numeral.hexDigit?_digitChar (c.toNat / 16) (by omega)
    have low := Numeral.hexDigit?_digitChar (c.toNat % 16) (by omega)
    have whole : 16 * (c.toNat / 16) + c.toNat % 16 = c.toNat := Nat.div_add_mod ..
    have unit : Quoted.ofUnit? none c.toNat = some (.plain, some c) := by
      rw [Quoted.ofUnit?, if_pos (by omega), Char.ofNat_toNat]
    have lead : ['\\', 'u', '0', '0'].foldlM step ⟨found, .quoted text .plain⟩
        = some ⟨found, .quoted text (.unit none 2 0)⟩ := rfl
    have digits (a b : Char) : ['\\', 'u', '0', '0', a, b] = ['\\', 'u', '0', '0'] ++ [a, b] := rfl
    rw [digits, List.foldlM_append, lead]
    simp [Quoted.Mode.step, high, low, whole, unit]
  -- anything else is above the space and no backslash, so it is read as itself
  · simp [step, Quoted.Mode.step, *]

theorem foldlM_body (found : List Token) (text done : List Char) :
    (Quoted.body text).foldlM step ⟨found, .quoted done .plain⟩
      = some ⟨found, .quoted (text.reverse ++ done) .plain⟩ := by
  induction text generalizing done with
  | nil => rfl
  | cons c text ih =>
    -- the characters read so far lie in reverse, with the latest in front
    rw [Quoted.body_cons, List.foldlM_append, foldlM_escape]
    simp [ih]

/-- **Reading a written string** from between two tokens finds that string, and ends between two tokens
again. -/
theorem foldlM_encode (found : List Token) (text : List Char) :
    (Quoted.encode text).foldlM step ⟨found, .between⟩
      = some ⟨.str (String.ofList text) :: found, .between⟩ := by
  have opening : step ⟨found, .between⟩ '"' = some ⟨found, .quoted [] .plain⟩ := rfl
  -- the quote in front opens the string, the characters fill it, and the quote behind closes it
  rw [Quoted.encode, List.foldlM_cons, opening]
  simp [foldlM_body, step]

end Scan

/-! ### Values from tokens -/

/-- An array or object that is still open: what it holds so far, the latest first, and for an object the
name whose value is being read. -/
inductive Frame where
  | arr (items : List Json)
  | obj (members : List (String × Json)) (name : String)

/-- What a reader of tokens waits for. -/
inductive Reader where
  /-- A value. -/
  | beforeValue (stack : List Frame)
  /-- The first item of an array, or its end. -/
  | arrayStart (stack : List Frame)
  /-- The first name of an object, or its end. -/
  | objectStart (stack : List Frame)
  /-- A further name of an object. -/
  | beforeName (members : List (String × Json)) (stack : List Frame)
  /-- The colon after a name. -/
  | afterName (members : List (String × Json)) (name : String) (stack : List Frame)
  /-- What follows a complete value. -/
  | afterValue (value : Json) (stack : List Frame)

namespace Reader

/-- A token where a value must stand. -/
def beginValue? (stack : List Frame) : Token → Option Reader
  | .beginArray => some (.arrayStart stack)
  | .beginObject => some (.objectStart stack)
  | .null => some (.afterValue .null stack)
  | .bool b => some (.afterValue (.bool b) stack)
  | .int n => some (.afterValue (.int n) stack)
  | .decimal mantissa exponent => some (.afterValue (.decimal mantissa exponent) stack)
  | .str text => some (.afterValue (.str text) stack)
  | _ => none

/-- **One token is read.** -/
def step : Reader → Token → Option Reader
  | .beforeValue stack, token => beginValue? stack token
  | .arrayStart stack, .endArray => some (.afterValue (.arr []) stack)
  -- anything but the end is the first item, so a comma must be followed by another
  | .arrayStart stack, token => beginValue? (.arr [] :: stack) token
  | .objectStart stack, .endObject => some (.afterValue (.obj []) stack)
  | .objectStart stack, .str name => some (.afterName [] name stack)
  | .beforeName members stack, .str name => some (.afterName members name stack)
  | .afterName members name stack, .colon => some (.beforeValue (.obj members name :: stack))
  | .afterValue value (.arr items :: stack), .comma =>
    some (.beforeValue (.arr (value :: items) :: stack))
  | .afterValue value (.arr items :: stack), .endArray =>
    some (.afterValue (.arr (value :: items).reverse) stack)
  | .afterValue value (.obj members name :: stack), .comma =>
    some (.beforeName ((name, value) :: members) stack)
  | .afterValue value (.obj members name :: stack), .endObject =>
    some (.afterValue (.obj ((name, value) :: members).reverse) stack)
  | _, _ => none

/-- The value that has been read, when nothing is open. -/
def finish? : Reader → Option Json
  | .afterValue value [] => some value
  | _ => none

end Reader

/-- The value that a row of tokens writes out. -/
def ofTokens? (tokens : List Token) : Option Json := do
  (← tokens.foldlM Reader.step (.beforeValue [])).finish?

/-- **The value that a text writes out**, if it is a JSON document. -/
def read? (text : String) : Option Json := do ofTokens? (← Token.ofText? text.toList)

end Json

end Profiles
