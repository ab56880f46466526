import Profiles.Text.Hidden
import Profiles.Text.Numeral

/-!
# String literals

A text between double quotes, as it is shown to a reader of a program. `encode` writes it: a quote and a
backslash get a backslash in front, NUL, tab, carriage return and line feed have their letters, every
other hidden character (`Text.isHidden`) is spelled by its code point as `\u{…}`, and all else stands for
itself. An apostrophe needs no escape.

`scan?` reads a literal back from the character after its opening quote and returns what follows the
closing one, so a literal can be cut out of a longer text. It goes by characters and keeps a `Mode`: where
in an escape it stands.
-/

namespace Profiles.Text.Literal

/-- How one character is written inside a literal. -/
def escape (c : Char) : List Char :=
  if c = '\x00' then ['\\', '0']
  else if c = '\t' then ['\\', 't']
  else if c = '\r' then ['\\', 'r']
  else if c = '\n' then ['\\', 'n']
  else if c = '"' then ['\\', '"']
  else if c = '\\' then ['\\', '\\']
  else if isHidden c then ['\\', 'u', '{'] ++ Numeral.hexadecimal c.toNat ++ ['}']
  else [c]

/-- The text of a literal, without its quotes. -/
def body (text : List Char) : List Char := text.flatMap escape

/-- A text as a literal. -/
def encode (text : List Char) : List Char := '"' :: (body text ++ ['"'])

@[simp] theorem body_cons (c : Char) (text : List Char) :
    body (c :: text) = escape c ++ body text := rfl

/-- Where a reader stands inside a literal. -/
inductive Mode where
  /-- Between two characters of the text. -/
  | plain
  /-- After a backslash. -/
  | escape
  /-- After a backslash and the letter for a code point: an opening brace must follow. -/
  | brace
  /-- Inside the braces, with the digits read so far and their value. -/
  | digits (count value : Nat)

/-- The character that a backslash and this letter stand for. -/
def unescape? : Char → Option Char
  | '0' => some '\x00'
  | 't' => some '\t'
  | 'r' => some '\r'
  | 'n' => some '\n'
  | '"' => some '"'
  | '\\' => some '\\'
  | _ => none

/-- The character with the given code point, if there is one. -/
def ofCodePoint? (n : Nat) : Option Char :=
  if n.isValidChar then some (Char.ofNat n) else none

/-- The text that is being read has one more character in front. -/
def front (c : Char) : Option (List Char × List Char) → Option (List Char × List Char) :=
  -- read backwards: what follows the character has been read already
  Option.map fun (text, after) => (c :: text, after)

/-- **Reading a literal.** From a place inside it, the text up to the closing quote and what follows that
quote. A literal that does not end, an unknown escape and a number that is no code point are refused. -/
def scan? : Mode → List Char → Option (List Char × List Char)
  | _, [] => none
  | .plain, c :: rest =>
    if c = '"' then some ([], rest)
    else if c = '\\' then scan? .escape rest
    else front c (scan? .plain rest)
  | .escape, c :: rest =>
    if c = 'u' then scan? .brace rest
    else match unescape? c with
      | some d => front d (scan? .plain rest)
      | none => none
  | .brace, c :: rest => if c = '{' then scan? (.digits 0 0) rest else none
  | .digits count value, c :: rest =>
    if c = '}' then
      match ofCodePoint? value with
      -- braces without a digit are refused
      | some d => if count = 0 then none else front d (scan? .plain rest)
      | none => none
    else match Numeral.hexDigit? c with
      | some d => if count < 6 then scan? (.digits (count + 1) (16 * value + d)) rest else none
      | none => none

/-- Reads a literal from its opening quote. -/
def read? : List Char → Option (List Char × List Char)
  | '"' :: rest => scan? .plain rest
  | _ => none

/-! ### Reading what was written -/

@[simp] theorem ofCodePoint?_toNat (c : Char) : ofCodePoint? c.toNat = some c := by
  rw [ofCodePoint?, if_pos (show c.toNat.isValidChar from c.valid), Char.ofNat_toNat]

/-- Reading the digits of a code point, one after the other. -/
theorem scan?_hexadecimal (n : Nat) (rest : List Char) (short : (Numeral.hexadecimal n).length ≤ 6) :
    scan? (.digits 0 0) (Numeral.hexadecimal n ++ rest) =
      scan? (.digits (Numeral.hexadecimal n).length n) rest := by
  have noBrace : ∀ d < 16, Nat.digitChar d ≠ '}' := by decide
  induction n using Nat.strongRecOn generalizing rest with
  | ind n ih =>
    by_cases h : n < 16
    -- a single digit, which is read at once
    · simp [Numeral.hexadecimal_of_lt h, scan?, noBrace n h, Numeral.hexDigit?_digitChar n h]
    · -- the last digit is read behind those of the quotient
      have h : 16 ≤ n := by omega
      have small : n % 16 < 16 := Nat.mod_lt n (by decide)
      rw [Numeral.hexadecimal_of_le h] at short ⊢
      rw [List.length_append, List.length_singleton] at short
      have fewer : (Numeral.hexadecimal (n / 16)).length < 6 := by omega
      rw [List.append_assoc, ih (n / 16) (by omega) _ (by omega), List.singleton_append]
      simp [scan?, noBrace _ small, Numeral.hexDigit?_digitChar _ small, fewer, Nat.div_add_mod]

/-- Reading one written character gives that character. -/
theorem scan?_escape (c : Char) (rest : List Char) :
    scan? .plain (escape c ++ rest) = front c (scan? .plain rest) := by
  unfold escape
  -- six characters have a letter of their own
  iterate 6
    split
    · subst c; rfl
  split
  · -- no code point has more than six digits, which is as many as the reader takes
    have valid : c.toNat < 0x1000000 := by
      rcases c.valid with h | h
      · exact Nat.lt_trans h (by decide)
      · exact Nat.lt_trans h.2 (by decide)
    have short := Numeral.length_hexadecimal_le_six valid
    have some_digit : (Numeral.hexadecimal c.toNat).length ≠ 0 := by simp [Numeral.hexadecimal]
    simp [scan?, scan?_hexadecimal, short, some_digit]
  -- every other character stands for itself, and is neither the quote nor the backslash
  · simp_all [scan?]

/-- **Reading stops at the quote that was written last**, whatever the text holds and whatever
follows. -/
theorem scan?_body (text rest : List Char) :
    scan? .plain (body text ++ '"' :: rest) = some (text, rest) := by
  induction text with
  | nil => rfl
  | cons c text ih => rw [body_cons, List.append_assoc, scan?_escape, ih]; rfl

theorem read?_encode (text rest : List Char) :
    read? (encode text ++ rest) = some (text, rest) := by
  simp [read?, encode, scan?_body]

end Profiles.Text.Literal
