/-!
# Numerals and words

Whole numbers and truth values as text. `decimal` writes the one canonical numeral of an integer: a minus sign
for a negative number, then its digits with no zero in front. `readInt?` reads the wider set `-?[0-9]+`, where
any number of leading zeros is allowed and `-0` is zero. `readInt64?` reads the same texts and keeps
those whose value fits a signed word of 64 bits; the value decides, never the length of the text.

Hexadecimal digits are lower case here; a reader takes either case. For a truth value there is one word, which
every text in this library uses.
-/

namespace Profiles

namespace Numeral

/-- The canonical decimal numeral of an integer. -/
def decimal : Int → List Char
  | .ofNat n => Nat.toDigits 10 n
  | .negSucc n => '-' :: Nat.toDigits 10 (n + 1)

/-- The hexadecimal digits of a number, lower case and with no zero in front. -/
def hexadecimal (n : Nat) : List Char := Nat.toDigits 16 n

/-- The value of a run of decimal digits; a text that is empty or holds anything else has none. -/
def readNat? (digits : List Char) : Option Nat :=
  if digits ≠ [] ∧ digits.all Char.isDigit then some (Nat.ofDigitChars 10 digits 0) else none

/-- The value of a text of the form `-?[0-9]+`. -/
def readInt? : List Char → Option Int
  -- a sign with nothing behind it is no numeral: the digits may not be empty
  | '-' :: digits => (readNat? digits).map fun n => -(n : Int)
  | digits => (readNat? digits).map Int.ofNat

/-- An integer as a word of 64 bits, if it lies between `-2 ^ 63` and `2 ^ 63 - 1`. -/
def toInt64? (i : Int) : Option Int64 :=
  if -0x8000000000000000 ≤ i ∧ i < 0x8000000000000000 then some (Int64.ofInt i) else none

/-- The word of 64 bits that a text of the form `-?[0-9]+` stands for. -/
def readInt64? (text : String) : Option Int64 := do toInt64? (← readInt? text.toList)

/-- The canonical numeral of a word of 64 bits. -/
def ofInt64 (n : Int64) : List Char := decimal n.toInt

/-- The value of a hexadecimal digit of either case. -/
def hexDigit? (c : Char) : Option Nat :=
  if c.isDigit then some (c.toNat - '0'.toNat)
  else if 'a' ≤ c ∧ c ≤ 'f' then some (c.toNat - 'a'.toNat + 10)
  else if 'A' ≤ c ∧ c ≤ 'F' then some (c.toNat - 'A'.toNat + 10)
  else none

@[simp] theorem decimal_natCast (n : Nat) : decimal (n : Int) = Nat.toDigits 10 n := rfl

@[simp] theorem decimal_negSucc (n : Nat) :
    decimal (Int.negSucc n) = '-' :: Nat.toDigits 10 (n + 1) := rfl

/-- The digits of a number read back. -/
@[simp] theorem readNat?_toDigits (n : Nat) : readNat? (Nat.toDigits 10 n) = some n := by
  -- both conditions of the reader hold: there is a digit, and nothing but digits
  have digits : (Nat.toDigits 10 n).all Char.isDigit := by
    rw [List.all_eq_true]
    intro c hc
    exact Nat.isDigit_of_mem_toDigits (by decide) (by decide) hc
  rw [readNat?, if_pos ⟨Nat.toDigits_ne_nil, digits⟩, Nat.ofDigitChars_ten_toDigits]

/-- **Writing, then reading** an integer gives it back. -/
@[simp] theorem readInt?_decimal (i : Int) : readInt? (decimal i) = some i := by
  cases i with
  | ofNat n =>
    -- the reader looks at the first character; where there is no sign, all of the text is digits
    have noSign : ∀ digits, Nat.toDigits 10 n ≠ '-' :: digits := by
      intro digits h
      have sign := Nat.isDigit_of_mem_toDigits (by decide) (by decide)
        (show '-' ∈ Nat.toDigits 10 n by simp [h])
      exact absurd sign (by decide)
    rw [decimal, readInt?]
    · simp
    · exact noSign
  | negSucc n => simp [decimal, readInt?, Int.negSucc_eq]

/-- A word always fits: reading the integer of a word gives the word back. -/
@[simp] theorem toInt64?_toInt (n : Int64) : toInt64? n.toInt = some n := by
  have low := n.le_toInt
  have high := n.toInt_lt
  rw [toInt64?, if_pos ⟨by omega, by omega⟩, Int64.ofInt_toInt]

/-- **Writing, then reading** a word gives it back. -/
@[simp] theorem readInt64?_ofInt64 (n : Int64) :
    readInt64? (String.ofList (ofInt64 n)) = some n := by
  simp [readInt64?, ofInt64]

/-! ### Digits -/

theorem hexDigit?_digitChar : ∀ d < 16, hexDigit? (Nat.digitChar d) = some d := by decide

theorem hexadecimal_of_lt {n : Nat} (h : n < 16) : hexadecimal n = [Nat.digitChar n] :=
  Nat.toDigits_of_lt_base h

/-- The last digit of a number is its remainder, and the others are those of its quotient. -/
theorem hexadecimal_of_le {n : Nat} (h : 16 ≤ n) :
    hexadecimal n = hexadecimal (n / 16) ++ [Nat.digitChar (n % 16)] := by
  have small : n % 16 < 16 := Nat.mod_lt n (by decide)
  have digits := Nat.toDigits_append_toDigits (b := 16) (by decide) (show 0 < n / 16 by omega) small
  rw [Nat.div_add_mod, Nat.toDigits_of_lt_base small] at digits
  exact digits.symm

/-- A number other than zero does not start with a zero, in whatever base. -/
theorem exists_head_toDigits {b n : Nat} (low : 1 < b) (high : b ≤ 16) (pos : 0 < n) :
    ∃ first rest, Nat.toDigits b n = first :: rest ∧ first ≠ '0' := by
  induction n using Nat.strongRecOn with
  | ind n ih =>
    by_cases small : n < b
    -- a single digit, and the zero is the digit of zero alone
    · have nonzero : ∀ d < 16, 0 < d → Nat.digitChar d ≠ '0' := by decide
      exact ⟨_, [], Nat.toDigits_of_lt_base small, nonzero n (by omega) pos⟩
    · -- the digit in front is that of the quotient, which is not zero either
      have large : b ≤ n := Nat.le_of_not_lt small
      obtain ⟨first, rest, digits, nonzero⟩ :=
        ih (n / b) (Nat.div_lt_self pos low) (Nat.div_pos large (by omega))
      refine ⟨first, rest ++ [Nat.digitChar (n % b)], ?_, nonzero⟩
      rw [Nat.toDigits_of_base_le low large, digits, List.cons_append]

/-- Six digits are enough for every code point. -/
theorem length_hexadecimal_le_six {n : Nat} (h : n < 0x1000000) : (hexadecimal n).length ≤ 6 :=
  (Nat.length_toDigits_le_iff (by decide) (by decide)).mpr h

end Numeral

/-! ### Words -/

namespace Text

/-- The word for a truth value. -/
def boolWord (b : Bool) : List Char :=
  if b then ['t', 'r', 'u', 'e'] else ['f', 'a', 'l', 's', 'e']

@[simp] theorem boolWord_true : boolWord true = ['t', 'r', 'u', 'e'] := rfl

@[simp] theorem boolWord_false : boolWord false = ['f', 'a', 'l', 's', 'e'] := rfl

end Text

end Profiles
