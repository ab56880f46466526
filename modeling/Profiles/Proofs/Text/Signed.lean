import Mathlib.Data.Nat.Digits.Defs
import Profiles.Proofs.Text.Numeral

/-!
# Signed numerals

A numeral is a run of decimal digits, at least one, with a minus sign in front of it or without. `Denotes` says
what it stands for: the sum of its digits, each times a power of ten, and the negative of that behind a minus
sign. There may be any number of zeros in front, so a long numeral need not stand for a large number.

`Numeral.readInt64?` reads exactly the numerals of the numbers that a word of 64 bits has
(`readInt64?_eq_some_iff`). It takes the whole value before it looks at its size, so there is no limit to the
length of what it reads.

Of all numerals of a number one is `Terse`: it has no zero in front that could be left out, and zero has no sign.
It is the one that is written (`terse_iff`).
-/

namespace Profiles.Numeral

/-! ### What a numeral stands for -/

/-- The sum of the digits, each times its power of ten; the last one is worth itself. -/
def positional (digits : List Char) : Nat :=
  Nat.ofDigits 10 (digits.reverse.map fun c => c.toNat - '0'.toNat)

/-- A run of decimal digits, at least one. -/
structure IsDigits (text : List Char) : Prop where
  nonempty : text ≠ []
  drawn : ∀ c ∈ text, c ∈ "0123456789".toList

/-- **What a numeral stands for.** -/
inductive Denotes : List Char → Int → Prop where
  | plain {digits : List Char} (run : IsDigits digits) : Denotes digits (positional digits)
  | minus {digits : List Char} (run : IsDigits digits) : Denotes ('-' :: digits) (-positional digits)

/-- A numeral with no zero in front that could be left out, and no sign before a zero. -/
structure Terse (text : List Char) : Prop where
  zeros : ∀ rest, text = '0' :: rest → rest = []
  sign : ∀ rest, text ≠ '-' :: '0' :: rest

variable {text digits : List Char} {c : Char}

/-! ### Reading -/

theorem mem_digits_iff : c ∈ "0123456789".toList ↔ c.isDigit = true := by
  constructor
  · have all : "0123456789".toList.all Char.isDigit = true := by decide
    exact fun drawn => List.all_eq_true.mp all c drawn
  · intro digit
    -- the codes of the digits follow one another, from that of the zero on
    obtain ⟨low, high⟩ := Char.isDigit_iff_toNat.mp digit
    have codes : ∀ code < 58, 48 ≤ code → Char.ofNat code ∈ "0123456789".toList := by decide
    rw [← c.ofNat_toNat]
    exact codes c.toNat (Nat.lt_succ_of_le high) low

/-- Summing up from the last digit comes to the same as reading on from the first. -/
theorem positional_eq (digits : List Char) : positional digits = Nat.ofDigitChars 10 digits 0 := by
  -- both are the same fold, once the one has been turned round
  rw [positional, Nat.ofDigits_eq_foldr, List.foldr_map, List.foldr_reverse, Nat.ofDigitChars_eq_foldl]
  simp only [Nat.cast_id, Nat.add_comm]

/-- A run of digits is read, and nothing else is. -/
theorem readNat?_eq_some_iff {n : Nat} :
    readNat? digits = some n ↔ IsDigits digits ∧ positional digits = n := by
  -- the test that the reader makes is the one of the grammar
  have run : (digits ≠ [] ∧ digits.all Char.isDigit = true) ↔ IsDigits digits := by
    rw [List.all_eq_true]
    constructor
    · rintro ⟨nonempty, all⟩
      exact ⟨nonempty, fun c among => mem_digits_iff.mpr (all c among)⟩
    · intro run
      exact ⟨run.nonempty, fun c among => mem_digits_iff.mp (run.drawn c among)⟩
  rw [readNat?, ← positional_eq]
  by_cases digit : IsDigits digits
  · rw [if_pos (run.mpr digit), Option.some.injEq]
    exact ⟨fun value => ⟨digit, value⟩, And.right⟩
  · rw [if_neg fun all => digit (run.mp all)]
    exact iff_of_false (Option.some_ne_none n).symm fun read => digit read.1

/-- A minus sign is no digit. -/
theorem IsDigits.ne_minus (run : IsDigits text) : text ≠ '-' :: digits := by
  rintro rfl
  have drawn := run.drawn '-' List.mem_cons_self
  exact absurd (mem_digits_iff.mp drawn) (by decide)

/-- What is read behind a minus sign. -/
theorem readInt?_minus_eq_some_iff {i : Int} :
    readInt? ('-' :: digits) = some i ↔ ∃ n : Nat, readNat? digits = some n ∧ i = -n := by
  rw [readInt?]
  cases readNat? digits with
  | none =>
    constructor
    · intro read
      cases read
    · rintro ⟨n, read, -⟩
      cases read
  | some n =>
    show some (-(n : Int)) = some i ↔ _
    simp [eq_comm]

/-- What is read where there is no minus sign in front. -/
theorem readInt?_plain_eq_some_iff {i : Int} (unsigned : ∀ digits, text ≠ '-' :: digits) :
    readInt? text = some i ↔ ∃ n : Nat, readNat? text = some n ∧ i = n := by
  rw [readInt?, Option.map_eq_some_iff]
  · simp only [eq_comm, Int.ofNat_eq_natCast]
  · exact unsigned

/-- **Reading finds what a numeral stands for**, and reads numerals only. -/
theorem readInt?_eq_some_iff {i : Int} : readInt? text = some i ↔ Denotes text i := by
  -- the reader and the grammar both look at the sign first
  by_cases signed : ∃ digits, text = '-' :: digits
  · obtain ⟨digits, rfl⟩ := signed
    rw [readInt?_minus_eq_some_iff]
    constructor
    · rintro ⟨n, size, rfl⟩
      obtain ⟨run, rfl⟩ := readNat?_eq_some_iff.mp size
      exact .minus run
    · intro denotes
      cases denotes with
      | minus run => exact ⟨_, readNat?_eq_some_iff.mpr ⟨run, rfl⟩, rfl⟩
      | plain run => exact absurd rfl run.ne_minus
  · have unsigned : ∀ digits, text ≠ '-' :: digits := fun digits sign => signed ⟨digits, sign⟩
    rw [readInt?_plain_eq_some_iff unsigned]
    constructor
    · rintro ⟨n, size, rfl⟩
      obtain ⟨run, rfl⟩ := readNat?_eq_some_iff.mp size
      exact .plain run
    · intro denotes
      cases denotes with
      | minus run => exact absurd rfl (unsigned _)
      | plain run => exact ⟨_, readNat?_eq_some_iff.mpr ⟨run, rfl⟩, rfl⟩

/-- A numeral stands for one number. -/
theorem Denotes.unique {i j : Int} (first : Denotes text i) (second : Denotes text j) : i = j := by
  have read := readInt?_eq_some_iff.mpr first
  rw [readInt?_eq_some_iff.mpr second] at read
  exact (Option.some.inj read).symm

/-- Zeros in front add nothing. -/
theorem positional_zeros (count : Nat) (digits : List Char) :
    positional (List.replicate count '0' ++ digits) = positional digits := by
  induction count with
  | zero => rfl
  | succ count ih =>
    -- a zero in front of a number adds its power of ten no times
    rw [List.replicate_succ, List.cons_append, ← ih, positional_eq, positional_eq, Nat.ofDigitChars_cons]
    rfl

theorem IsDigits.zeros (run : IsDigits digits) (count : Nat) :
    IsDigits (List.replicate count '0' ++ digits) := by
  constructor
  · exact List.append_ne_nil_of_right_ne_nil _ run.nonempty
  · intro c among
    rcases List.mem_append.mp among with front | behind
    · rw [List.eq_of_mem_replicate front]
      decide
    · exact run.drawn c behind

/-- **A numeral may have any number of zeros in front**, behind the sign if there is one. -/
theorem IsDigits.denotes_zeros (run : IsDigits digits) (count : Nat) {sign : List Char}
    (signed : sign ∈ [[], ['-']]) : ∃ i, Denotes (sign ++ digits) i ∧
      Denotes (sign ++ (List.replicate count '0' ++ digits)) i := by
  have same := positional_zeros count digits
  simp only [List.mem_cons, List.not_mem_nil, or_false] at signed
  rcases signed with rfl | rfl
  · refine ⟨positional digits, .plain run, ?_⟩
    rw [← same]
    exact .plain (run.zeros count)
  · refine ⟨-positional digits, .minus run, ?_⟩
    rw [← same]
    exact .minus (run.zeros count)

theorem toInt64?_eq_some_iff {i : Int} {n : Int64} : toInt64? i = some n ↔ n.toInt = i := by
  constructor
  · intro fits
    -- the range is tested, and within it nothing is lost
    unfold toInt64? at fits
    split at fits
    · next range =>
      obtain rfl := Option.some.inj fits
      exact Int64.toInt_ofInt_of_le range.1 range.2
    · cases fits
  · rintro rfl
    exact toInt64?_toInt n

/-- **The numerals that are read as words** are those of the numbers that a word has. -/
theorem readInt64?_eq_some_iff {text : String} {n : Int64} :
    readInt64? text = some n ↔ Denotes text.toList n.toInt := by
  rw [readInt64?, ← readInt?_eq_some_iff]
  constructor
  -- the whole value is read first, and then it must be in the range
  · intro read
    obtain ⟨i, whole, fits⟩ := Option.bind_eq_some_iff.mp read
    rw [whole, toInt64?_eq_some_iff.mp fits]
  · intro read
    exact Option.bind_eq_some_iff.mpr ⟨n.toInt, read, toInt64?_toInt n⟩

/-- Two numerals of one number are read alike. -/
theorem readInt64?_congr {a b : String} {i : Int} (first : Denotes a.toList i) (second : Denotes b.toList i) :
    readInt64? a = readInt64? b := by
  rw [readInt64?, readInt64?, readInt?_eq_some_iff.mpr first, readInt?_eq_some_iff.mpr second]

/-- The numbers that a word has are those of its range. -/
theorem exists_int64_iff {i : Int} :
    (∃ n : Int64, n.toInt = i) ↔ -9223372036854775808 ≤ i ∧ i ≤ 9223372036854775807 := by
  constructor
  · rintro ⟨n, rfl⟩
    exact ⟨n.le_toInt, Int.le_of_lt_add_one n.toInt_lt⟩
  · rintro ⟨low, high⟩
    exact ⟨Int64.ofInt i, Int64.toInt_ofInt_of_le low (Int.lt_add_one_of_le high)⟩

/-! ### Writing -/

/-- The value of decimal digits is the sum that they stand for. -/
theorem IsDigits.value_eq (run : IsDigits digits) : value 10 digits = positional digits := by
  rw [positional_eq, Nat.ofDigitChars_eq_foldl, value]
  -- each digit is worth the same in both sums
  apply List.foldl_ext
  intro n c among
  have digit := mem_digits_iff.mp (run.drawn c among)
  have worth : hexDigit? c = some (c.toNat - '0'.toNat) := by rw [hexDigit?, if_pos digit]
  exact addDigit_of_some worth

/-- Digits without a zero that could be left out are the canonical numeral of their value. -/
theorem IsDigits.eq_toDigits (run : IsDigits digits) (needed : digits.head? = some '0' → digits = ['0']) :
    digits = Nat.toDigits 10 (positional digits) := by
  have complete : IsAlphabet "0123456789".toList := ⟨rfl, rfl⟩
  -- two canonical numerals of one number are the same
  have given : Canonical "0123456789".toList (positional digits) digits :=
    ⟨run.drawn, run.nonempty, run.value_eq, needed⟩
  have written := canonical_toDigits id complete (by decide) (by decide) rfl (positional digits)
  rw [List.map_id] at written
  exact given.unique complete written

theorem toDigits_ne_zero_cons {n : Nat} (pos : 0 < n) (rest : List Char) :
    Nat.toDigits 10 n ≠ '0' :: rest := by
  obtain ⟨first, others, written, nonzero⟩ := exists_head_toDigits (b := 10) (by decide) (by decide) pos
  rw [written]
  intro same
  exact nonzero (List.cons.inj same).1

/-- What is written has nothing to leave out. -/
theorem terse_decimal (i : Int) : Terse (decimal i) := by
  -- a number that is not negative has no sign
  cases i with
  | ofNat n =>
    constructor
    · intro rest written
      obtain rfl | pos := Nat.eq_zero_or_pos n
      · exact (List.cons.inj written).2.symm
      · exact absurd written (toDigits_ne_zero_cons pos rest)
    · intro rest written
      have digits := (readNat?_eq_some_iff.mp (readNat?_toDigits n)).1
      exact digits.ne_minus written
  -- the digits behind the sign are those of a number above zero
  | negSucc n =>
    constructor
    · intro rest written
      cases written
    · intro rest written
      exact toDigits_ne_zero_cons (Nat.succ_pos n) rest (List.cons.inj written).2

/-- **The numeral that is written is the terse one**, and a number has no other. -/
theorem terse_iff {i : Int} : Denotes text i ∧ Terse text ↔ text = decimal i := by
  constructor
  · rintro ⟨denotes, terse⟩
    cases denotes with
    -- without a sign the digits are canonical as they are
    | plain run =>
      refine run.eq_toDigits fun zero => ?_
      obtain ⟨first, rest, rfl⟩ := List.exists_cons_of_ne_nil run.nonempty
      obtain rfl : first = '0' := Option.some.inj zero
      rw [terse.zeros rest rfl]
    -- behind the sign no zero comes first at all
    | @minus digits run =>
      have nonzero : digits.head? ≠ some '0' := by
        intro zero
        obtain ⟨first, rest, rfl⟩ := List.exists_cons_of_ne_nil run.nonempty
        obtain rfl : first = '0' := Option.some.inj zero
        exact terse.sign rest rfl
      have written := run.eq_toDigits fun zero => absurd zero nonzero
      cases size : positional digits with
      | zero =>
        -- the numeral of zero would start with a zero
        rw [size] at written
        rw [written] at nonzero
        exact absurd rfl nonzero
      | succ n =>
        rw [size] at written
        exact congrArg ('-' :: ·) written
  · rintro rfl
    exact ⟨readInt?_eq_some_iff.mp (readInt?_decimal i), terse_decimal i⟩

end Profiles.Numeral
