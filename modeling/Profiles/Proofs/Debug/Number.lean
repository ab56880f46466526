import Profiles.Debug

/-!
# Numbers in a text for debugging

What a number under format flags still tells, and where it ends. `Numeral.value` takes the value of the
digits in a text and passes over everything else, so it is blind to signs, marks and padding; together with
the presence of a minus sign it gives the number back (`Format.int_inj`).

Not every format allows this: a fill of zeros on the right makes one text of five and fifty, and a fill of
minus signs hides the sign. `Format.IsLegible` is what a format must keep to, and all supported ones do
(`Format.isLegible_of_supported`). A legible number holds no comma and no brace, the two marks
that end a field (`Format.mark_notMem_int`).
-/

namespace Profiles

namespace Numeral

/-- One character is read as a digit of the given base, or passed over. -/
def addDigit (base n : Nat) (c : Char) : Nat := (hexDigit? c).elim n (base * n + ·)

/-- The value of the digits in a text, of either case; what is no digit is passed over. -/
def value (base : Nat) (text : List Char) : Nat := text.foldl (addDigit base) 0

variable {base : Nat} {text rest : List Char}

theorem addDigit_of_none {n : Nat} {c : Char} (h : hexDigit? c = none) : addDigit base n c = n := by
  rw [addDigit, h, Option.elim_none]

theorem addDigit_of_some {n d : Nat} {c : Char} (h : hexDigit? c = some d) :
    addDigit base n c = base * n + d := by
  rw [addDigit, h, Option.elim_some]

/-- What holds no digit adds nothing behind a number. -/
theorem value_append_left (h : ∀ c ∈ rest, hexDigit? c = none) :
    value base (text ++ rest) = value base text := by
  unfold value
  rw [List.foldl_append]
  -- the fold goes on from the value so far, which may be any
  generalize text.foldl (addDigit base) 0 = n
  induction rest with
  | nil => rfl
  | cons c rest ih =>
    rw [List.foldl_cons, addDigit_of_none (h c (by simp))]
    exact ih fun d hd => h d (List.mem_cons_of_mem _ hd)

/-- What holds no digit but zeros adds nothing in front of a number. -/
theorem value_append_right (h : ∀ c ∈ text, hexDigit? c = none ∨ c = '0') :
    value base (text ++ rest) = value base rest := by
  induction text with
  | nil => rfl
  | cons c text ih =>
    -- in front of a number the value is still nothing, so a zero adds nothing to it
    have first : addDigit base 0 c = 0 := by
      obtain noDigit | rfl := h c (by simp)
      · exact addDigit_of_none noDigit
      · rw [addDigit_of_some (d := 0) (by decide)]; rfl
    unfold value at ih ⊢
    rw [List.cons_append, List.foldl_cons, first]
    exact ih fun d hd => h d (List.mem_cons_of_mem _ hd)

/-- The last digit of a numeral is worth itself, and those in front of it are worth the base times more. -/
theorem value_concat {c : Char} {d : Nat} (read : hexDigit? c = some d) :
    value base (text ++ [c]) = base * value base text + d := by
  unfold value
  rw [List.foldl_append, List.foldl_cons, List.foldl_nil, addDigit_of_some read]

theorem exists_of_mem_toDigits (hb : 1 < base) {n : Nat} {c : Char} (h : c ∈ Nat.toDigits base n) :
    ∃ d < base, c = Nat.digitChar d := by
  induction n using Nat.strongRecOn with
  | ind n ih =>
    by_cases small : n < base
    · rw [Nat.toDigits_of_lt_base small, List.mem_singleton] at h
      exact ⟨n, small, h⟩
    -- the last digit is the remainder, and the others are those of the quotient
    · rw [Nat.toDigits_of_base_le hb (by omega), List.mem_append, List.mem_singleton] at h
      obtain h | h := h
      · exact ih (n / base) (Nat.div_lt_self (by omega) hb) h
      · exact ⟨n % base, Nat.mod_lt n (by omega), h⟩

/-- **The digits of a number have its value**, however they are drawn. -/
theorem value_map_toDigits (hb : 1 < base) {draw : Char → Char}
    (drawn : ∀ d < base, hexDigit? (draw (Nat.digitChar d)) = some d) (n : Nat) :
    value base ((Nat.toDigits base n).map draw) = n := by
  induction n using Nat.strongRecOn with
  | ind n ih =>
    by_cases small : n < base
    · rw [Nat.toDigits_of_lt_base small]
      show addDigit base 0 (draw (Nat.digitChar n)) = n
      rw [addDigit_of_some (drawn n small), Nat.mul_zero, Nat.zero_add]
    · -- the last digit stands behind the digits of the quotient, which have its value
      have fewer := ih (n / base) (Nat.div_lt_self (by omega) hb)
      have last := drawn (n % base) (Nat.mod_lt n (by omega))
      rw [Nat.toDigits_of_base_le hb (by omega), List.map_append, List.map_singleton, value_concat last, fewer,
        Nat.div_add_mod]

end Numeral

namespace Format

variable {format : Format}

/-! ### The digits -/

/-- The base that a format writes numbers in. -/
def base (format : Format) : Nat := if format.hex.isSome then 16 else 10

/-- What the digits of a number tell: its size, or in hexadecimal its word. -/
def magnitude (format : Format) (n : Int64) : Nat :=
  if format.hex.isSome then n.toUInt64.toNat else n.toInt.natAbs

theorem one_lt_base (format : Format) : 1 < format.base := by
  unfold base
  split <;> decide

/-- The digits that a format writes are those of the magnitude in its base, drawn in one of two cases. -/
theorem exists_draw (format : Format) (n : Int64) : ∃ draw : Char → Char,
    (∀ d < format.base, Numeral.hexDigit? (draw (Nat.digitChar d)) = some d) ∧
      format.digits n = (Nat.toDigits format.base (format.magnitude n)).map draw := by
  have lower : ∀ d < 16, Numeral.hexDigit? (id (Nat.digitChar d)) = some d := by decide
  have upper : ∀ d < 16, Numeral.hexDigit? (Nat.digitChar d).toUpper = some d := by decide
  unfold digits base magnitude Numeral.hexadecimal
  cases format.hex with
  | none => exact ⟨id, fun d (hd : d < 10) => lower d (by omega), (List.map_id _).symm⟩
  | some letters =>
    cases letters with
    | lower => exact ⟨id, lower, (List.map_id _).symm⟩
    | upper => exact ⟨Char.toUpper, upper, rfl⟩

theorem value_digits (format : Format) (n : Int64) :
    Numeral.value format.base (format.digits n) = format.magnitude n := by
  obtain ⟨draw, drawn, digits⟩ := format.exists_draw n
  rw [digits, Numeral.value_map_toDigits format.one_lt_base drawn]

theorem isSome_of_mem_digits {n : Int64} {c : Char} (h : c ∈ format.digits n) :
    (Numeral.hexDigit? c).isSome := by
  obtain ⟨draw, drawn, digits⟩ := format.exists_draw n
  rw [digits] at h
  obtain ⟨e, he, rfl⟩ := List.mem_map.mp h
  obtain ⟨d, hd, rfl⟩ := Numeral.exists_of_mem_toDigits format.one_lt_base he
  rw [drawn d hd, Option.isSome_some]

/-! ### Legible formats -/

/-- **A format whose numbers can be read.** Its fill is neither a minus sign nor one of the marks that end
a field, and no digit either, but for zeros in front. -/
def IsLegible (format : Format) : Prop :=
  format.fill ∉ ['-', ',', '}'] ∧
    (Numeral.hexDigit? format.fill = none ∨ format.fill = '0' ∧ format.align = some .right)

instance (format : Format) : Decidable format.IsLegible :=
  inferInstanceAs (Decidable (_ ∧ _))

theorem isLegible_of_supported :
    ∀ spec ∈ supported, (ofSpec? spec).any fun format => decide format.IsLegible := by decide

/-- Padding does not change the value of a number. -/
theorem value_pad (legible : format.IsLegible) (base : Nat) (text : List Char) :
    Numeral.value base (format.pad .right text) = Numeral.value base text := by
  have filled : ∀ k, ∀ c ∈ List.replicate k format.fill, c = format.fill :=
    fun k c hc => List.eq_of_mem_replicate hc
  obtain noDigit | ⟨zero, right⟩ := legible.2
  · have blank : ∀ k, ∀ c ∈ List.replicate k format.fill, Numeral.hexDigit? c = none := by
      intro k c hc
      rw [filled k c hc, noDigit]
    have front : ∀ k rest, Numeral.value base (List.replicate k format.fill ++ rest)
        = Numeral.value base rest :=
      fun k rest => Numeral.value_append_right fun c hc => .inl (blank k c hc)
    -- a fill without value may stand on either side
    unfold pad
    cases format.align.getD .right with
    | left => exact Numeral.value_append_left (blank _)
    | right => exact front _ _
    | center =>
      show Numeral.value base (_ ++ text ++ _) = _
      rw [Numeral.value_append_left (blank _), front]
  · -- zeros stand in front of the number only
    unfold pad
    rw [right]
    exact Numeral.value_append_right fun c hc => .inr ((filled _ c hc).trans zero)

/-- **The value of a number in a text is its magnitude**, under whatever flags of a legible format. -/
theorem value_int (legible : format.IsLegible) (n : Int64) :
    Numeral.value format.base (format.int n) = format.magnitude n := by
  have head : ∀ c ∈ format.sign (n < 0) ++ format.mark, Numeral.hexDigit? c = none ∨ c = '0' := by
    -- four characters can stand there, and the only digit among them is zero
    have signs : ∀ c ∈ ['-', '+', '0', 'x'], Numeral.hexDigit? c = none ∨ c = '0' := by
      simp only [List.mem_cons, List.not_mem_nil, or_false, forall_eq_or_imp, forall_eq]
      decide
    intro c hc
    apply signs
    unfold sign mark at hc
    split at hc <;> split at hc <;> (try split at hc) <;> simp_all
  -- the zero flag puts its zeros behind the sign; without it the whole number is padded
  unfold int
  by_cases zero : format.zero
  · rw [if_pos zero, Numeral.value_append_right, value_digits]
    intro c hc
    rw [List.mem_append, List.mem_replicate] at hc
    exact hc.elim (head c) fun h => .inr h.2
  · rw [if_neg zero, value_pad legible, Numeral.value_append_right head, value_digits]

/-! ### Marks -/

/-- A character that is no digit and no fill is in a number only as its sign. -/
theorem mem_int_iff {c : Char} (fill : c ≠ format.fill) (digit : Numeral.hexDigit? c = none)
    (notX : c ≠ 'x') (n : Int64) : c ∈ format.int n ↔ c ∈ format.sign (n < 0) := by
  have notZero : c ≠ '0' := by
    rintro rfl
    exact absurd digit (by decide)
  have notMark : c ∉ format.mark := by
    unfold mark
    split <;> simp [notZero, notX]
  have notDigit : c ∉ format.digits n := by
    intro h
    have some := isSome_of_mem_digits h
    rw [digit] at some
    exact absurd some (by decide)
  have notFill : ∀ k, c ∉ List.replicate k format.fill :=
    fun k h => fill (List.eq_of_mem_replicate h)
  have notZeros : ∀ k, c ∉ List.replicate k '0' :=
    fun k h => notZero (List.eq_of_mem_replicate h)
  -- no piece but the sign holds `c`, wherever the pieces are put
  unfold int
  split
  · simp [notMark, notDigit, notZeros]
  · unfold pad
    split <;> simp [notMark, notDigit, notFill]

/-- A legible number holds neither of the marks that end a field. -/
theorem mark_notMem_int (legible : format.IsLegible) {c : Char} (h : c = ',' ∨ c = '}') (n : Int64) :
    c ∉ format.int n := by
  have fill : c ≠ format.fill := by
    rintro rfl
    apply legible.1
    obtain h | h := h <;> simp [h]
  have digit : Numeral.hexDigit? c = none := by obtain rfl | rfl := h <;> decide
  rw [mem_int_iff fill digit (by obtain rfl | rfl := h <;> decide)]
  unfold sign
  split <;> (try split) <;> obtain rfl | rfl := h <;> decide

/-- A legible decimal number shows whether it is negative. -/
theorem minus_mem_int_iff (legible : format.IsLegible) (n : Int64) :
    '-' ∈ format.int n ↔ n < 0 ∧ format.hex = none := by
  have fill : '-' ≠ format.fill := by
    intro h
    apply legible.1
    simp [← h]
  rw [mem_int_iff fill (by decide) (by decide)]
  unfold sign
  split
  · simp_all
  · split <;> simp_all

/-- **Numbers that are written alike are equal.** -/
theorem int_inj (legible : format.IsLegible) {a b : Int64} (h : format.int a = format.int b) : a = b := by
  -- two equal texts have one value and agree on the sign
  have size : format.magnitude a = format.magnitude b := by
    rw [← value_int legible, ← value_int legible, h]
  have minus : (a < 0 ∧ format.hex = none) ↔ (b < 0 ∧ format.hex = none) := by
    rw [← minus_mem_int_iff legible, ← minus_mem_int_iff legible, h]
  unfold magnitude at size
  cases hex : format.hex with
  | none =>
    -- of two numbers of one size and one sign neither is the negative of the other
    simp only [hex, and_true, Int64.lt_iff_toInt_lt] at size minus
    apply Int64.toInt_inj.mp
    have zero : (0 : Int64).toInt = 0 := rfl
    rw [zero] at minus
    simp at size
    omega
  | some letters =>
    -- the magnitude is the word itself, sign and all
    rw [hex] at size
    have word : a.toUInt64 = b.toUInt64 := UInt64.toNat_inj.mp size
    rw [← Int64.toInt64_toUInt64 a, word, Int64.toInt64_toUInt64]

end Format

end Profiles
