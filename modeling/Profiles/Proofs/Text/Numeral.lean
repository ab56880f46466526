import Mathlib.Data.List.Basic
import Mathlib.Data.List.Induction
import Profiles.Proofs.Debug.Number

/-!
# Canonical numerals

A number can be written with zeros in front of it, as many as one likes. `Numeral.Canonical` says which numeral
is the canonical one, in the digits of any base up to sixteen: its digits have the value of the number, and it
does not start with a zero that it could do without. There is one such numeral for each number
(`Canonical.unique`), and it is the one that `Nat.toDigits` writes (`canonical_toDigits`).

Numerals are compared from their last digits, which are the remainders of their numbers. What stands in front
of the last digit is a canonical numeral again, that of the quotient, unless nothing does.
-/

namespace Profiles.Numeral

variable {alphabet text front : List Char} {c : Char} {n d : Nat}

/-! ### Digits and their values -/

/-- The digits of a base, in the order of their values. -/
structure IsAlphabet (alphabet : List Char) : Prop where
  zero : alphabet.head? = some '0'
  values : alphabet.map hexDigit? = (List.range alphabet.length).map some

theorem IsAlphabet.hexDigit?_eq (complete : IsAlphabet alphabet) (bound : d < alphabet.length)
    (place : alphabet[d]? = some c) : hexDigit? c = some d := by
  have values : (alphabet.map hexDigit?)[d]? = ((List.range alphabet.length).map some)[d]? := by
    rw [complete.values]
  rw [List.getElem?_map, place, List.getElem?_map, List.getElem?_range bound] at values
  exact Option.some.inj values

/-- A digit stands at the place of its value. -/
theorem IsAlphabet.exists_digit (complete : IsAlphabet alphabet) (h : c ∈ alphabet) :
    ∃ d < alphabet.length, hexDigit? c = some d ∧ alphabet[d]? = some c := by
  obtain ⟨d, bound, rfl⟩ := List.getElem_of_mem h
  have place := List.getElem?_eq_getElem bound
  exact ⟨d, bound, complete.hexDigit?_eq bound place, place⟩

/-- What has a value does not lose it by digits behind it. -/
theorem foldl_addDigit_pos {base : Nat} (hb : 0 < base) (text : List Char) (pos : 0 < n) :
    0 < text.foldl (addDigit base) n := by
  -- reading on multiplies by the base and adds, so the value stays above nothing
  induction text generalizing n with
  | nil => exact pos
  | cons c text ih =>
    refine ih ?_
    cases read : hexDigit? c with
    | none => rwa [addDigit_of_none read]
    | some d =>
      rw [addDigit_of_some read]
      exact Nat.add_pos_left (Nat.mul_pos hb pos) d

/-- A numeral that does not start with a zero has a value. -/
theorem value_pos (complete : IsAlphabet alphabet) (drawn : ∀ c ∈ text, c ∈ alphabet) (nonempty : text ≠ [])
    (head : text.head? ≠ some '0') : 0 < value alphabet.length text := by
  obtain ⟨c, rest, rfl⟩ := List.exists_cons_of_ne_nil nonempty
  obtain ⟨d, bound, read, place⟩ := complete.exists_digit (drawn c List.mem_cons_self)
  have pos : 0 < d := by
    refine Nat.pos_of_ne_zero ?_
    rintro rfl
    -- the digit in the first place of the alphabet is the zero
    rw [← List.head?_eq_getElem?, complete.zero] at place
    exact head place.symm
  unfold value
  rw [List.foldl_cons, addDigit_of_some read]
  exact foldl_addDigit_pos (by omega) rest (by omega)

/-! ### The canonical numeral -/

/-- **The canonical numeral of a number**, in the digits of an alphabet. -/
structure Canonical (alphabet : List Char) (n : Nat) (text : List Char) : Prop where
  drawn : ∀ c ∈ text, c ∈ alphabet
  nonempty : text ≠ []
  value_eq : value alphabet.length text = n
  /-- There is no zero in front, but for the numeral of zero itself. -/
  needed : text.head? = some '0' → text = ['0']

namespace Canonical

/-- What stands in front of the last digit does not start with a zero. -/
theorem head?_front (h : Canonical alphabet n (front ++ [c])) (more : front ≠ []) :
    front.head? ≠ some '0' := by
  -- it would be all of the numeral, and there is another digit behind it
  intro zero
  obtain ⟨first, rest, rfl⟩ := List.exists_cons_of_ne_nil more
  have whole := h.needed zero
  simp at whole

/-- What stands in front of the last digit is the canonical numeral of its value. -/
theorem init (h : Canonical alphabet n (front ++ [c])) (more : front ≠ []) :
    Canonical alphabet (value alphabet.length front) front where
  drawn c' h' := h.drawn c' (List.mem_append_left [c] h')
  nonempty := more
  value_eq := rfl
  needed zero := absurd zero (h.head?_front more)

/-- The digits in front of the last one have a value where there are any. -/
theorem init_eq_nil_iff (complete : IsAlphabet alphabet) (h : Canonical alphabet n (front ++ [c])) :
    front = [] ↔ value alphabet.length front = 0 := by
  constructor
  · rintro rfl
    rfl
  -- what has digits and no zero in front has a value
  · intro zero
    by_cases more : front = []
    · exact more
    · have pos := value_pos complete (h.init more).drawn more (h.head?_front more)
      omega

/-- **A number has one canonical numeral.** -/
theorem unique (complete : IsAlphabet alphabet) {text' : List Char} (h : Canonical alphabet n text)
    (h' : Canonical alphabet n text') : text = text' := by
  -- from the last digit, since that is the remainder whatever stands in front of it
  induction text using List.reverseRecOn generalizing n text' with
  | nil => exact absurd rfl h.nonempty
  | append_singleton front c ih =>
    obtain ⟨front', c', rfl⟩ := (List.eq_nil_or_concat' text').resolve_left h'.nonempty
    obtain ⟨d, bound, read, place⟩ := complete.exists_digit (h.drawn c List.mem_concat_self)
    obtain ⟨d', bound', read', place'⟩ := complete.exists_digit (h'.drawn c' List.mem_concat_self)
    have value_eq := h.value_eq.trans h'.value_eq.symm
    rw [value_concat read, value_concat read'] at value_eq
    -- the last digits are the remainders, and the others have the quotients
    have last : d = d' := by
      have remainder := congrArg (· % alphabet.length) value_eq
      simpa [Nat.mul_add_mod, Nat.mod_eq_of_lt, bound, bound'] using remainder
    subst last
    have quotient : value alphabet.length front = value alphabet.length front' :=
      Nat.eq_of_mul_eq_mul_left (by omega) (Nat.add_right_cancel value_eq)
    obtain rfl : c = c' := Option.some.inj (place.symm.trans place')
    -- in front of the last digit either both have nothing or both have canonical numerals of the quotient
    have fronts : front = front' := by
      by_cases single : front = []
      · have none := (h.init_eq_nil_iff complete).mp single
        rw [single, (h'.init_eq_nil_iff complete).mpr (quotient ▸ none)]
      · have more : front' ≠ [] := by
          intro single'
          have none := (h'.init_eq_nil_iff complete).mp single'
          exact single ((h.init_eq_nil_iff complete).mpr (quotient.trans none))
        refine ih (h.init single) ?_
        rw [quotient]
        exact h'.init more
    rw [fronts]

end Canonical

/-- **The digits of a number are its canonical numeral**, drawn in the digits of an alphabet. -/
theorem canonical_toDigits (draw : Char → Char) (complete : IsAlphabet alphabet)
    (low : 1 < alphabet.length) (high : alphabet.length ≤ 16)
    (drawn : (List.range alphabet.length).map (fun d => draw (Nat.digitChar d)) = alphabet) (n : Nat) :
    Canonical alphabet n ((Nat.toDigits alphabet.length n).map draw) := by
  -- the digit of a value is drawn in the place of that value
  have place (d : Nat) (bound : d < alphabet.length) : alphabet[d]? = some (draw (Nat.digitChar d)) := by
    have digits := congrArg (fun digits => digits[d]?) drawn
    simpa [bound] using digits.symm
  have read (d : Nat) (bound : d < alphabet.length) : hexDigit? (draw (Nat.digitChar d)) = some d :=
    complete.hexDigit?_eq bound (place d bound)
  refine ⟨?_, ?_, value_map_toDigits low read n, ?_⟩
  · intro c h
    obtain ⟨digit, written, rfl⟩ := List.mem_map.mp h
    obtain ⟨d, bound, rfl⟩ := exists_of_mem_toDigits low written
    exact List.mem_of_getElem? (place d bound)
  · exact fun empty => Nat.toDigits_ne_nil (List.map_eq_nil_iff.mp empty)
  · intro zero
    -- only the numeral of zero begins with one
    obtain rfl | pos := Nat.eq_zero_or_pos n
    · -- the numeral of zero is a single digit
      rw [Nat.toDigits_of_lt_base (by omega)] at zero ⊢
      exact congrArg (· :: []) (Option.some.inj zero)
    · obtain ⟨first, rest, digits, nonzero⟩ := exists_head_toDigits low high pos
      obtain ⟨d, bound, rfl⟩ := exists_of_mem_toDigits low (digits ▸ List.mem_cons_self)
      rw [digits] at zero
      -- the digit in front is drawn as a zero, so it is read as one
      have worth := read d bound
      rw [Option.some.inj zero] at worth
      obtain rfl : 0 = d := Option.some.inj worth
      exact absurd rfl nonzero

end Profiles.Numeral
