import Mathlib.Data.List.Forall2
import Profiles.Proofs.Text.Numeral
import Profiles.Text.Literal

/-!
# The grammar of string literals

A character can be written inside a literal in more than one way: as itself, by a letter behind a backslash, or by
its code point in braces, with digits of either case and with zeros in front of them. `Literal.Writes` says which ways
there are, and `Literal.Reads` puts characters together to a literal with the text that follows it. The scanner
takes exactly these literals (`scan?_eq_some_iff`). Its `Mode` does not show in the grammar: what it does between a
brace and the other is one step there.

Of all ways to write a character `escape` chooses one, and `Literal.Spelled` says which without running it
(`spelled_iff`): the letter where there is one, the canonical hexadecimal numeral for any other hidden character,
and the character itself for all that are left. So no hidden character is left between the quotes
(`isHidden_of_mem_body`).
-/

namespace Profiles.Text.Literal

variable {c : Char} {source text rest digits : List Char}

/-- The characters that are written by a letter behind a backslash, each with its letter. -/
def letters : List (Char × Char) :=
  [('\x00', '0'), ('\t', 't'), ('\r', 'r'), ('\n', 'n'), ('"', '"'), ('\\', '\\')]

/-! ### The grammar -/

/-- **The ways to write a character.** -/
inductive Writes : List Char → Char → Prop where
  | itself {c : Char} (noQuote : c ≠ '"') (noBackslash : c ≠ '\\') : Writes [c] c
  | letter {c letter : Char} (known : (c, letter) ∈ letters) : Writes ['\\', letter] c
  | codePoint {c : Char} {digits : List Char} (nonempty : digits ≠ []) (short : digits.length ≤ 6)
      (drawn : ∀ d ∈ digits, (Numeral.hexDigit? d).isSome) (value_eq : Numeral.value 16 digits = c.toNat) :
      Writes ('\\' :: 'u' :: '{' :: (digits ++ ['}'])) c

/-- **A literal and what follows it**, from the character behind its opening quote. -/
inductive Reads : List Char → List Char → List Char → Prop where
  | close (rest : List Char) : Reads ('"' :: rest) [] rest
  | next {c : Char} {written source text rest : List Char} (first : Writes written c)
      (others : Reads source text rest) : Reads (written ++ source) (c :: text) rest

/-! ### Written literals are scanned -/

theorem front_eq_some_iff {c : Char} {result : Option (List Char × List Char)} :
    front c result = some (text, rest) ↔ ∃ others, text = c :: others ∧ result = some (others, rest) := by
  cases result with
  | none => simp [front]
  | some read =>
    obtain ⟨others, after⟩ := read
    simp only [front, Option.map_some, Option.some.injEq, Prod.mk.injEq]
    constructor
    · rintro ⟨rfl, rfl⟩
      exact ⟨others, rfl, rfl, rfl⟩
    · rintro ⟨_, rfl, rfl, rfl⟩
      exact ⟨rfl, rfl⟩

theorem ofCodePoint?_eq_some_iff {n : Nat} : ofCodePoint? n = some c ↔ n = c.toNat := by
  constructor
  · intro found
    unfold ofCodePoint? at found
    split at found
    · next valid =>
      obtain rfl := Option.some.inj found
      rw [Char.ofNat, dif_pos valid]
      rfl
    · cases found
  · rintro rfl
    exact ofCodePoint?_toNat c

/-- Digits in braces are taken one after the other, as long as there are no more than six. -/
theorem scan?_digits (drawn : ∀ d ∈ digits, (Numeral.hexDigit? d).isSome) {count value : Nat}
    (short : count + digits.length ≤ 6) (source : List Char) :
    scan? (.digits count value) (digits ++ source) =
      scan? (.digits (count + digits.length) (digits.foldl (Numeral.addDigit 16) value)) source := by
  induction digits generalizing count value with
  | nil => rfl
  | cons d digits ih =>
    obtain ⟨digit, others⟩ := List.forall_mem_cons.mp drawn
    obtain ⟨worth, read⟩ := Option.isSome_iff_exists.mp digit
    -- a brace would end the digits
    have noBrace : d ≠ '}' := by
      rintro rfl
      cases read
    rw [List.length_cons] at short
    have room : count < 6 := by omega
    -- there is room for one more, so the state counts it and adds its value
    rw [List.cons_append, scan?, if_neg noBrace]
    simp only [read, if_pos room]
    rw [ih others (by omega), List.foldl_cons, Numeral.addDigit_of_some read, List.length_cons,
      Nat.add_assoc count 1, Nat.add_comm 1]

/-- A character that is written in any of the ways is scanned. -/
theorem scan?_writes {written : List Char} (writes : Writes written c) (source : List Char) :
    scan? .plain (written ++ source) = front c (scan? .plain source) := by
  cases writes with
  | itself noQuote noBackslash =>
    rw [List.singleton_append, scan?, if_neg noQuote, if_neg noBackslash]
  -- the table is gone through, and the scanner has the same letters
  | letter known =>
    simp only [letters, List.mem_cons, Prod.mk.injEq, List.not_mem_nil, or_false] at known
    rcases known with ⟨rfl, rfl⟩ | ⟨rfl, rfl⟩ | ⟨rfl, rfl⟩ | ⟨rfl, rfl⟩ | ⟨rfl, rfl⟩ | ⟨rfl, rfl⟩
    all_goals rfl
  -- the digits are gathered first, and the brace turns their value into the character
  | @codePoint _ digits nonempty short drawn value_eq =>
    have some_digit : 0 + digits.length ≠ 0 := by
      rw [Nat.zero_add]
      exact fun empty => nonempty (List.length_eq_zero_iff.mp empty)
    calc scan? .plain ('\\' :: 'u' :: '{' :: (digits ++ ['}']) ++ source)
        = scan? (.digits 0 0) (digits ++ '}' :: source) := by simp [scan?]
      _ = scan? (.digits (0 + digits.length) (Numeral.value 16 digits)) ('}' :: source) :=
        scan?_digits drawn (by omega) _
      _ = front c (scan? .plain source) := by
        rw [scan?, if_pos rfl, ofCodePoint?_eq_some_iff.mpr value_eq]
        exact if_neg some_digit

theorem scan?_of_reads (reads : Reads source text rest) : scan? .plain source = some (text, rest) := by
  induction reads with
  | close rest => rfl
  | next first others ih =>
    rw [scan?_writes first, ih]
    rfl

/-! ### Scanned literals are written -/

/-- What is scanned in braces is digits, up to the closing one. -/
theorem exists_digits {count value : Nat} (few : count ≤ 6)
    (scanned : scan? (.digits count value) source = some (text, rest)) :
    ∃ digits c behind others, source = digits ++ '}' :: behind ∧ (∀ d ∈ digits, (Numeral.hexDigit? d).isSome) ∧
      0 < count + digits.length ∧ count + digits.length ≤ 6 ∧
      digits.foldl (Numeral.addDigit 16) value = c.toNat ∧ text = c :: others ∧
      scan? .plain behind = some (others, rest) := by
  induction source generalizing count value with
  | nil => cases scanned
  | cons d source ih =>
    rw [scan?] at scanned
    split at scanned
    · next brace =>
      -- the digits end here, and there must have been one
      subst brace
      split at scanned
      · next c found =>
        split at scanned
        · cases scanned
        · next some_digit =>
          obtain ⟨others, rfl, behind⟩ := front_eq_some_iff.mp scanned
          exact ⟨[], c, source, others, rfl, List.forall_mem_nil _, Nat.pos_of_ne_zero some_digit, few,
            ofCodePoint?_eq_some_iff.mp found, rfl, behind⟩
      · cases scanned
    · split at scanned
      -- a digit, which was counted because there was room for it
      · next worth read =>
        split at scanned
        · next room =>
          obtain ⟨digits, c, behind, others, rfl, drawn, -, short, total, rfl, later⟩ := ih room scanned
          have digit : (Numeral.hexDigit? d).isSome := Option.isSome_iff_exists.mpr ⟨worth, read⟩
          refine ⟨d :: digits, c, behind, others, rfl, List.forall_mem_cons.mpr ⟨digit, drawn⟩, ?_, ?_, ?_, rfl,
            later⟩
          · exact Nat.succ_pos _
          · rw [List.length_cons]
            omega
          · rw [List.foldl_cons, Numeral.addDigit_of_some read]
            exact total
        · cases scanned
      · cases scanned

/-- What a letter behind a backslash stands for is in the table. -/
theorem mem_letters_of_unescape? {letter : Char} (found : unescape? letter = some c) : (c, letter) ∈ letters := by
  unfold unescape? at found
  split at found
  case h_7 => cases found
  all_goals
    obtain rfl := Option.some.inj found
    simp [letters]

/-- What is scanned behind a backslash is one of the ways to write a character. -/
theorem exists_writes (scanned : scan? .escape source = some (text, rest)) :
    ∃ written c behind others, '\\' :: source = written ++ behind ∧ Writes written c ∧ text = c :: others ∧
      scan? .plain behind = some (others, rest) := by
  cases source with
  | nil => cases scanned
  | cons letter source =>
    rw [scan?] at scanned
    split at scanned
    · next spelled =>
      subst spelled
      -- a code point: a brace, and then the digits
      cases source with
      | nil => cases scanned
      | cons brace source =>
        rw [scan?] at scanned
        split at scanned
        · next opening =>
          subst opening
          obtain ⟨digits, c, behind, others, rfl, drawn, some_digit, short, total, rfl, later⟩ :=
            exists_digits (Nat.zero_le 6) scanned
          rw [Nat.zero_add] at some_digit short
          refine ⟨_, c, behind, others, ?_, .codePoint (List.ne_nil_of_length_pos some_digit) short drawn total,
            rfl, later⟩
          simp
        · cases scanned
    · split at scanned
      · next c found =>
        obtain ⟨others, rfl, behind⟩ := front_eq_some_iff.mp scanned
        exact ⟨['\\', letter], c, source, others, rfl, .letter (mem_letters_of_unescape? found), rfl, behind⟩
      · cases scanned

theorem reads_of_scan? (scanned : scan? .plain source = some (text, rest)) : Reads source text rest := by
  -- on the length: how many characters belong to the next one of the text is known when they are read
  induction length : source.length using Nat.strongRecOn generalizing source text with
  | ind n ih =>
    cases source with
    | nil => cases scanned
    | cons c source =>
      rw [scan?] at scanned
      split at scanned
      · next quote =>
        subst quote
        obtain ⟨rfl, rfl⟩ := Prod.mk.inj (Option.some.inj scanned)
        exact .close source
      · next noQuote =>
        split at scanned
        · next backslash =>
          subst backslash
          -- what is behind the escape is shorter than the literal, so it has been seen to
          obtain ⟨written, c, behind, others, whole, writes, rfl, later⟩ := exists_writes scanned
          have shorter : behind.length < n := by
            have nonempty : 0 < written.length := by cases writes <;> simp
            have lengths := congrArg List.length whole
            rw [length, List.length_append] at lengths
            omega
          rw [whole]
          exact .next writes (ih behind.length shorter later rfl)
        · next noBackslash =>
          -- the character stands for itself, and the rest is shorter by it
          obtain ⟨others, rfl, later⟩ := front_eq_some_iff.mp scanned
          have shorter : source.length < n := by
            rw [← length]
            exact Nat.lt_succ_self _
          exact .next (.itself noQuote noBackslash) (ih source.length shorter later rfl)

/-- **The scanner takes exactly the literals of the grammar**, and cuts them off where it says. -/
theorem scan?_eq_some_iff : scan? .plain source = some (text, rest) ↔ Reads source text rest :=
  ⟨reads_of_scan?, scan?_of_reads⟩

/-! ### The way that is chosen -/

/-- The digits of code points, in the order of their values. -/
def alphabet : List Char := "0123456789abcdef".toList

/-- **How a character is spelled**, of all ways to write it. -/
inductive Spelled (c : Char) : List Char → Prop where
  | letter {letter : Char} (known : (c, letter) ∈ letters) : Spelled c ['\\', letter]
  | codePoint {digits : List Char} (unlettered : ∀ letter, (c, letter) ∉ letters) (hidden : isHidden c = true)
      (numeral : Numeral.Canonical alphabet c.toNat digits) : Spelled c ('\\' :: 'u' :: '{' :: (digits ++ ['}']))
  | itself (unlettered : ∀ letter, (c, letter) ∉ letters) (shown : isHidden c = false) : Spelled c [c]

theorem isAlphabet_alphabet : Numeral.IsAlphabet alphabet := ⟨rfl, rfl⟩

theorem canonical_hexadecimal (n : Nat) : Numeral.Canonical alphabet n (Numeral.hexadecimal n) := by
  -- the digits of the alphabet are those that numbers are drawn in
  have numeral := Numeral.canonical_toDigits id isAlphabet_alphabet (by decide) (by decide) rfl n
  rwa [List.map_id] at numeral

theorem spelled_escape (c : Char) : Spelled c (escape c) := by
  unfold escape
  -- six characters have a letter of their own
  iterate 6
    split
    · next same =>
      subst same
      exact .letter (by simp [letters])
  have unlettered : ∀ letter, (c, letter) ∉ letters := by
    intro letter
    simp_all [letters]
  split
  · next hidden => exact .codePoint unlettered hidden (canonical_hexadecimal c.toNat)
  · next shown => exact .itself unlettered (eq_false_of_ne_true shown)

/-- **The spelling of a character is the one that is written**, and there is no other. -/
theorem spelled_iff {piece : List Char} : Spelled c piece ↔ piece = escape c := by
  refine ⟨fun spelled => ?_, fun same => same ▸ spelled_escape c⟩
  have written := spelled_escape c
  generalize escape c = other at written
  -- both spellings come by one rule, since the rules exclude each other
  cases spelled with
  | letter known =>
    cases written with
    | letter known' =>
      -- no two letters of the table stand for one character
      have single : letters.all fun entry => letters.all fun other =>
          entry.1 ≠ other.1 || entry.2 = other.2 := by decide
      have pair := List.all_eq_true.mp (List.all_eq_true.mp single _ known) _ known'
      simp only [ne_eq, not_true_eq_false, decide_false, Bool.false_or, decide_eq_true_eq] at pair
      rw [pair]
    | codePoint unlettered | itself unlettered => exact absurd known (unlettered _)
  | codePoint unlettered hidden numeral =>
    cases written with
    | letter known => exact absurd known (unlettered _)
    | codePoint _ _ numeral' => rw [numeral.unique isAlphabet_alphabet numeral']
    | itself _ shown => rw [hidden] at shown; cases shown
  | itself unlettered shown =>
    cases written with
    | letter known => exact absurd known (unlettered _)
    | codePoint _ hidden => rw [hidden] at shown; cases shown
    | itself => rfl

/-- **The spelling of a text**: that of its characters, one after the other. -/
def Spelling (text inner : List Char) : Prop :=
  ∃ pieces, List.Forall₂ Spelled text pieces ∧ inner = pieces.flatten

/-- **A text has one spelling**, and it is what stands between the quotes. -/
theorem spelling_iff {inner : List Char} : Spelling text inner ↔ inner = body text := by
  constructor
  · rintro ⟨pieces, spelled, rfl⟩
    induction spelled with
    | nil => rfl
    | cons first others ih => rw [List.flatten_cons, body_cons, spelled_iff.mp first, ih]
  · rintro rfl
    -- the pieces that are written are spellings, one by one
    refine ⟨text.map escape, ?_, rfl⟩
    rw [List.forall₂_map_right_iff, List.forall₂_same]
    intro c _
    exact spelled_escape c

/-! ### What is left between the quotes -/

/-- Between the space and the tilde all characters are shown. -/
theorem isHidden_of_all_ascii {chars : List Char}
    (ascii : chars.all (fun c => 0x20 ≤ c.toNat && c.toNat ≤ 0x7e) = true) (among : c ∈ chars) :
    isHidden c = false := by
  have range := List.all_eq_true.mp ascii c among
  rw [Bool.and_eq_true, decide_eq_true_eq, decide_eq_true_eq] at range
  exact isHidden_of_ascii range.1 range.2

/-- The spelling of a character hides nothing, whatever the character is. -/
theorem isHidden_of_mem_spelled {piece : List Char} (spelled : Spelled c piece) {d : Char} (among : d ∈ piece) :
    isHidden d = false := by
  cases spelled with
  -- a backslash and the letters of the table are ASCII
  | @letter letter known =>
    have written : d ∈ '\\' :: letters.map Prod.snd := by
      rcases List.mem_cons.mp among with rfl | last
      · exact List.mem_cons_self
      · rw [List.mem_singleton.mp last]
        exact List.mem_cons_of_mem _ (List.mem_map_of_mem known)
    exact isHidden_of_all_ascii (by decide) written
  | @codePoint digits _ _ numeral =>
    -- the digits come from their alphabet, and the marks around them are ASCII too
    have written : d ∈ ['\\', 'u', '{', '}'] ++ alphabet := by
      have drawn := numeral.drawn d
      simp only [List.mem_cons, List.mem_append, List.not_mem_nil, or_false] at among ⊢
      tauto
    exact isHidden_of_all_ascii (by decide) written
  | itself _ shown => rwa [List.mem_singleton.mp among]

/-- **Nothing hidden is left between the quotes.** -/
theorem isHidden_of_mem_body {d : Char} (among : d ∈ body text) : isHidden d = false := by
  obtain ⟨c, -, among⟩ := List.mem_flatMap.mp among
  exact isHidden_of_mem_spelled (spelled_escape c) among

end Profiles.Text.Literal
