import Profiles.Json.Reader
import Profiles.Proofs.Json.Grammar

/-!
# Reading what was printed

The reader gives back every value from its text, in any layout that adds blanks only (`read?_render`): no
number, string or nesting is lost or changed, and no two values share a text.

The proof follows the two stages of the reader. `Json.tokens` is the row of tokens of a value. Cutting the
text of a value gives that row (`Scan.read?_render`), which is stated with an arbitrary rest behind the text,
since a bare word ends only where the rest begins. Reading the row gives the value (`Reader.foldlM_tokens`),
stated with an arbitrary stack of what is still open.

The reader is strict about strings: a raw character below the space is refused wherever it stands in one
(`read?_eq_none_of_control`).
-/

namespace Profiles.Json

/-! ### Tokens -/

mutual

/-- **The tokens of a value.** -/
def tokens : Json → List Token
  | null => [.null]
  | bool b => [.bool b]
  | int n => [.int n]
  | decimal mantissa exponent => [.decimal mantissa exponent]
  | str text => [.str text]
  | arr [] => [.beginArray, .endArray]
  | arr (item :: items) => .beginArray :: (item.tokens ++ itemTokens items ++ [.endArray])
  | obj [] => [.beginObject, .endObject]
  | obj ((name, value) :: members) =>
    .beginObject :: .str name :: .colon :: (value.tokens ++ memberTokens members ++ [.endObject])

/-- The tokens of the items after the first, each with the comma before it. -/
def itemTokens : List Json → List Token
  | [] => []
  | item :: items => .comma :: (item.tokens ++ itemTokens items)

/-- The tokens of the members after the first, each with the comma before it. -/
def memberTokens : List (String × Json) → List Token
  | [] => []
  | (name, value) :: members =>
    .comma :: .str name :: .colon :: (value.tokens ++ memberTokens members)

end

/-! ### From tokens to the value -/

namespace Reader

/-- No value starts with the end of an array, so a first item is read like any other. -/
theorem foldlM_arrayStart (stack : List Frame) (item : Json) (rest : List Token) :
    (item.tokens ++ rest).foldlM step (.arrayStart stack)
      = (item.tokens ++ rest).foldlM step (.beforeValue (.arr [] :: stack)) := by
  -- an array or object starts with a mark, and it is seen only from the next token on whether it is empty
  cases item with
  | arr items => cases items <;> rfl
  | obj members => cases members <;> rfl
  | _ => rfl

mutual

/-- **The tokens of a value complete that value**, whatever is open around it. -/
theorem foldlM_tokens (stack : List Frame) : (value : Json) →
    value.tokens.foldlM step (.beforeValue stack) = some (.afterValue value stack)
  | .null => rfl
  | .bool _ => rfl
  | .int _ => rfl
  | .decimal _ _ => rfl
  | .str _ => rfl
  | .arr [] => rfl
  | .arr (item :: items) => by
    -- behind the bracket an end is allowed in place of an item
    rw [tokens, List.foldlM_cons]
    show (item.tokens ++ itemTokens items ++ [Token.endArray]).foldlM step (.arrayStart stack) = _
    rw [List.append_assoc, foldlM_arrayStart, List.foldlM_append, foldlM_tokens _ item]
    exact foldlM_itemTokens stack item [] items
  | .obj [] => rfl
  | .obj ((name, value) :: members) => by
    -- a name must come first, so there is nothing to tell apart; with the colon the value is waited for
    rw [tokens, List.foldlM_cons]
    show (value.tokens ++ memberTokens members ++ [Token.endObject]).foldlM step
      (.beforeValue (.obj [] name :: stack)) = _
    rw [List.append_assoc, List.foldlM_append, foldlM_tokens _ value]
    exact foldlM_memberTokens stack name value [] members

/-- The tokens of further items and the end of the array complete it. -/
theorem foldlM_itemTokens (stack : List Frame) (item : Json) (done : List Json) :
    (items : List Json) →
    (itemTokens items ++ [Token.endArray]).foldlM step (.afterValue item (.arr done :: stack))
      = some (.afterValue (.arr (done.reverse ++ item :: items)) stack)
  -- the end takes the last item along
  | [] => by simp [itemTokens, step]
  | next :: items => by
    -- the comma moves the item that is complete to those done, the last first
    rw [itemTokens, List.cons_append, List.foldlM_cons]
    show (next.tokens ++ itemTokens items ++ [Token.endArray]).foldlM step
      (.beforeValue (.arr (item :: done) :: stack)) = _
    rw [List.append_assoc, List.foldlM_append, foldlM_tokens _ next]
    simpa using foldlM_itemTokens stack next (item :: done) items

theorem foldlM_memberTokens (stack : List Frame) (name : String) (value : Json)
    (done : List (String × Json)) : (members : List (String × Json)) →
    (memberTokens members ++ [Token.endObject]).foldlM step (.afterValue value (.obj done name :: stack))
      = some (.afterValue (.obj (done.reverse ++ (name, value) :: members)) stack)
  | [] => by simp [memberTokens, step]
  | (next, member) :: members => by
    rw [memberTokens, List.cons_append, List.foldlM_cons]
    show (member.tokens ++ memberTokens members ++ [Token.endObject]).foldlM step
      (.beforeValue (.obj ((name, value) :: done) next :: stack)) = _
    rw [List.append_assoc, List.foldlM_append, foldlM_tokens _ member]
    simpa using foldlM_memberTokens stack next member ((name, value) :: done) members

end

end Reader

theorem ofTokens?_tokens (value : Json) : ofTokens? value.tokens = some value := by
  rw [ofTokens?, Reader.foldlM_tokens]
  rfl

/-! ### Words -/

namespace Token

/-- Only blanks, quotes and marks end a word. -/
theorem mem_of_endsWord {c : Char} (h : endsWord c = true) :
    c ∈ [' ', '\t', '\n', '\r', '"', '[', ']', '{', '}', ',', ':'] := by
  unfold endsWord isBlank ofMark? at h
  split at h <;> simp_all [or_assoc]

theorem endsWord_of_number {c : Char} (h : c = '-' ∨ c = 'e' ∨ c.isDigit = true) :
    endsWord c = false := by
  cases ends : endsWord c with
  | false => rfl
  | true =>
    -- none of the eleven is a sign, the letter of a power of ten or a digit
    have mark := mem_of_endsWord ends
    simp only [List.mem_cons, List.not_mem_nil, or_false] at mark
    rcases mark with rfl | rfl | rfl | rfl | rfl | rfl | rfl | rfl | rfl | rfl | rfl <;>
      exact absurd h (by decide)

theorem mem_decimal {n : Int} {c : Char} (h : c ∈ Numeral.decimal n) : c = '-' ∨ c.isDigit = true := by
  cases n with
  | ofNat n => exact .inr (Numeral.isDigit_of_mem h)
  | negSucc n => exact (List.mem_cons.mp h).imp id Numeral.isDigit_of_mem

theorem decimal_ne_nil (n : Int) : Numeral.decimal n ≠ [] := by
  cases n with
  | ofNat n => exact Nat.toDigits_ne_nil
  | negSucc n => exact List.cons_ne_nil _ _

theorem mem_decimal_exponent {mantissa exponent : Int} {c : Char}
    (h : c ∈ Numeral.decimal mantissa ++ 'e' :: Numeral.decimal exponent) :
    c = '-' ∨ c = 'e' ∨ c.isDigit = true := by
  rw [List.mem_append, List.mem_cons] at h
  obtain h | rfl | h := h
  · exact (mem_decimal h).imp id .inr
  · exact .inr (.inl rfl)
  · exact (mem_decimal h).imp id .inr

/-- A word of such characters is a number or nothing. -/
theorem ofWord?_of_number {word : List Char} (h : ∀ c ∈ word, c = '-' ∨ c = 'e' ∨ c.isDigit = true) :
    ofWord? word = number? word := by
  -- each of the three words of letters holds a letter that no number has
  have foreign (c : Char) (other : ¬(c = '-' ∨ c = 'e' ∨ c.isDigit = true)) : c ∉ word :=
    fun mem => other (h c mem)
  have notT := foreign 't' (by decide)
  have notF := foreign 'f' (by decide)
  have notN := foreign 'n' (by decide)
  unfold ofWord?
  rw [if_neg, if_neg, if_neg]
  · rintro rfl; exact notN (by simp)
  · rintro rfl; exact notF (by simp)
  · rintro rfl; exact notT (by simp)

/-- The digits in front of a text that does not go on with a digit. -/
theorem takeWhile_toDigits (n : Nat) (rest : List Char) (stop : ∀ c ∈ rest.head?, c.isDigit = false) :
    (Nat.toDigits 10 n ++ rest).takeWhile Char.isDigit = Nat.toDigits 10 n ∧
      (Nat.toDigits 10 n ++ rest).dropWhile Char.isDigit = rest := by
  have all : ∀ c ∈ Nat.toDigits 10 n, c.isDigit = true := fun _ h => Numeral.isDigit_of_mem h
  -- all of the digits are taken, and what is left must not go on with one
  rw [List.takeWhile_append_of_pos all, List.dropWhile_append_of_pos all]
  cases rest with
  | nil => simp
  | cons c rest =>
    have last : ¬ c.isDigit = true := by simp [stop c rfl]
    rw [List.takeWhile_cons_of_neg last, List.dropWhile_cons_of_neg last]
    simp

theorem toDigits_noZero (n : Nat) :
    (Nat.toDigits 10 n).length = 1 ∨ (Nat.toDigits 10 n).head? ≠ some '0' := by
  obtain rfl | pos := Nat.eq_zero_or_pos n
  · exact .inl rfl
  · obtain ⟨first, rest, digits, nonzero⟩ :=
      Numeral.exists_head_toDigits (b := 10) (by decide) (by decide) pos
    rw [digits]
    exact .inr fun h => nonzero (Option.some.inj h)

/-- A number without fraction and power of ten is whole, but for the negative zero. -/
theorem unsigned?_toDigits (negative : Bool) (n : Nat) :
    unsigned? negative (Nat.toDigits 10 n)
      = some (if negative = true ∧ n = 0 then decimal 0 0
          else int (if negative then -(n : Int) else n)) := by
  have split := takeWhile_toDigits n [] (by simp)
  rw [List.append_nil] at split
  obtain ⟨whole, rest⟩ := split
  -- three things are asked in turn: the value of the digits, no needless zero, and what follows
  refine Option.bind_eq_some_iff.mpr ⟨n, ?_, Option.bind_eq_some_iff.mpr ⟨(), ?_, ?_⟩⟩
  · rw [whole, Numeral.readNat?_toDigits]
  · rw [whole]
    exact if_pos (toDigits_noZero n)
  · rw [rest]
    rfl

theorem exponent?_decimal (e : Int) : exponent? ('e' :: Numeral.decimal e) = some e := by
  -- a plus sign would be taken off, so the digits go to the reader of integers with their own sign
  have noPlus : ∀ digits, Numeral.decimal e ≠ '+' :: digits := by
    intro digits h
    have plus := mem_decimal (n := e) (c := '+') (by simp [h])
    exact absurd plus (by decide)
  rw [exponent?, if_pos (.inl rfl)]
  · exact Numeral.readInt?_decimal e
  · exact noPlus

theorem unsigned?_exponent (negative : Bool) (n : Nat) (e : Int) :
    unsigned? negative (Nat.toDigits 10 n ++ 'e' :: Numeral.decimal e)
      = some (decimal (if negative then -(n : Int) else n) e) := by
  obtain ⟨whole, rest⟩ := takeWhile_toDigits n ('e' :: Numeral.decimal e) (by simp)
  refine Option.bind_eq_some_iff.mpr ⟨n, ?_, Option.bind_eq_some_iff.mpr ⟨(), ?_, ?_⟩⟩
  -- only the last of the three is another than in a whole number
  · rw [whole, Numeral.readNat?_toDigits]
  · rw [whole]
    exact if_pos (toDigits_noZero n)
  · rw [rest]
    exact Option.bind_eq_some_iff.mpr ⟨e, exponent?_decimal e, rfl⟩

/-- Digits do not start with a minus sign. -/
theorem number?_toDigits (n : Nat) (rest : List Char) :
    number? (Nat.toDigits 10 n ++ rest) = unsigned? false (Nat.toDigits 10 n ++ rest) := by
  have noMinus : ∀ word, Nat.toDigits 10 n ++ rest ≠ '-' :: word := by
    intro word h
    cases digits : Nat.toDigits 10 n with
    | nil => exact Nat.toDigits_ne_nil digits
    | cons c digits' =>
      rw [digits, List.cons_append] at h
      have minus : '-' ∈ Nat.toDigits 10 n := by simp [digits, (List.cons.inj h).1]
      exact absurd (Numeral.isDigit_of_mem minus) (by decide)
  unfold number?
  split
  · rename_i word h
    exact absurd h (noMinus word)
  · rfl

/-- **The numeral of an integer is the word of that integer.** -/
theorem ofWord?_int (n : Int) : ofWord? (Numeral.decimal n) = some (int n) := by
  -- none of the three words of letters, so it is read as a number
  rw [ofWord?_of_number fun c h => (mem_decimal h).imp id .inr]
  cases n with
  | ofNat n =>
    have number := number?_toDigits n []
    rw [List.append_nil] at number
    show number? (Nat.toDigits 10 n) = _
    rw [number, unsigned?_toDigits]
    simp
  | negSucc n =>
    show unsigned? true (Nat.toDigits 10 (n + 1)) = _
    rw [unsigned?_toDigits]
    simp [Int.negSucc_eq]

/-- A numeral with a power of ten behind it is the word of that number. -/
theorem ofWord?_decimal (mantissa exponent : Int) :
    ofWord? (Numeral.decimal mantissa ++ 'e' :: Numeral.decimal exponent)
      = some (decimal mantissa exponent) := by
  rw [ofWord?_of_number fun c h => mem_decimal_exponent h]
  cases mantissa with
  | ofNat n =>
    -- no sign is taken off, and the digits end where the letter is
    show number? (Nat.toDigits 10 n ++ _) = _
    rw [number?_toDigits, unsigned?_exponent]
    simp
  | negSucc n =>
    -- the sign has been taken off, and the value gets it back
    show unsigned? true (Nat.toDigits 10 (n + 1) ++ _) = _
    rw [unsigned?_exponent]
    simp [Int.negSucc_eq]

end Token

/-! ### From the text to tokens -/

/-- Wherever a reader stands in a string, it refuses a raw character below the space. -/
theorem Quoted.Mode.step_control {c : Char} (control : c.toNat < 0x20) (mode : Quoted.Mode) :
    mode.step c = none := by
  have below {d : Char} (h : 0x20 ≤ d.toNat) : ¬d ≤ c := by
    intro le
    have le : d.toNat ≤ c.toNat := le
    omega
  have other {d : Char} (h : 0x20 ≤ d.toNat) : c ≠ d := by
    rintro rfl
    omega
  cases mode with
  | plain => rw [step, if_pos control]
  | escape =>
    -- neither the letter of a code unit nor one of those with a meaning
    rw [step, if_neg (other (by decide))]
    unfold unescape?
    split <;> first | rfl | exact absurd rfl (other (by decide))
  | unit high count value =>
    -- the digits of each sort lie above the space, so their lower bounds refuse it
    have notDigit : ¬c.isDigit = true := by
      rw [Char.isDigit, Bool.and_eq_true, decide_eq_true_eq]
      exact fun h => below (d := '0') (by decide) h.1
    have noDigit : Numeral.hexDigit? c = none := by
      rw [Numeral.hexDigit?, if_neg notDigit, if_neg fun h => below (by decide) h.1,
        if_neg fun h => below (by decide) h.1]
    rw [step, noDigit]
    rfl
  -- in the middle of a pair of code units a certain character must come, which it is not
  | half high => rw [step, if_neg (other (by decide))]
  | halfEscape high => rw [step, if_neg (other (by decide))]

namespace Scan

/-- The tokens that a reader has found when it is through with the rest of a text. -/
def read? (scan : Scan) (rest : List Char) : Option (List Token) := do
  (← rest.foldlM step scan).finish?

variable {found : List Token} {rest : List Char}

theorem read?_append {scan scan' : Scan} (text : List Char) (h : text.foldlM step scan = some scan') :
    scan.read? (text ++ rest) = scan'.read? rest := by
  rw [read?, List.foldlM_append, h]
  rfl

/-- A text that breaks off inside a string, however much has come before that string. -/
def BreaksOffQuoted (before : List Char) : Prop :=
  ∃ found text mode, before.foldlM step start = some ⟨found, .quoted text mode⟩

/-- A reader inside a string goes no further than to a raw character below the space. -/
theorem read?_control {text : List Char} {mode : Quoted.Mode} {c : Char}
    (control : c.toNat < 0x20) : read? ⟨found, .quoted text mode⟩ (c :: rest) = none := by
  -- so the quote, which would end the string, is not what comes
  have notQuote : c = '"' → mode = .plain → False := by
    rintro rfl
    exact absurd control (by decide)
  have refused : step ⟨found, .quoted text mode⟩ c = none := by
    rw [step, Quoted.Mode.step_control control, Option.map_none]
    exact notQuote
  rw [read?, List.foldlM_cons, refused]
  rfl

theorem read?_blank {text : List Char} (blank : Grammar.Blank text) :
    read? ⟨found, .between⟩ (text ++ rest) = read? ⟨found, .between⟩ rest := by
  induction text with
  | nil => rfl
  | cons c text ih =>
    have pass : step ⟨found, .between⟩ c = some ⟨found, .between⟩ := by
      rw [step, outside, if_pos (blank c (by simp))]
    rw [← ih fun d h => blank d (List.mem_cons_of_mem _ h)]
    exact read?_append [c] (by rw [List.foldlM_cons, pass]; rfl)

theorem read?_encode (text : List Char) :
    read? ⟨found, .between⟩ (Quoted.encode text ++ rest)
      = read? ⟨.str (String.ofList text) :: found, .between⟩ rest :=
  read?_append _ (foldlM_encode found text)

/-- **A mark is found**, with whatever blanks around it. -/
theorem read?_mark {mark : Char} {token : Token} (isMark : Token.ofMark? mark = some token)
    {text : List Char} (h : Grammar.Mark mark text) :
    read? ⟨found, .between⟩ (text ++ rest) = read? ⟨token :: found, .between⟩ rest := by
  obtain @⟨before, after, left, right⟩ := h
  -- a mark is neither a blank nor a quote, so it is looked up among the marks
  have taken : step ⟨found, .between⟩ mark = some ⟨token :: found, .between⟩ := by
    have other : Token.isBlank mark = false ∧ mark ≠ '"' := by
      unfold Token.ofMark? at isMark
      split at isMark <;> first | decide | exact absurd isMark (by simp)
    rw [step, outside, other.1, if_neg other.2, isMark]
    rfl
  rw [List.append_assoc, read?_blank left, List.cons_append]
  refine Eq.trans ?_ (read?_blank right)
  exact read?_append [mark] (by rw [List.foldlM_cons, taken]; rfl)

theorem read?_renderName {layout : Layout} (blanks : layout.AddsBlanks) (name : String) :
    read? ⟨found, .between⟩ (renderName layout name ++ rest)
      = read? ⟨.colon :: .str name :: found, .between⟩ rest := by
  rw [renderName, List.append_assoc, read?_encode, String.ofList_toList]
  exact read?_mark rfl blanks.colon

/-- The rest of a text starts with something that ends a word, or is empty. -/
def EndsWord (rest : List Char) : Prop := ∀ c ∈ rest.head?, Token.endsWord c = true

/-- A mark ends a word, with whatever blanks in front of it. -/
theorem endsWord_mark {mark : Char} {token : Token} (isMark : Token.ofMark? mark = some token)
    {text : List Char} (h : Grammar.Mark mark text) : EndsWord (text ++ rest) := by
  obtain @⟨before, after, left, right⟩ := h
  -- the blanks come first where there are any, and they end a word as well
  cases before with
  | nil =>
    intro c h
    obtain rfl : mark = c := by simpa using h
    rw [Token.endsWord, isMark, Option.isSome_some, Bool.or_true]
  | cons blank before =>
    intro c h
    obtain rfl : blank = c := by simpa using h
    rw [Token.endsWord, left blank (by simp), Bool.true_or, Bool.true_or]

theorem foldlM_word {word : List Char} (plain : ∀ c ∈ word, Token.endsWord c = false)
    (letters : List Char) :
    word.foldlM step ⟨found, .word letters⟩ = some ⟨found, .word (word.reverse ++ letters)⟩ := by
  induction word generalizing letters with
  | nil => rfl
  | cons c word ih =>
    have next : step ⟨found, .word letters⟩ c = some ⟨found, .word (c :: letters)⟩ := by
      rw [step, plain c (by simp)]
      rfl
    rw [List.foldlM_cons, next]
    simpa using ih (fun d h => plain d (List.mem_cons_of_mem _ h)) (c :: letters)

/-- **A word is found** where what follows it ends words. -/
theorem read?_word {word : List Char} {token : Token} (isToken : Token.ofWord? word = some token)
    (nonempty : word ≠ []) (plain : ∀ c ∈ word, Token.endsWord c = false) (ends : EndsWord rest) :
    read? ⟨found, .between⟩ (word ++ rest) = read? ⟨token :: found, .between⟩ rest := by
  obtain ⟨c, word, rfl⟩ := List.exists_cons_of_ne_nil nonempty
  -- a first letter that is nothing else opens the word
  have opening : step ⟨found, .between⟩ c = some ⟨found, .word [c]⟩ := by
    have first := plain c (by simp)
    rw [Token.endsWord, Bool.or_eq_false_iff, Bool.or_eq_false_iff] at first
    obtain ⟨⟨notBlank, notQuote⟩, notMark⟩ := first
    rw [step, outside, notBlank]
    simp_all
  have letters : (c :: word).foldlM step ⟨found, .between⟩ = some ⟨found, .word (c :: word).reverse⟩ := by
    rw [List.foldlM_cons, opening]
    simpa using foldlM_word (fun d h => plain d (List.mem_cons_of_mem _ h)) [c]
  rw [read?_append _ letters]
  cases rest with
  | nil => simp [read?, finish?, isToken]
  | cons d rest =>
    -- what ends the word is looked at again, as something outside words
    have stop := ends d rfl
    have last : step ⟨found, .word (c :: word).reverse⟩ d = some (outside (token :: found) d) := by
      rw [step, if_pos stop, List.reverse_reverse, isToken]
      rfl
    rw [read?, read?, List.foldlM_cons, last]
    rfl

/-! ### A whole value -/

variable {layout : Layout}

/-- The items after the first start with a comma, if there are any. -/
theorem endsWord_renderItems (depth : Nat) (items : List Json) (ends : EndsWord rest) :
    EndsWord (renderItems layout depth items ++ rest) := by
  cases items with
  | nil => exact ends
  | cons item items =>
    intro c h
    obtain rfl : ',' = c := by simpa [renderItems] using h
    rfl

theorem endsWord_renderMembers (depth : Nat) (members : List (String × Json)) (ends : EndsWord rest) :
    EndsWord (renderMembers layout depth members ++ rest) := by
  cases members with
  | nil => exact ends
  | cons member members =>
    intro c h
    obtain rfl : ',' = c := by simpa [renderMembers] using h
    rfl

mutual

/-- **The text of a value is cut into its tokens**, where what follows it ends words. -/
theorem read?_render (blanks : layout.AddsBlanks) (depth : Nat) (found : List Token)
    {rest : List Char} (ends : EndsWord rest) : (value : Json) →
    read? ⟨found, .between⟩ (value.render layout depth ++ rest)
      = read? ⟨value.tokens.reverse ++ found, .between⟩ rest
  | null => by
    rw [Json.render]
    exact read?_word rfl (by decide) (by simp [Token.endsWord, Token.isBlank, Token.ofMark?]) ends
  | bool b => by
    rw [Json.render]
    cases b <;>
      exact read?_word rfl (by decide) (by simp [Token.endsWord, Token.isBlank, Token.ofMark?]) ends
  | int n => by
    rw [Json.render]
    exact read?_word (Token.ofWord?_int n) (Token.decimal_ne_nil n)
      (fun c h => Token.endsWord_of_number ((Token.mem_decimal h).imp id .inr)) ends
  | decimal mantissa exponent => by
    rw [Json.render]
    exact read?_word (Token.ofWord?_decimal mantissa exponent) (by simp)
      (fun c h => Token.endsWord_of_number (Token.mem_decimal_exponent h)) ends
  | str text => by
    -- a string ends by itself, so what follows does not matter
    rw [Json.render, read?_encode, String.ofList_toList]
    rfl
  | arr [] => rfl
  | arr (item :: items) => by
    -- a comma or the closing bracket follows each item, so every rest on the way ends words
    have opening : Grammar.Mark '[' ('[' :: layout.lineBreak (depth + 1)) :=
      .of_right (blanks.lineBreak (depth + 1))
    have closing : Grammar.Mark ']' (layout.lineBreak depth ++ [']']) := .of_left (blanks.lineBreak depth)
    have ends : EndsWord (layout.lineBreak depth ++ [']'] ++ rest) := endsWord_mark rfl closing
    have text : render layout depth (arr (item :: items)) ++ rest
        = ('[' :: layout.lineBreak (depth + 1)) ++ (item.render layout (depth + 1)
          ++ (renderItems layout (depth + 1) items ++ (layout.lineBreak depth ++ [']'] ++ rest))) := by
      simp [Json.render]
    rw [text, read?_mark rfl opening, read?_render blanks _ _ (endsWord_renderItems _ _ ends) item,
      read?_renderItems blanks _ _ ends items, read?_mark rfl closing]
    simp [tokens]
  | obj [] => rfl
  | obj ((name, value) :: members) => by
    -- the same with a name and its colon in front of each value
    have opening : Grammar.Mark '{' ('{' :: layout.lineBreak (depth + 1)) :=
      .of_right (blanks.lineBreak (depth + 1))
    have closing : Grammar.Mark '}' (layout.lineBreak depth ++ ['}']) := .of_left (blanks.lineBreak depth)
    have ends : EndsWord (layout.lineBreak depth ++ ['}'] ++ rest) := endsWord_mark rfl closing
    have text : render layout depth (obj ((name, value) :: members)) ++ rest
        = ('{' :: layout.lineBreak (depth + 1)) ++ (renderName layout name
          ++ (value.render layout (depth + 1) ++ (renderMembers layout (depth + 1) members
            ++ (layout.lineBreak depth ++ ['}'] ++ rest)))) := by
      simp [Json.render]
    rw [text, read?_mark rfl opening, read?_renderName blanks name,
      read?_render blanks _ _ (endsWord_renderMembers _ _ ends) value,
      read?_renderMembers blanks _ _ ends members, read?_mark rfl closing]
    simp [tokens]

/-- The items after the first are cut into theirs. -/
theorem read?_renderItems (blanks : layout.AddsBlanks) (depth : Nat) (found : List Token)
    {rest : List Char} (ends : EndsWord rest) : (items : List Json) →
    read? ⟨found, .between⟩ (renderItems layout depth items ++ rest)
      = read? ⟨(itemTokens items).reverse ++ found, .between⟩ rest
  | [] => rfl
  | item :: items => by
    -- the comma with its line break, the item, and then the rest of the row
    have comma : Grammar.Mark ',' (',' :: layout.lineBreak depth) := .of_right (blanks.lineBreak depth)
    have text : renderItems layout depth (item :: items) ++ rest = (',' :: layout.lineBreak depth)
        ++ (item.render layout depth ++ (renderItems layout depth items ++ rest)) := by
      simp [renderItems]
    rw [text, read?_mark rfl comma, read?_render blanks _ _ (endsWord_renderItems _ _ ends) item,
      read?_renderItems blanks _ _ ends items]
    simp [itemTokens]

theorem read?_renderMembers (blanks : layout.AddsBlanks) (depth : Nat) (found : List Token)
    {rest : List Char} (ends : EndsWord rest) : (members : List (String × Json)) →
    read? ⟨found, .between⟩ (renderMembers layout depth members ++ rest)
      = read? ⟨(memberTokens members).reverse ++ found, .between⟩ rest
  | [] => rfl
  | (name, value) :: members => by
    have comma : Grammar.Mark ',' (',' :: layout.lineBreak depth) := .of_right (blanks.lineBreak depth)
    have text : renderMembers layout depth ((name, value) :: members) ++ rest
        = (',' :: layout.lineBreak depth) ++ (renderName layout name
          ++ (value.render layout depth ++ (renderMembers layout depth members ++ rest))) := by
      simp [renderMembers]
    rw [text, read?_mark rfl comma, read?_renderName blanks name,
      read?_render blanks _ _ (endsWord_renderMembers _ _ ends) value,
      read?_renderMembers blanks _ _ ends members]
    simp [memberTokens]

end

end Scan

theorem ofText?_render {layout : Layout} (blanks : layout.AddsBlanks) (value : Json) :
    Token.ofText? (value.render layout 0) = some value.tokens := by
  have ends : Scan.EndsWord [] := fun c h => absurd h (by simp)
  have whole := Scan.read?_render blanks 0 [] ends value
  rw [List.append_nil] at whole
  show Scan.read? ⟨[], .between⟩ (value.render layout 0) = _
  rw [whole]
  simp [Scan.read?, Scan.finish?]

/-- **Printing, then reading** gives every value back. -/
theorem read?_render {layout : Layout} (blanks : layout.AddsBlanks) (value : Json) :
    read? (String.ofList (value.render layout 0)) = some value := by
  rw [read?, String.toList_ofList, ofText?_render blanks]
  exact ofTokens?_tokens value

/-- **The reader is strict about strings**: no text is read that has a raw character below the space in one. -/
theorem read?_eq_none_of_control {before : List Char} (quoted : Scan.BreaksOffQuoted before) {c : Char}
    (control : c.toNat < 0x20) (after : List Char) : read? (String.ofList (before ++ c :: after)) = none := by
  obtain ⟨found, text, mode, reached⟩ := quoted
  rw [read?, String.toList_ofList]
  -- up to the string the reader has come, and there it stops
  show (Scan.start.read? (before ++ c :: after)).bind ofTokens? = none
  rw [Scan.read?_append before reached, Scan.read?_control control]
  rfl

example : read? "[\"a\nb\"]" = none ∧ (read? "[\"a\\nb\"]").isSome := by decide

end Profiles.Json
