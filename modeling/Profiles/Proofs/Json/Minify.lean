import Profiles.Proofs.Json.RoundTrip
import Profiles.Proofs.Outline.Lines
import Profiles.Query

/-!
# Blanks outside of strings

The two JSON texts of a record differ in blanks between tokens and in nothing else: without those the pretty
text is the compact one, character by character (`Record.minify_pretty`). The compact text has none, and what
stands in the strings is the same in both.

`minify` drops every blank of a document that lies outside its strings. It reads the text once from left to
right and needs to know only whether it is outside a string, inside one, or inside one right after a
backslash, where a quote does not end it. It and two other ways of picking characters out of a document are told
apart only by what they keep at which place (`pick`). A text that begins and ends outside of strings is a `Piece`;
pieces stand side by side without seeing each other, so a printed value is taken apart as it was put together. The
one piece with something to see is a string: an escaped text can neither end the string nor leave the reader behind a
backslash.
-/

namespace Profiles

namespace Json

/-- Where a reader of a document stands with regard to its strings. -/
inductive Place where
  | outside
  | inside
  /-- Inside, after a backslash. -/
  | escaped

/-- Where a reader stands after a character. -/
def Place.next : Place → Char → Place
  | outside, c => if c = '"' then inside else outside
  | inside, c => if c = '"' then outside else if c = '\\' then escaped else inside
  | escaped, _ => inside

/-- The rest of a document without the blanks outside its strings. -/
def dropBlanks : Place → List Char → List Char
  | _, [] => []
  | .outside, c :: rest =>
    if Token.isBlank c then dropBlanks .outside rest
    -- only here can a character be dropped; in a string all of them are kept
    else c :: dropBlanks (Place.outside.next c) rest
  | place, c :: rest => c :: dropBlanks (place.next c) rest

/-- **A document without the blanks outside its strings.** -/
def minify (text : List Char) : List Char := dropBlanks .outside text

/-! ### Places -/

namespace Place

/-- Whether a place is outside of strings. Behind a backslash the reader is still in one. -/
def isOutside : Place → Bool
  | outside => true
  | inside => false
  | escaped => false

/-- Where a reader stands after a text. -/
def after (place : Place) (text : List Char) : Place := text.foldl next place

theorem after_append (place : Place) (text rest : List Char) :
    place.after (text ++ rest) = (place.after text).after rest :=
  List.foldl_append

/-- A backslash takes the reader away from the text, and any character behind it takes him back. -/
theorem next_inside {c : Char} (notQuote : c ≠ '"') (notBackslash : c ≠ '\\') :
    inside.next c = inside := by
  rw [next, if_neg notQuote, if_neg notBackslash]

end Place

/-- The characters of a text that are kept, by the place at which each of them is read. -/
def pick (keep : Place → Char → Bool) : Place → List Char → List Char
  | _, [] => []
  | place, c :: rest => if keep place c then c :: pick keep (place.next c) rest else pick keep (place.next c) rest

/-- What stands outside of the strings of a document, and the quotes that open them. -/
def outside (text : List Char) : List Char := pick (fun place _ => place.isOutside) .outside text

/-- What stands inside the strings of a document, and the quotes that close them. -/
def inside (text : List Char) : List Char := pick (fun place _ => !place.isOutside) .outside text

/-- What is no blank between tokens. -/
def isTold (place : Place) (c : Char) : Bool := !(place.isOutside && Token.isBlank c)

section

variable {keep : Place → Char → Bool}

theorem pick_append (place : Place) (text rest : List Char) :
    pick keep place (text ++ rest) = pick keep place text ++ pick keep (place.after text) rest := by
  induction text generalizing place with
  | nil => rfl
  | cons c text ih =>
    -- whether the first character is kept depends on its place alone, and so does the place after it
    have further := ih (place.next c)
    rw [List.cons_append, pick, pick]
    split
    · rw [further]
      rfl
    · exact further

/-- What is kept was to be kept where it stood. -/
theorem exists_of_mem_pick {place : Place} {text : List Char} {c : Char} (h : c ∈ pick keep place text) :
    ∃ there, keep there c = true := by
  induction text generalizing place with
  | nil => cases h
  | cons d text ih =>
    rw [pick] at h
    split at h
    · next kept =>
      rcases List.mem_cons.mp h with rfl | later
      · exact ⟨place, kept⟩
      · exact ih later
    -- this character was not kept, so it is none of those that were
    · exact ih h

theorem Token.ne_quote_of_isBlank {c : Char} (blank : isBlank c = true) : c ≠ '"' := by
  rintro rfl
  cases blank

/-- What is dropped is what is not told. -/
theorem dropBlanks_eq_pick (place : Place) (text : List Char) :
    dropBlanks place text = pick isTold place text := by
  induction text generalizing place with
  | nil => cases place <;> rfl
  | cons c text ih =>
    cases place with
    | outside =>
      -- outside of strings a character is dropped just where it is a blank
      rw [dropBlanks, pick, isTold, Place.isOutside, Bool.true_and]
      cases blank : Token.isBlank c with
      | true =>
        -- behind a blank the reader is where it was
        have stays : Place.outside.next c = .outside := if_neg (Token.ne_quote_of_isBlank blank)
        rw [stays]
        exact ih .outside
      | false => exact congrArg (c :: ·) (ih _)
    -- inside of one nothing is dropped and nothing is left untold
    | inside => exact congrArg (c :: ·) (ih _)
    | escaped => exact congrArg (c :: ·) (ih _)

/-- Dropping the blanks leaves every other character at its place. -/
theorem pick_dropBlanks (place : Place) (text : List Char) :
    pick keep place (dropBlanks place text) = pick (fun there c => isTold there c && keep there c) place text := by
  rw [dropBlanks_eq_pick]
  induction text generalizing place with
  | nil => rfl
  | cons c text ih =>
    rw [pick, pick]
    -- a character that is left is read at the place where it stood, since the reader has not moved in between
    cases told : isTold place c with
    | true =>
      show pick keep place (c :: pick isTold (place.next c) text) = _
      rw [pick, ih, Bool.true_and]
    | false =>
      -- only a blank outside of strings is dropped
      have between : place.isOutside = true ∧ Token.isBlank c = true := by
        simpa [isTold] using told
      have stays : place.next c = place := by
        cases place with
        | outside => exact if_neg (Token.ne_quote_of_isBlank between.2)
        | inside => cases between.1
        | escaped => cases between.1
      rw [stays]
      exact ih place

end

/-- **What is in strings stays**, whatever the document. -/
theorem inside_minify (text : List Char) : inside (minify text) = inside text := by
  have told : (fun place c => isTold place c && !place.isOutside) = fun place (_ : Char) => !place.isOutside := by
    funext place c
    cases place with
    -- a blank outside of strings is not told, but there nothing is picked either
    | outside => exact Bool.and_false _
    | inside | escaped => rfl
  rw [inside, minify, pick_dropBlanks, told, inside]

/-- **No blank is left between strings**, whatever the document. -/
theorem isBlank_of_mem_outside_minify {text : List Char} {c : Char} (h : c ∈ outside (minify text)) :
    Token.isBlank c = false := by
  rw [outside, minify, pick_dropBlanks] at h
  obtain ⟨place, kept⟩ := exists_of_mem_pick h
  cases place with
  | outside => simpa [isTold, Place.isOutside] using kept
  | inside => simp [Place.isOutside] at kept
  | escaped => simp [Place.isOutside] at kept

/-! ### Inside a string -/

/-- A text that a reader inside a string goes through without leaving it. -/
structure Within (text : List Char) : Prop where
  ends : Place.inside.after text = .inside
  kept (keep : Place → Char → Bool) (all : ∀ c, keep .inside c = true ∧ keep .escaped c = true) :
    pick keep .inside text = text

namespace Within

variable {text rest : List Char}

theorem nil : Within [] := ⟨rfl, fun _ _ => rfl⟩

theorem append (h : Within text) (h' : Within rest) : Within (text ++ rest) := by
  refine ⟨?_, ?_⟩
  -- the second text begins where the first has left the reader
  · rw [Place.after_append, h.ends, h'.ends]
  · intro keep all
    rw [pick_append, h.ends, h.kept keep all, h'.kept keep all]

theorem single {c : Char} (notQuote : c ≠ '"') (notBackslash : c ≠ '\\') : Within [c] := by
  refine ⟨Place.next_inside notQuote notBackslash, ?_⟩
  intro keep all
  rw [pick, pick, (all c).1, if_pos rfl]

/-- The character behind a backslash is part of the string, also where it is a quote. -/
theorem letter (c : Char) : Within ['\\', c] := by
  refine ⟨rfl, ?_⟩
  intro keep all
  -- the character behind the backslash is read in another place, which keeps it too
  show (if keep .inside '\\' then '\\' :: (if keep .escaped c then [c] else []) else _) = ['\\', c]
  rw [(all '\\').1, (all c).2, if_pos rfl, if_pos rfl]

theorem digit {d : Nat} (small : d < 16) : Within [Nat.digitChar d] := by
  have plain : ∀ d < 16, Nat.digitChar d ≠ '"' ∧ Nat.digitChar d ≠ '\\' := by decide
  exact single (plain d small).1 (plain d small).2

/-- However a character is written, a reader is between two characters again behind it. -/
theorem escape (c : Char) : Within (Quoted.escape c) := by
  unfold Quoted.escape
  -- seven characters have a letter of their own
  iterate 7
    -- the backslash goes in front, and whatever is behind it does no harm
    split
    · exact letter _
  split
  · next below =>
    -- the letter for a code unit, two zeros, and two digits
    have zero : Within ['0'] := digit (d := 0) (by decide)
    have high : Within [Nat.digitChar (c.toNat / 16)] := digit (by omega)
    have low : Within [Nat.digitChar (c.toNat % 16)] := digit (by omega)
    exact ((letter 'u').append zero).append (zero.append (high.append low))
  -- every other character stands for itself, and is neither the quote nor the backslash
  · next notQuote notBackslash _ _ _ _ _ _ => exact single notQuote notBackslash

/-- **An escaped text does not end the string it is in.** -/
theorem body (text : List Char) : Within (Quoted.body text) := by
  induction text with
  | nil => exact nil
  | cons c text ih => exact (escape c).append ih

end Within

/-! ### Pieces of a document -/

/-- A text between two places outside of strings: what is left of it without blanks, and what it holds in
strings. -/
structure Piece (text told held : List Char) : Prop where
  ends : Place.outside.after text = .outside
  minify_eq : minify text = told
  inside_eq : inside text = held

namespace Piece

variable {text rest told told' held held' : List Char}

theorem append (h : Piece text told held) (h' : Piece rest told' held') :
    Piece (text ++ rest) (told ++ told') (held ++ held') := by
  obtain ⟨ends, minify_eq, inside_eq⟩ := h
  obtain ⟨ends', minify_eq', inside_eq'⟩ := h'
  -- `minify` starts anew outside of strings, which is where the first text ends
  rw [minify, dropBlanks_eq_pick] at minify_eq minify_eq'
  rw [inside] at inside_eq inside_eq'
  refine ⟨?_, ?_, ?_⟩
  · rw [Place.after_append, ends, ends']
  · rw [minify, dropBlanks_eq_pick, pick_append, ends, minify_eq, minify_eq']
  · rw [inside, pick_append, ends, inside_eq, inside_eq']

theorem nil : Piece [] [] [] := ⟨rfl, rfl, rfl⟩

/-- A character that opens no string. -/
theorem single {c : Char} (notQuote : c ≠ '"') : Piece [c] (if Token.isBlank c then [] else [c]) [] := by
  refine ⟨if_neg notQuote, rfl, rfl⟩

theorem blank (h : Grammar.Blank text) : Piece text [] [] := by
  induction text with
  | nil => exact nil
  | cons c text ih =>
    have isBlank : Token.isBlank c = true := h c List.mem_cons_self
    have first := single (Token.ne_quote_of_isBlank isBlank)
    rw [if_pos isBlank] at first
    exact first.append (ih fun d hd => h d (List.mem_cons_of_mem c hd))

/-- A text that has neither blanks nor quotes is kept whole. -/
theorem word (h : text.all (fun c => c ≠ '"' && !Token.isBlank c) = true) : Piece text text [] := by
  induction text with
  | nil => exact nil
  | cons c text ih =>
    rw [List.all_cons, Bool.and_eq_true, Bool.and_eq_true, decide_eq_true_eq, Bool.not_eq_true'] at h
    obtain ⟨⟨notQuote, notBlank⟩, rest⟩ := h
    have first := single notQuote
    rw [notBlank] at first
    exact first.append (ih rest)

theorem mark {c : Char} (h : Grammar.Mark c text) (notQuote : c ≠ '"') (notBlank : Token.isBlank c = false) :
    Piece text [c] [] := by
  obtain ⟨left, right⟩ := h
  have middle := single notQuote
  rw [notBlank] at middle
  exact (blank left).append (middle.append (blank right))

/-- What goes on in a word is neither. -/
theorem of_endsWord (h : ∀ c ∈ text, Token.endsWord c = false) : Piece text text [] := by
  refine word (List.all_eq_true.mpr ?_)
  intro c hc
  have inWord := h c hc
  -- what ends a word is a blank, a quote or a mark, so this character is none of them
  simp only [Token.endsWord, Bool.or_eq_false_iff, decide_eq_false_iff_not] at inWord
  simp [inWord]

/-- **A string is kept whole**, whatever it quotes. -/
theorem literal (text : List Char) :
    Piece (Quoted.encode text) (Quoted.encode text) (Quoted.body text ++ ['"']) := by
  have within := Within.body text
  refine ⟨?_, ?_, ?_⟩
  -- the opening quote takes the reader into the string, and the closing one out of it
  · show Place.inside.after (Quoted.body text ++ ['"']) = .outside
    rw [Place.after_append, within.ends]
    rfl
  -- nothing is dropped in between, and the quotes are no blanks
  · rw [minify, dropBlanks_eq_pick]
    show '"' :: pick isTold .inside (Quoted.body text ++ ['"']) = _
    rw [pick_append, within.ends, within.kept isTold fun _ => ⟨rfl, rfl⟩]
    rfl
  · show pick (fun place _ => !place.isOutside) .inside (Quoted.body text ++ ['"']) = _
    rw [pick_append, within.ends, within.kept _ fun _ => ⟨rfl, rfl⟩]
    rfl

end Piece

/-! ### Printed values -/

mutual

/-- The names and texts of a value, in the order in which they stand in its document. -/
def strings : Json → List String
  | null | bool _ | int _ | decimal _ _ => []
  | str text => [text]
  | arr items => stringsOfItems items
  | obj members => stringsOfMembers members

/-- The strings in some items, from the first item to the last. -/
def stringsOfItems : List Json → List String
  | [] => []
  | item :: items => item.strings ++ stringsOfItems items

/-- The strings in some members, each name before what is in its value. -/
def stringsOfMembers : List (String × Json) → List String
  | [] => []
  | (name, value) :: members => name :: value.strings ++ stringsOfMembers members

end

/-- Texts one after another, each escaped by itself and with the quote that closes it. -/
def closed (texts : List String) : List Char := texts.flatMap fun text => Quoted.body text.toList ++ ['"']

theorem closed_append (texts texts' : List String) : closed (texts ++ texts') = closed texts ++ closed texts' :=
  List.flatMap_append

theorem closed_cons (text : String) (texts : List String) :
    closed (text :: texts) = (Quoted.body text.toList ++ ['"']) ++ closed texts := rfl

section

variable {layout : Layout}

theorem Piece.renderName (blanks : layout.AddsBlanks) (name : String) :
    Piece (renderName layout name) (Json.renderName .compact name) (Quoted.body name.toList ++ ['"']) := by
  have colon := mark blanks.colon (by decide) rfl
  have piece := (literal name.toList).append colon
  rw [List.append_nil] at piece
  exact piece

mutual

/-- **A document without its blanks is the compact one**, and holds the same strings. -/
theorem Piece.render (blanks : layout.AddsBlanks) (depth depth' : Nat) : (value : Json) →
    Piece (value.render layout depth) (value.render .compact depth') (closed value.strings)
  | null => word rfl
  | bool true => word rfl
  | bool false => word rfl
  | int n => by
    -- a number has neither blanks nor quotes
    refine of_endsWord ?_
    intro c hc
    exact Token.endsWord_of_number ((Token.mem_decimal hc).imp id .inr)
  | decimal mantissa exponent => by
    refine of_endsWord ?_
    intro c hc
    exact Token.endsWord_of_number (Token.mem_decimal_exponent hc)
  | str text => by
    simpa [Json.render, strings, closed] using literal text.toList
  | arr [] => word rfl
  | arr (item :: items) => by
    -- each part of the text is a piece: the bracket with its line break, the items, the other bracket
    have opening := mark (.of_right (blanks.lineBreak (depth + 1))) (c := '[') (by decide) rfl
    have first := Piece.render blanks (depth + 1) (depth' + 1) item
    have others := Piece.renderItems blanks (depth + 1) (depth' + 1) items
    have closing := mark (.of_left (blanks.lineBreak depth)) (c := ']') (by decide) rfl
    simpa [Json.render, Layout.compact, strings, stringsOfItems, closed_append] using
      opening.append (first.append (others.append closing))
  | obj [] => word rfl
  | obj ((name, value) :: members) => by
    -- a member has its name and colon in front, which bring the name as a string
    have opening := mark (.of_right (blanks.lineBreak (depth + 1))) (c := '{') (by decide) rfl
    have key := Piece.renderName blanks name
    have first := Piece.render blanks (depth + 1) (depth' + 1) value
    have others := Piece.renderMembers blanks (depth + 1) (depth' + 1) members
    have closing := mark (.of_left (blanks.lineBreak depth)) (c := '}') (by decide) rfl
    simpa [Json.render, Layout.compact, strings, stringsOfMembers, closed_append, closed_cons] using
      opening.append (key.append (first.append (others.append closing)))

theorem Piece.renderItems (blanks : layout.AddsBlanks) (depth depth' : Nat) : (items : List Json) →
    Piece (Json.renderItems layout depth items) (Json.renderItems .compact depth' items)
      (closed (stringsOfItems items))
  | [] => nil
  | item :: items => by
    -- the comma brings its line break along, which is dropped with it
    have comma := mark (.of_right (blanks.lineBreak depth)) (c := ',') (by decide) rfl
    have first := Piece.render blanks depth depth' item
    have others := Piece.renderItems blanks depth depth' items
    simpa [Json.renderItems, Layout.compact, stringsOfItems, closed_append] using
      comma.append (first.append others)

theorem Piece.renderMembers (blanks : layout.AddsBlanks) (depth depth' : Nat) :
    (members : List (String × Json)) →
    Piece (Json.renderMembers layout depth members) (Json.renderMembers .compact depth' members)
      (closed (stringsOfMembers members))
  | [] => nil
  | (name, value) :: members => by
    -- as for items, with the name and its colon behind the comma
    have comma := mark (.of_right (blanks.lineBreak depth)) (c := ',') (by decide) rfl
    have key := Piece.renderName blanks name
    have first := Piece.render blanks depth depth' value
    have others := Piece.renderMembers blanks depth depth' members
    simpa [Json.renderMembers, Layout.compact, stringsOfMembers, closed_append, closed_cons] using
      comma.append (key.append (first.append others))

end

end

/-- A quote and a backslash in a string, and a text that looks like the end of one, leave the reader in it. -/
example : minify "\x7b\n  \"a \\\" : \x7b\\\\\": \"b \\n\"\n\x7d".toList
    = "\x7b\"a \\\" : \x7b\\\\\":\"b \\n\"\x7d".toList := rfl

end Json

/-- **The pretty and the compact JSON text of a record agree.** Without the blanks outside of its strings the
pretty text is the compact one, character by character, and the compact text has no blank there. In the
strings of both stand the same texts: the keys and what the record holds, in their order, each escaped as it
is by itself, with all its spaces. -/
theorem Record.minify_pretty (record : Record) :
    ∃ pretty compact : String, record.answer (.json true) = .ok (.text pretty) ∧
      record.answer (.json false) = .ok (.text compact) ∧
      Json.minify pretty.toList = compact.toList ∧
      (∀ c ∈ Json.outside compact.toList, Json.Token.isBlank c = false) ∧
      Json.inside pretty.toList = Json.closed record.outline.toJson.strings ∧
      Json.inside compact.toList = Json.closed record.outline.toJson.strings := by
  -- the pretty text as a piece says both what is left without blanks and what is in the strings
  have piece := Json.Piece.render (Json.Layout.addsBlanks_select true) 0 0 record.outline.toJson
  have pretty : (record.outline.json true).toList = record.outline.toJson.render (.select true) 0 :=
    record.outline.toList_json true
  have compact : (record.outline.json false).toList = record.outline.toJson.render .compact 0 :=
    record.outline.toList_json false
  have same : Json.minify (record.outline.json true).toList = (record.outline.json false).toList := by
    rw [pretty, compact, piece.minify_eq]
  have held : Json.inside (record.outline.json true).toList = Json.closed record.outline.toJson.strings := by
    rw [pretty, piece.inside_eq]
  refine ⟨record.outline.json true, record.outline.json false, rfl, rfl, same, ?_, held, ?_⟩
  -- the compact text comes from dropping blanks, so none is left in it
  · intro c between
    rw [← same] at between
    exact Json.isBlank_of_mem_outside_minify between
  -- and dropping blanks leaves what is in strings
  · rw [← same, Json.inside_minify, held]

end Profiles
