import Profiles.Proofs.Outline.Lines
import Profiles.Proofs.Text.Literal
import Profiles.Query
import Profiles.Recipe

/-!
# Reading the texts of a record back

A text for debugging can be cut open again. Behind the key of each field that holds a text stands a literal, and
whoever reads on from its opening quote gets the text and stops at the quote that closes it, whatever the text holds
and whatever follows (`Record.literals_read_back`). That is so for the scanner, and for any other reader that goes by
the grammar: a literal that is written by `Literal.encode` has one reading.

A reader of the whole has to find the keys. `Outline.Holds` says that a text is in a field, at any level of an
outline, and `Outline.Holds.exists_render` that the printer writes the key and then the literal there, with no flag
and no indentation in between.
-/

namespace Profiles

/-- **A text is held in a field** of an outline, or of an outline inside it. -/
inductive Outline.Holds (key text : String) : Outline → Prop where
  | here {name : String} {fields : List (String × Outline)} (listed : (key, .str text) ∈ fields) :
      Holds key text (.struct name fields)
  | inside {name field : String} {fields : List (String × Outline)} {value : Outline}
      (listed : (field, value) ∈ fields) (held : value.Holds key text) : Holds key text (.struct name fields)

namespace Debug

variable (format : Format) (layout : Layout) {key : String} {value : Outline}
  {fields : List (String × Outline)}

theorem exists_renderFields (listed : (key, value) ∈ fields) (depth : Nat) :
    ∃ before after, renderFields format layout depth fields =
      before ++ renderKey key ++ render format layout (depth + 1) value ++ after := by
  induction fields with
  | nil => cases listed
  | cons field fields ih =>
    obtain ⟨key', value'⟩ := field
    rw [renderFields]
    rcases List.mem_cons.mp listed with same | later
    · obtain ⟨rfl, rfl⟩ := Prod.mk.inj same
      exact ⟨_, _, rfl⟩
    -- it is a later one, so what stands in front grows by this field
    · obtain ⟨before, after, split⟩ := ih later
      refine ⟨layout.between depth ++ renderKey key' ++ render format layout (depth + 1) value' ++ before,
        after, ?_⟩
      rw [split]
      simp only [List.append_assoc]

/-- **A field is written behind its key**, one level further in. -/
theorem exists_render (listed : (key, value) ∈ fields) (name : String) (depth : Nat) :
    ∃ before after, render format layout depth (.struct name fields) =
      before ++ renderKey key ++ render format layout (depth + 1) value ++ after := by
  cases fields with
  | nil => cases listed
  | cons field fields =>
    -- the first field opens the structure, and the others are written behind it
    obtain ⟨key', value'⟩ := field
    rw [render]
    rcases List.mem_cons.mp listed with same | later
    · obtain ⟨rfl, rfl⟩ := Prod.mk.inj same
      refine ⟨name.toList ++ layout.opening depth,
        renderFields format layout depth fields ++ layout.closing depth, ?_⟩
      simp only [List.append_assoc]
    · obtain ⟨before, after, split⟩ := exists_renderFields format layout later depth
      refine ⟨name.toList ++ layout.opening depth ++ renderKey key' ++
        render format layout (depth + 1) value' ++ before, after ++ layout.closing depth, ?_⟩
      rw [split]
      simp only [List.append_assoc]

end Debug

/-- **A text that is held is written as a literal behind its key**, under whatever flags and however far in. -/
theorem Outline.Holds.exists_render {key text : String} {outline : Outline} (held : outline.Holds key text)
    (format : Format) (layout : Debug.Layout) (depth : Nat) :
    ∃ before after, Debug.render format layout depth outline =
      before ++ Debug.renderKey key ++ Text.Literal.encode text.toList ++ after := by
  induction held generalizing depth with
  | @here name fields listed =>
    obtain ⟨before, after, split⟩ := Debug.exists_render format layout listed name depth
    refine ⟨before, after, ?_⟩
    rw [split, Outline.str, Debug.render]
    rfl
  | @inside name field fields value listed held ih =>
    -- the structure is a field of another, and its text stands in that of the other
    obtain ⟨before, after, split⟩ := Debug.exists_render format layout listed name depth
    obtain ⟨front, back, within⟩ := ih (depth + 1)
    refine ⟨before ++ Debug.renderKey field ++ front, back ++ after, ?_⟩
    rw [split, within]
    simp only [List.append_assoc]

/-! ### Hidden characters -/

/-- Hidden characters of all sorts, by their code points: the controls, blanks and line ends other than those of
ASCII, marks that belong to the character before them, characters that change how others are shown, and the
neighbours of the code points that no character has. -/
def Text.unseen : List Nat :=
  List.range 0x20 ++ [0x7f, 0x85, 0xa0, 0xad, 0x300, 0x301, 0x94d, 0x200b, 0x200d, 0x2028, 0x2029, 0x202e, 0x3000,
    0xd7ff, 0xe000, 0xfeff, 0xfffe, 0xffff, 0x10ffff]

theorem Text.isHidden_of_unseen {c : Char} (unseen : c.toNat ∈ Text.unseen) : isHidden c = true := by
  have listed : Text.unseen.all (inRuns · hiddenRuns) = true := by decide +kernel
  exact List.all_eq_true.mp listed c.toNat unseen

/-! ### Records -/

namespace Record

/-- **The texts that the constructors of a record were given**, each with the key of its field. -/
def given : Record → List (String × String)
  | person p => [("name", p.name), ("email", p.email)]
  | group _ => []
  | workspace w => [("slug", w.slug)]
  | fixture f => [("name", f.person.name), ("email", f.person.email), ("slug", f.workspace.slug)]

theorem holds_of_given {record : Record} {key text : String} (stored : (key, text) ∈ record.given) :
    record.outline.Holds key text := by
  have ofPerson {p : Person} (stored : (key, text) ∈ (person p).given) : p.outline.Holds key text := by
    simp only [given, List.mem_cons, Prod.mk.injEq, List.not_mem_nil, or_false] at stored
    rcases stored with ⟨rfl, rfl⟩ | ⟨rfl, rfl⟩
    all_goals exact .here (by simp)
  have ofWorkspace {w : Workspace} (stored : (key, text) ∈ (workspace w).given) : w.outline.Holds key text := by
    obtain ⟨rfl, rfl⟩ := Prod.mk.inj (List.mem_singleton.mp stored)
    exact .here List.mem_cons_self
  cases record with
  | person p => exact ofPerson stored
  | group g => cases stored
  | workspace w => exact ofWorkspace stored
  | fixture f =>
    -- what a fixture was given, its parts were given
    have part : (key, text) ∈ (person f.person).given ∨ (key, text) ∈ (workspace f.workspace).given :=
      List.mem_append.mp stored
    rcases part with stored | stored
    · exact .inside List.mem_cons_self (ofPerson stored)
    · exact .inside (List.mem_cons_of_mem _ (List.mem_cons_of_mem _ List.mem_cons_self)) (ofWorkspace stored)

/-- **The texts of a record are read back from its text for debugging.** What a constructor was given for a name, an
email or a slug has one spelling, and under every supported specification this is what stands in quotes behind its
key. Nothing in it is below the space or hidden. Reading it as a literal ends at the quote behind it, with the text,
and leaves what follows, whatever that is; the grammar allows no other reading. -/
theorem literals_read_back (record : Record) {key text : String} (stored : (key, text) ∈ record.given) :
    ∃ inner,
      (∀ other, Text.Literal.Spelling text.toList other ↔ other = inner) ∧
      (∀ c ∈ inner, 0x20 ≤ c.toNat ∧ Text.isHidden c = false ∧ c.toNat ∉ Text.unseen) ∧
      (∀ following, Text.Literal.read? ('"' :: (inner ++ '"' :: following)) = some (text.toList, following)) ∧
      (∀ following decoded rest,
        Text.Literal.Reads (inner ++ '"' :: following) decoded rest ↔ decoded = text.toList ∧ rest = following) ∧
      ∀ spec ∈ Format.supported, ∃ shown before after,
        record.answer (.debug spec) = .ok (.text shown) ∧
        shown.toList = before ++ key.toList ++ [':', ' ', '"'] ++ inner ++ '"' :: after := by
  refine ⟨Text.Literal.body text.toList, fun other => Text.Literal.spelling_iff, ?_, ?_, ?_, ?_⟩
  -- a literal has nothing hidden in it, and what is below the space is hidden
  · intro c among
    have shown := Text.Literal.isHidden_of_mem_body among
    refine ⟨?_, shown, ?_⟩
    · by_contra below
      rw [Text.isHidden_of_lt_space (Nat.lt_of_not_le below)] at shown
      cases shown
    · intro unseen
      rw [Text.isHidden_of_unseen unseen] at shown
      cases shown
  -- the scanner undoes the spelling and stops at the quote
  · intro following
    exact Text.Literal.scan?_body text.toList following
  · intro following decoded rest
    rw [← Text.Literal.scan?_eq_some_iff, Text.Literal.scan?_body, Option.some.injEq, Prod.mk.injEq,
      eq_comm (a := decoded), eq_comm (a := rest)]
  -- the text of the record has the literal behind the key of its field
  · intro spec supported
    obtain ⟨format, read⟩ := Option.isSome_iff_exists.mp (Format.isSome_ofSpec? spec supported)
    obtain ⟨before, after, split⟩ := (holds_of_given stored).exists_render format (.select format) 0
    refine ⟨Debug.text format record.outline, before, after, by rw [answer, read], ?_⟩
    rw [Debug.toList_text, split]
    simp only [Debug.renderKey, Text.Literal.encode, List.append_assoc, List.cons_append, List.nil_append]

/-- A name that looks escaped already: a zero behind a control, backslashes before a quote, a code point in braces, and
an accent that would hide in the letter before it. -/
theorem literals_read_back_lookalike :
    let name := "\x000\\\\\"\\u\x7b41\x7de\u0301"
    let inner := "\\00\\\\\\\\\\\"\\\\u\x7b41\x7de\\u\x7b301\x7d".toList
    let record := (Recipe.leaf (.person name 7 "")).record
    ("name", name) ∈ record.given ∧
      (∀ following, Text.Literal.read? ('"' :: (inner ++ '"' :: following)) = some (name.toList, following)) ∧
      "08x?" ∈ Format.supported ∧ ∃ shown before after, record.answer (.debug "08x?") = .ok (.text shown) ∧
        shown.toList = before ++ "name".toList ++ [':', ' ', '"'] ++ inner ++ '"' :: after := by
  intro name inner record
  have stored : ("name", name) ∈ record.given := List.mem_cons_self
  have known : "08x?" ∈ Format.supported := by decide
  obtain ⟨spelling, spelled, -, reading, -, shown⟩ := literals_read_back record stored
  obtain rfl : inner = spelling := (spelled inner).mp (Text.Literal.spelling_iff.mpr (by decide))
  exact ⟨stored, reading, known, shown _ known⟩

end Record

end Profiles
