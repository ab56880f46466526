import Profiles.Proofs.Debug.Number
import Profiles.Proofs.Record.Standard
import Profiles.Query

/-!
# Texts for debugging tell records apart

Under every supported format two records that are built by recipes have the same text only if they are
equal (`Record.debug_text_eq_iff`), whatever is padded, cut short or quoted in it.

The argument is one of prefixes. A text is read from its left end, with an arbitrary rest behind it, and
each piece tells where it ends:

* a string literal ends at its closing quote (`Text.Literal.read?_encode`);
* a number has no mark of its own, but what follows it in a structure holds a comma or a brace, and the
  number holds neither. `Format.Divided` says of two rests that they begin with the same such piece;
* a truth value can lose all its characters to a precision, so two outlines are compared only if they agree
  on them. `Outline.Alike` says that two outlines differ in texts and numbers at most.

Every standard person is active, so outlines of standard records of one kind are alike, and records of
different kinds start with different letters.
-/

namespace Profiles

/-! ### Where a piece ends -/

/-- Two texts that go on after the first occurrence of a character are cut there. -/
theorem Text.append_cons_inj {c : Char} {a b r s : List Char} (ha : c ∉ a) (hb : c ∉ b)
    (h : a ++ c :: r = b ++ c :: s) : a = b ∧ r = s := by
  -- either front is what comes before the first `c`
  have upTo {x : List Char} (hx : c ∉ x) (y : List Char) : (x ++ c :: y).takeWhile (· ≠ c) = x := by
    have foreign : ∀ d ∈ x, decide (d ≠ c) = true := by
      intro d hd
      rw [decide_eq_true_eq]
      rintro rfl
      exact hx hd
    rw [List.takeWhile_append_of_pos foreign]
    simp
  have front := congrArg (List.takeWhile (· ≠ c)) h
  rw [upTo ha, upTo hb] at front
  subst front
  exact ⟨rfl, (List.cons.inj (List.append_cancel_left h)).2⟩

/-- A literal is read off the front of a text. -/
theorem Text.Literal.encode_append_inj {a b r s : List Char}
    (h : encode a ++ r = encode b ++ s) : a = b ∧ r = s := by
  -- the scanner stops at the closing quote that was written, on both sides of the equation
  have read := read?_encode a r
  rw [h, read?_encode] at read
  obtain ⟨text, rest⟩ := Prod.mk.inj (Option.some.inj read)
  exact ⟨text.symm, rest.symm⟩

namespace Format

variable {format : Format}

/-- A piece of text that holds a character which no number holds. -/
def Divides (format : Format) (piece : List Char) : Prop := ∃ c ∈ piece, ∀ n, c ∉ format.int n

/-- Two rests begin with the same piece, and it divides. -/
def Divided (format : Format) (r s : List Char) : Prop :=
  ∃ piece r' s', format.Divides piece ∧ r = piece ++ r' ∧ s = piece ++ s'

theorem divides_of_mark (legible : format.IsLegible) {piece : List Char} {c : Char}
    (mark : c = ',' ∨ c = '}') (h : c ∈ piece) : format.Divides piece :=
  ⟨c, h, mark_notMem_int legible mark⟩

theorem Divides.divided {piece : List Char} (h : format.Divides piece) (r s : List Char) :
    format.Divided (piece ++ r) (piece ++ s) :=
  ⟨piece, r, s, h, rfl, rfl⟩

/-- A number is read off the front of a text that goes on with a dividing piece. -/
theorem int_append_inj (legible : format.IsLegible) {a b : Int64} {r s : List Char}
    (rest : format.Divided r s) (h : format.int a ++ r = format.int b ++ s) : a = b ∧ r = s := by
  obtain ⟨piece, r, s, ⟨c, mem, foreign⟩, rfl, rfl⟩ := rest
  obtain ⟨before, after, rfl, first⟩ := List.eq_append_cons_of_mem mem
  -- the first `c` of either side comes after the number and the piece before it
  have notLeft (n : Int64) : c ∉ format.int n ++ before := by
    rw [List.mem_append]
    exact fun h => h.elim (foreign n) first
  have split (n : Int64) (t : List Char) :
      format.int n ++ (before ++ c :: after ++ t) = format.int n ++ before ++ c :: (after ++ t) := by
    simp
  rw [split, split] at h
  obtain ⟨number, rest⟩ := Text.append_cons_inj (notLeft a) (notLeft b) h
  exact ⟨int_inj legible (List.append_cancel_right number), by rw [List.append_cancel_left rest]⟩

end Format

/-! ### Outlines -/

/-- Two scalars that differ in a text or a number at most. -/
def Scalar.Alike : Scalar → Scalar → Prop
  | str _, str _ => True
  | int _, int _ => True
  | bool a, bool b => a = b
  | _, _ => False

namespace Outline

mutual

/-- **Two outlines that differ in texts and numbers at most.** -/
def Alike : Outline → Outline → Prop
  | scalar a, scalar b => a.Alike b
  | struct name fields, struct name' fields' => name = name' ∧ FieldsAlike fields fields'
  | _, _ => False

/-- The same keys in the same order, with values that differ in texts and numbers at most. -/
def FieldsAlike : List (String × Outline) → List (String × Outline) → Prop
  | [], [] => True
  | (key, value) :: fields, (key', value') :: fields' =>
    key = key' ∧ Alike value value' ∧ FieldsAlike fields fields'
  | _, _ => False

end

end Outline

namespace Debug

open Outline

variable {format : Format}

/-- A scalar is read off the front of a text. -/
theorem scalar_append_inj (legible : format.IsLegible) {a b : Scalar} (alike : a.Alike b)
    {r s : List Char} (rest : format.Divided r s) (h : format.scalar a ++ r = format.scalar b ++ s) :
    a = b ∧ r = s := by
  cases a with
  | str text =>
    -- a literal ends at its quote, whatever follows it
    cases b with
    | str text' =>
      obtain ⟨same, after⟩ := Text.Literal.encode_append_inj h
      exact ⟨by rw [String.toList_inj.mp same], after⟩
    | int _ => exact alike.elim
    | bool _ => exact alike.elim
  -- a number ends where the piece that divides it from the rest begins
  | int n =>
    cases b with
    | str _ => exact alike.elim
    | int n' =>
      obtain ⟨same, after⟩ := Format.int_append_inj legible rest h
      exact ⟨by rw [same], after⟩
    | bool _ => exact alike.elim
  | bool v =>
    cases b with
    | str _ => exact alike.elim
    | int _ => exact alike.elim
    | bool v' =>
      -- the words may be cut away, but they are the same word
      obtain rfl : v = v' := alike
      exact ⟨rfl, List.append_cancel_left h⟩

/-- What either layout puts between two fields, and after the last of them, divides. -/
theorem divides_between (legible : format.IsLegible) (depth : Nat) :
    format.Divides ((Layout.select format).between depth) := by
  refine Format.divides_of_mark legible (.inl rfl) ?_
  unfold Layout.select
  split <;> simp [Layout.alternate, Layout.plain]

theorem divides_closing (legible : format.IsLegible) (depth : Nat) :
    format.Divides ((Layout.select format).closing depth) := by
  refine Format.divides_of_mark legible (.inr rfl) ?_
  unfold Layout.select
  split <;> simp [Layout.alternate, Layout.plain]

/-- Fields of alike outlines keep what follows them divided. -/
theorem divided_fields (legible : format.IsLegible) (depth : Nat) {r s : List Char}
    (rest : format.Divided r s) {fields fields' : List (String × Outline)}
    (alike : FieldsAlike fields fields') :
    format.Divided (renderFields format (.select format) depth fields ++ r)
      (renderFields format (.select format) depth fields' ++ s) := by
  -- another field begins with what stands between fields, and if there is none the rest is as it was
  match fields, fields', alike with
  | [], [], _ => exact rest
  | (key, value) :: fields, (key', value') :: fields', _ =>
    simp only [renderFields, List.append_assoc]
    exact (divides_between legible depth).divided _ _

mutual

/-- **An outline is read off the front of a text**, from among those that are alike. -/
theorem render_append_inj (legible : format.IsLegible) (depth : Nat) {r s : List Char}
    (rest : format.Divided r s) : (a b : Outline) → a.Alike b →
    render format (.select format) depth a ++ r = render format (.select format) depth b ++ s →
    a = b ∧ r = s
  | scalar a, scalar b, alike, h => by
    simp only [render] at h
    obtain ⟨same, after⟩ := scalar_append_inj legible alike rest h
    exact ⟨by rw [same], after⟩
  | struct name [], struct name' [], alike, h => by
    obtain ⟨rfl, -⟩ := alike
    exact ⟨rfl, List.append_cancel_left h⟩
  | struct name ((key, value) :: fields), struct name' ((key', value') :: fields'), alike, h => by
    obtain ⟨rfl, rfl, first, others⟩ := alike
    simp only [render, List.append_assoc, List.append_cancel_left_eq] at h
    -- behind the first value come the other fields and the closing brace, so it is divided from them
    have closed := (divides_closing legible depth).divided r s
    obtain ⟨rfl, after⟩ := render_append_inj legible (depth + 1)
      (divided_fields legible depth closed others) value value' first h
    obtain ⟨rfl, last⟩ := renderFields_append_inj legible depth closed fields fields' others after
    exact ⟨rfl, List.append_cancel_left last⟩

/-- Fields are read off the front of a text, from among those that are alike. -/
theorem renderFields_append_inj (legible : format.IsLegible) (depth : Nat) {r s : List Char}
    (rest : format.Divided r s) : (fields fields' : List (String × Outline)) →
    FieldsAlike fields fields' →
    renderFields format (.select format) depth fields ++ r
      = renderFields format (.select format) depth fields' ++ s →
    fields = fields' ∧ r = s
  | [], [], _, h => ⟨rfl, h⟩
  | (key, value) :: fields, (key', value') :: fields', alike, h => by
    -- the same key on both sides, so what is left begins with the values
    obtain ⟨rfl, first, others⟩ := alike
    simp only [renderFields, List.append_assoc, List.append_cancel_left_eq] at h
    obtain ⟨rfl, after⟩ := render_append_inj legible (depth + 1)
      (divided_fields legible depth rest others) value value' first h
    obtain ⟨rfl, last⟩ := renderFields_append_inj legible depth rest fields fields' others after
    exact ⟨rfl, last⟩

end

/-- Outlines that are alike and have the same text are the same. -/
theorem render_inj (legible : format.IsLegible) {a b : Outline} (alike : a.Alike b)
    (h : render format (.select format) 0 a = render format (.select format) 0 b) : a = b := by
  -- any character that divides will do for a rest, since there is none
  have comma : format.Divides [','] := Format.divides_of_mark legible (.inl rfl) (by simp)
  exact (render_append_inj legible 0 (comma.divided [] []) a b alike (by rw [h])).1

end Debug

/-! ### Records -/

/-- The letter that the name of a record starts with. -/
def Kind.initial : Kind → Char
  | person => 'P'
  | group => 'G'
  | workspace => 'W'
  | fixture => 'F'

theorem Kind.initial_inj {a b : Kind} (h : a.initial = b.initial) : a = b := by
  revert h
  cases a <;> cases b <;> decide

namespace Record

/-- Standard records of one kind have alike outlines. -/
theorem alike_outline {a b : Record} (ha : a.IsStandard) (hb : b.IsStandard) (kind : a.kind = b.kind) :
    a.outline.Alike b.outline := by
  -- what has to agree are the names, the keys and the truth values
  match a, b, kind with
  | person p, person q, _ =>
    -- both are active, which is the one thing that a text may not show
    have active : p.isActive = q.isActive := ha.trans hb.symm
    simp [outline, Person.outline, Outline.Alike, Outline.FieldsAlike, Outline.str, Outline.int,
      Outline.bool, Scalar.Alike, active]
  | group g, group g', _ =>
    simp [outline, Group.outline, Outline.Alike, Outline.FieldsAlike, Outline.str, Outline.int,
      Scalar.Alike]
  | workspace w, workspace w', _ =>
    simp [outline, Workspace.outline, Outline.Alike, Outline.FieldsAlike, Outline.str, Scalar.Alike]
  | fixture f, fixture f', _ =>
    -- the parts of a fixture bring only the truth value of its person
    have active : f.person.isActive = f'.person.isActive := ha.1.trans hb.1.symm
    simp [outline, Fixture.outline, Person.outline, Group.outline, Workspace.outline, Outline.Alike,
      Outline.FieldsAlike, Outline.str, Outline.int, Outline.bool, Scalar.Alike, active]

/-- An outline shows everything that a record of its kind holds. -/
theorem outline_inj {a b : Record} (kind : a.kind = b.kind) (h : a.outline = b.outline) : a = b := by
  match a, b, kind with
  | person ⟨_, _, _, _⟩, person ⟨_, _, _, _⟩, _ =>
    simpa [outline, Person.outline, Outline.str, Outline.int, Outline.bool] using h
  | group ⟨_, _⟩, group ⟨_, _⟩, _ =>
    simpa [outline, Group.outline, Outline.str, Outline.int] using h
  | workspace ⟨_, _⟩, workspace ⟨_, _⟩, _ =>
    simpa [outline, Workspace.outline, Outline.str] using h
  | fixture ⟨⟨_, _, _, _⟩, ⟨_, _⟩, ⟨_, _⟩⟩, fixture ⟨⟨_, _, _, _⟩, ⟨_, _⟩, ⟨_, _⟩⟩, _ =>
    simpa [outline, Fixture.outline, Person.outline, Group.outline, Workspace.outline, Outline.str,
      Outline.int, Outline.bool] using h

theorem head?_render (record : Record) (format : Format) (layout : Debug.Layout) (depth : Nat) :
    (Debug.render format layout depth record.outline).head? = some record.kind.initial := by
  cases record <;> rfl

/-- **Standard records with the same text are the same.** -/
theorem render_outline_inj {format : Format} (legible : format.IsLegible) {a b : Record}
    (ha : a.IsStandard) (hb : b.IsStandard)
    (h : Debug.render format (.select format) 0 a.outline
      = Debug.render format (.select format) 0 b.outline) : a = b := by
  -- the first letter gives the kind, and then the outlines can be compared field by field
  have initial := congrArg List.head? h
  rw [head?_render, head?_render] at initial
  have kind := Kind.initial_inj (Option.some.inj initial)
  exact outline_inj kind (Debug.render_inj legible (alike_outline ha hb kind) h)

/-- **A text for debugging identifies its record.** Under a supported specification every two recipes build
records that have a text, and the texts are equal exactly when the records are. -/
theorem debug_text_eq_iff {spec : String} (supported : spec ∈ Format.supported) (a b : Recipe) :
    ∃ s t, a.record.answer (.debug spec) = .ok (.text s) ∧ b.record.answer (.debug spec) = .ok (.text t) ∧
      (s = t ↔ a.record.kind = b.record.kind ∧ a.record = b.record) := by
  have legible := Format.isLegible_of_supported spec supported
  cases read : Format.ofSpec? spec with
  -- a format that is not read is not supported
  | none =>
    rw [read] at legible
    exact absurd legible (by decide)
  | some format =>
    rw [read, Option.any_some, decide_eq_true_eq] at legible
    refine ⟨Debug.text format a.record.outline, Debug.text format b.record.outline, ?_, ?_, ?_⟩
    · rw [answer, read]
    · rw [answer, read]
    · constructor
      -- equal texts have equal characters, and those give the record back
      · intro h
        have same := render_outline_inj legible a.isStandard_record b.isStandard_record
          (String.ofList_injective h)
        exact ⟨by rw [same], same⟩
      · rintro ⟨-, same⟩
        rw [same]

/-- A name that reads like the rest of a text is told from that rest, also where the age is shown in
hexadecimal. -/
theorem debug_text_forged_fields :
    "#010x?" ∈ Format.supported ∧
      ∃ s t,
        (Recipe.leaf (.person "a" 5 "b\", is_active: true")).record.answer (.debug "#010x?")
            = .ok (.text s) ∧
          (Recipe.leaf (.person "a\", age: 0x00000005, email: \"b" (-1) "")).record.answer
              (.debug "#010x?") = .ok (.text t) ∧
          (s = t ↔
            (Recipe.leaf (.person "a" 5 "b\", is_active: true")).record.kind
                = (Recipe.leaf (.person "a\", age: 0x00000005, email: \"b" (-1) "")).record.kind ∧
              (Recipe.leaf (.person "a" 5 "b\", is_active: true")).record
                = (Recipe.leaf (.person "a\", age: 0x00000005, email: \"b" (-1) "")).record) :=
  ⟨by decide, debug_text_eq_iff (by decide) _ _⟩

end Record

end Profiles
