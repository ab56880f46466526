import Profiles.Proofs.Outline.Stream
import Profiles.Query

/-!
# The calls of a serialization

A record told to a recorder with room for a limited number of calls leaves the first of its calls there, as
many as there is room for, and the answer is a failure exactly when that is not all of them
(`Record.answer_calls_limited`). How deep in a fixture the room gives out does not matter, since a telling makes the
calls of the flat stream one after the other.

The calls keep the record. They are one value of the grammar of call streams and no beginning of them is one, so
whoever receives them knows when they are complete; the outline that they spell holds each field under its key, and the
record can be put together from it (`Record.calls_rebuild`). `Record.ofOutline?` takes a structure by its name and its
fields by their keys, wherever they stand. It fills in nothing: what a constructor would supply by itself has to be
there too.
-/

namespace Profiles

/-! ### Serialization with a budget -/

/-- The calls that an outcome brings, all or some. -/
def Outcome.calls? : Outcome → Option (List Event)
  | .ok (.events calls) => some calls
  | .ok _ => none
  | .error failure => failure.calls?

namespace Record

variable (record : Record) {budget : Nat}

theorem answer_calls_unlimited : record.answer (.calls none) = .ok (.events record.outline.events) := by
  rw [answer, Outline.transcript_unlimited]

theorem answer_calls_of_le (enough : record.outline.events.length ≤ budget) :
    record.answer (.calls (some budget)) = .ok (.events record.outline.events) := by
  rw [answer, Outline.transcript_limited, decide_eq_true enough, List.take_of_length_le enough]

theorem answer_calls_of_lt (short : budget < record.outline.events.length) :
    record.answer (.calls (some budget)) = .error (.exhausted (record.outline.events.take budget)) := by
  rw [answer, Outline.transcript_limited, decide_eq_false (Nat.not_le_of_lt short)]

/-- **Serialization with a budget is an exact beginning of the serialization without one.** Without a budget all calls
of the record are made, those that spell its outline. With one, what is recorded are the first of them, as many as the
budget allows and nothing behind them. The answer is the failure of an exhausted budget exactly when there are more
calls than that; otherwise it is the answer without a budget. -/
theorem answer_calls_limited (budget : Nat) :
    ∃ calls, calls = record.outline.events ∧ record.outline.Spells calls ∧
      record.answer (.calls none) = .ok (.events calls) ∧
      Outcome.calls? (record.answer (.calls (some budget))) =
        some (calls.take (min budget calls.length)) ∧
      ((∃ failure, record.answer (.calls (some budget)) = .error failure ∧
        failure.kind = "serialize" ∧ failure.message = "budget exhausted") ↔ budget < calls.length) ∧
      (calls.length ≤ budget →
        record.answer (.calls (some budget)) = record.answer (.calls none)) := by
  have unlimited := record.answer_calls_unlimited
  refine ⟨record.outline.events, rfl, record.outline.spells_events, unlimited, ?_⟩
  -- a budget of just the number of calls is still enough
  rcases Nat.lt_or_ge budget record.outline.events.length with short | enough
  · have exhausted := record.answer_calls_of_lt short
    refine ⟨?_, ⟨fun _ => short, fun _ => ⟨_, exhausted, rfl, rfl⟩⟩, ?_⟩
    -- the budget is the smaller number, so the beginning is the one that it cuts off
    · rw [exhausted, Nat.min_eq_left (Nat.le_of_lt short)]
      rfl
    · intro enough
      exact absurd short (Nat.not_lt_of_le enough)
  -- room for every call is room for the last of them, and nothing fails
  · have whole := record.answer_calls_of_le enough
    refine ⟨?_, ⟨?_, fun short => absurd short (Nat.not_lt_of_le enough)⟩, fun _ => ?_⟩
    · rw [whole, Nat.min_eq_right enough, List.take_length]
      rfl
    · rintro ⟨failure, failed, -⟩
      rw [whole] at failed
      cases failed
    · rw [whole, unlimited]

end Record

/-! ### Records from outlines -/

namespace Outline

/-- The fields of a structure, which must have the given name. -/
def fields? (name : String) : Outline → Option (List (String × Outline))
  | struct name' fields => if name' = name then some fields else none
  | scalar _ => none

/-- The text that a leaf is, if it is one. -/
def str? : Outline → Option String
  | scalar (.str text) => some text
  | _ => none

/-- The number that a leaf is, if it is one. -/
def int? : Outline → Option Int64
  | scalar (.int value) => some value
  | _ => none

/-- The truth value that a leaf is, if it is one. -/
def bool? : Outline → Option Bool
  | scalar (.bool value) => some value
  | _ => none

end Outline

/-- The person that an outline shows. Whether it is active is read off like everything else. -/
def Person.ofOutline? (outline : Outline) : Option Person := do
  let fields ← outline.fields? "PersonProfile"
  return {
    name := ← (← fields.lookup "name").str?
    age := ← (← fields.lookup "age").int?
    email := ← (← fields.lookup "email").str?
    isActive := ← (← fields.lookup "is_active").bool? }

/-- The group that an outline shows, which need not be the default one. -/
def Group.ofOutline? (outline : Outline) : Option Group := do
  let fields ← outline.fields? "GroupProfile"
  return {
    title := ← (← fields.lookup "title").str?
    memberCount := ← (← fields.lookup "member_count").int? }

/-- The workspace that an outline shows, in whatever region. -/
def Workspace.ofOutline? (outline : Outline) : Option Workspace := do
  let fields ← outline.fields? "WorkspaceProfile"
  return {
    slug := ← (← fields.lookup "slug").str?
    region := ← (← fields.lookup "region").str? }

/-- The fixture that an outline shows: each of its parts is shown under a key of its own. -/
def Fixture.ofOutline? (outline : Outline) : Option Fixture := do
  let fields ← outline.fields? "FixtureSet"
  return {
    person := ← Person.ofOutline? (← fields.lookup "person")
    group := ← Group.ofOutline? (← fields.lookup "group")
    workspace := ← Workspace.ofOutline? (← fields.lookup "workspace") }

/-- **The record that an outline shows**, of the kind that its name says. -/
def Record.ofOutline? (outline : Outline) : Option Record :=
  (Person.ofOutline? outline).map .person <|> (Group.ofOutline? outline).map .group
    <|> (Workspace.ofOutline? outline).map .workspace <|> (Fixture.ofOutline? outline).map .fixture

theorem Person.ofOutline?_outline (person : Person) : ofOutline? person.outline = some person := rfl

theorem Group.ofOutline?_outline (group : Group) : ofOutline? group.outline = some group := rfl

theorem Workspace.ofOutline?_outline (workspace : Workspace) :
    ofOutline? workspace.outline = some workspace := rfl

theorem Fixture.ofOutline?_outline (fixture : Fixture) :
    ofOutline? fixture.outline = some fixture := by
  -- each part is found under its key, with the outline that it has by itself
  show (do return {
    person := ← Person.ofOutline? fixture.person.outline
    group := ← Group.ofOutline? fixture.group.outline
    workspace := ← Workspace.ofOutline? fixture.workspace.outline : Fixture }) = _
  rw [Person.ofOutline?_outline, Group.ofOutline?_outline, Workspace.ofOutline?_outline]
  rfl

namespace Record

/-- A record is put together again from its outline. -/
theorem ofOutline?_outline (record : Record) : ofOutline? record.outline = some record := by
  -- the structures of the four kinds have different names, so only the reader of its own kind takes one
  cases record with
  | person p =>
    show ((Person.ofOutline? p.outline).map person <|> _) = _
    rw [Person.ofOutline?_outline]
    rfl
  | group g =>
    -- the reader of persons refuses the name, and so on down the list
    show (none <|> (Group.ofOutline? g.outline).map group <|> _) = _
    rw [Group.ofOutline?_outline]
    rfl
  | workspace w =>
    show (none <|> none <|> (Workspace.ofOutline? w.outline).map workspace <|> _) = _
    rw [Workspace.ofOutline?_outline]
    rfl
  | fixture f =>
    show (none <|> none <|> none <|> (Fixture.ofOutline? f.outline).map fixture) = _
    rw [Fixture.ofOutline?_outline]
    rfl

/-- **The calls of a serialization are well formed and lose nothing.** They are one value of the grammar, in
which every structure has as many fields as it announces, and spell one outline only; no proper beginning of
them is a value; and the record is what that outline holds under its keys. -/
theorem calls_rebuild (record : Record) :
    ∃ calls outline, record.answer (.calls none) = .ok (.events calls) ∧
      Outline.Spells outline calls ∧ (∀ other, Outline.Spells other calls → other = outline) ∧
      (∀ part, part <+: calls → part ≠ calls →
        (∀ other, ¬ Outline.Spells other part) ∧ Outline.ofEvents? part = none) ∧
      Outline.ofEvents? calls = some outline ∧ ofOutline? outline = some record := by
  have spelled := record.outline.spells_events
  -- the machine accepts what the grammar describes, so the two questions below are about the machine
  have read := Outline.ofEvents?_eq_some_iff.mpr spelled
  refine ⟨record.outline.events, record.outline, record.answer_calls_unlimited, spelled, ?_, ?_, read,
    record.ofOutline?_outline⟩
  -- outlines that are spelled by the same calls are both what the machine makes of them
  · intro other h
    have same := Outline.ofEvents?_eq_some_iff.mpr h
    exact Option.some.inj (same.symm.trans read)
  -- a beginning that is a value would be the whole, since nothing follows a value
  · intro part start proper
    have none_spelled : ∀ other, ¬ Outline.Spells other part :=
      fun other h => proper (h.eq_of_prefix spelled start)
    refine ⟨none_spelled, Option.eq_none_iff_forall_not_mem.mpr fun other accepted => ?_⟩
    exact none_spelled other (Outline.ofEvents?_eq_some_iff.mp accepted)

end Record

end Profiles
