import Profiles.Outline

/-!
# Call streams

What can be said of the stream of an outline on its own, and of a telling of it.

The grammar that `Outline.ofEvents?` reads by is a relation between outlines and streams:

    value       ::= scalar | enter name n fields(n) leave
    fields(0)   ::= nothing
    fields(n+1) ::= field key value fields(n)

A structure announces how many fields it has, and as many must come before it is left, at every level. The grammar
tells the stream of an outline and no other (`Outline.spells_iff`), so it can be read in one way only. The machine
accepts what the grammar derives and nothing else (`Outline.ofEvents?_eq_some_iff`): each of its states is the memory
of one stream, and a call that it takes is added to that stream. Since the machine takes no call behind a whole value,
no value is the beginning of another (`Outline.Spells.eq_of_prefix`).

The telling of an outline makes the calls of its stream, one after the other (`Outline.tell_eq_forM`), whatever the
recorder does with them. So what a recorder holds in the end is a matter of the flat stream alone, and it is enough to
follow the recorder along a list of calls. One that takes any number of calls has taken all of them
(`Outline.transcript_unlimited`). Of one with limited room each call takes one place, and the first call that finds
none ends the telling (`Outline.transcript_limited`).
-/

namespace Profiles

/-! ### The grammar -/

namespace Outline

mutual

/-- **A stream that spells an outline**, by the grammar. -/
inductive Spells : Outline → List Event → Prop where
  | scalar (value : Scalar) : Spells (scalar value) [.scalar value]
  | struct (name : String) {size : Nat} {fields : List (String × Outline)} {calls : List Event}
      (members : SpellsFields size fields calls) :
      Spells (struct name fields) (.enter name size :: (calls ++ [.leave]))

/-- A stream that spells the given number of fields. -/
inductive SpellsFields : Nat → List (String × Outline) → List Event → Prop where
  | none : SpellsFields 0 [] []
  | more (key : String) {size : Nat} {value : Outline} {fields : List (String × Outline)}
      {calls rest : List Event} (first : Spells value calls)
      (others : SpellsFields size fields rest) :
      SpellsFields (size + 1) ((key, value) :: fields) (.field key :: (calls ++ rest))

end

/-! ### The stream of an outline -/

mutual

theorem spells_events : (outline : Outline) → outline.Spells outline.events
  | scalar value => .scalar value
  | struct name fields => by
    rw [events]
    exact .struct name (spellsFields_fieldEvents fields)

theorem spellsFields_fieldEvents : (fields : List (String × Outline)) →
    SpellsFields fields.length fields (fieldEvents fields)
  | [] => .none
  | (key, value) :: fields => by
    rw [fieldEvents]
    exact .more key (spells_events value) (spellsFields_fieldEvents fields)

end

mutual

/-- An outline is spelled by its own stream only. -/
theorem Spells.eq_events {outline : Outline} {calls : List Event} :
    outline.Spells calls → calls = outline.events
  | .scalar value => rfl
  | .struct name members => by
    obtain ⟨announced, told⟩ := members.eq_fieldEvents
    -- the number that was announced is that of the fields, so it is the one in the stream of the outline
    rw [events, announced, told]

/-- As many fields are spelled as were announced. -/
theorem SpellsFields.eq_fieldEvents {size : Nat} {fields : List (String × Outline)}
    {calls : List Event} :
    SpellsFields size fields calls → size = fields.length ∧ calls = fieldEvents fields
  | .none => ⟨rfl, rfl⟩
  | .more key first others => by
    -- each field brings its key and one value, and is one of those announced
    obtain ⟨announced, told⟩ := others.eq_fieldEvents
    rw [fieldEvents, ← first.eq_events, ← told, announced]
    exact ⟨rfl, rfl⟩

end

/-- **The grammar derives the stream of an outline, and no other for it.** -/
theorem spells_iff {outline : Outline} {calls : List Event} :
    outline.Spells calls ↔ calls = outline.events :=
  ⟨Spells.eq_events, fun h => h ▸ outline.spells_events⟩

/-! ### What the machine accepts -/

theorem fieldEvents_append (fields others : List (String × Outline)) :
    fieldEvents (fields ++ others) = fieldEvents fields ++ fieldEvents others := by
  induction fields with
  | nil => rfl
  | cons field fields ih =>
    obtain ⟨key, value⟩ := field
    rw [List.cons_append, fieldEvents, fieldEvents, ih, List.cons_append, List.append_assoc]

/-- The calls with which a structure was entered, when the given number of fields was announced, and those
of the fields that it has by now. -/
def Open.told (inner : Open) (size : Nat) : List Event :=
  .enter inner.name size :: fieldEvents inner.fields.reverse

namespace Builder

/-- The calls that have opened some structures, from the outermost on. In each the field that is being read
counts as announced. -/
def opened : List (Open × String) → List Event
  | [] => []
  | (inner, key) :: stack =>
    opened stack ++ (inner.told (inner.missing + inner.fields.length + 1) ++ [.field key])

/-- **The calls that a machine has taken**, read off its state. -/
def told : Builder → List Event
  | value stack => opened stack
  | member inner stack => opened stack ++ inner.told (inner.missing + inner.fields.length)
  | complete outline => outline.events

/-- When a value is complete, its own calls are behind those that opened the structures around it. -/
theorem told_close (outline : Outline) (stack : List (Open × String)) :
    (close outline stack).told = opened stack ++ outline.events := by
  -- either nothing is open, or the value is the field that the innermost structure was waiting for
  cases stack with
  | nil => rfl
  | cons top stack =>
    obtain ⟨inner, key⟩ := top
    simp [close, told, opened, Open.told, fieldEvents_append, fieldEvents, Nat.add_assoc]

/-- A call that is taken is added to those taken before. -/
theorem told_step {builder builder' : Builder} {call : Event} (h : builder.step call = some builder') :
    builder'.told = builder.told ++ [call] := by
  cases builder with
  -- a value must come, which a scalar is; a structure opens and has no field yet
  | value stack =>
    cases call with
    | scalar v =>
      obtain rfl := Option.some.inj h
      exact told_close (.scalar v) stack
    | enter name size =>
      obtain rfl := Option.some.inj h
      rfl
    | field key | leave => cases h
  | member inner stack =>
    obtain ⟨name, missing, fields⟩ := inner
    cases missing with
    | zero =>
      -- all announced fields have come, so only the end is taken
      cases call with
      | leave =>
        obtain rfl := Option.some.inj h
        rw [told_close, told, events, Open.told, List.length_reverse, Nat.zero_add, List.append_assoc,
          List.cons_append]
      | scalar v | enter inside size | field key => cases h
    | succ missing =>
      -- a field is still missing; the one that begins now is counted by `opened`
      cases call with
      | field key =>
        obtain rfl := Option.some.inj h
        rw [told, opened, told, List.append_assoc, Nat.add_right_comm]
        rfl
      | scalar v | enter inside size | leave => cases h
  -- nothing is taken any more
  | complete outline => cases h

theorem told_foldlM (calls : List Event) {builder builder' : Builder}
    (h : calls.foldlM step builder = some builder') : builder'.told = builder.told ++ calls := by
  induction calls generalizing builder with
  -- the state after each call holds the calls up to it
  | nil =>
    obtain rfl : builder = builder' := Option.some.inj h
    exact (List.append_nil _).symm
  | cons call calls ih =>
    rw [List.foldlM_cons] at h
    obtain ⟨next, taken, rest⟩ := Option.bind_eq_some_iff.mp h
    rw [ih rest, told_step taken, List.append_assoc, List.singleton_append]

end Builder

/-- **The machine accepts the streams of the grammar**, and gives the outline that is spelled. -/
theorem ofEvents?_eq_some_iff {outline : Outline} {calls : List Event} :
    ofEvents? calls = some outline ↔ outline.Spells calls := by
  -- the grammar derives just the stream of the outline, so the reading has to be of that stream
  rw [spells_iff]
  refine ⟨fun h => ?_, fun h => h ▸ ofEvents?_events outline⟩
  obtain ⟨builder, read, finished⟩ := Option.bind_eq_some_iff.mp h
  have told := Builder.told_foldlM calls read
  cases builder with
  -- a machine that still waits for something has read no value
  | value stack | member inner stack => cases finished
  | complete outline' =>
    obtain rfl : outline' = outline := Option.some.inj finished
    exact told.symm

/-- **No value is the beginning of another.** -/
theorem Spells.eq_of_prefix {outline outline' : Outline} {calls calls' : List Event}
    (h : outline.Spells calls) (h' : outline'.Spells calls') (start : calls <+: calls') :
    calls = calls' := by
  obtain ⟨rest, rfl⟩ := start
  -- either nothing follows the first value, or the machine has to take a call behind it
  cases rest with
  | nil => exact (List.append_nil calls).symm
  | cons call rest =>
    -- the machine is complete after the first value, and takes no call then
    have accepted := ofEvents?_eq_some_iff.mpr h'
    rw [h.eq_events, ofEvents?, List.foldlM_append, foldlM_events] at accepted
    cases accepted

end Outline

/-! ### Telling an outline -/

namespace Outline

mutual

/-- **Telling an outline makes the calls of its stream.** -/
theorem tell_eq_forM : (outline : Outline) → outline.tell = forM outline.events Recorder.take
  | scalar value => by simp [tell, events]
  | struct name fields => by simp [tell, events, List.forM_append, tellFields_eq_forM fields]

/-- Telling some fields makes the calls of their streams. -/
theorem tellFields_eq_forM : (fields : List (String × Outline)) →
    tellFields fields = forM (fieldEvents fields) Recorder.take
  | [] => rfl
  | (key, value) :: fields => by
    simp [tellFields, fieldEvents, List.forM_append, tell_eq_forM value, tellFields_eq_forM fields]

end

end Outline

/-- A recorder without a limit takes every call. -/
theorem Recorder.run_forM_take (calls taken : List Event) :
    (forM calls take : Telling PUnit).run.run ⟨none, taken⟩ = (.ok (), ⟨none, taken ++ calls⟩) := by
  induction calls generalizing taken with
  | nil => simp; rfl
  | cons call calls ih =>
    -- the call is taken, and the others are told to a recorder that holds one more
    have next := ih (taken ++ [call])
    rw [List.append_assoc, List.singleton_append] at next
    rw [List.forM_cons, ← next]
    rfl

/-- **A transcript without a limit is the whole stream.** -/
theorem Outline.transcript_unlimited (outline : Outline) :
    outline.transcript none = ⟨outline.events, true⟩ := by
  rw [transcript, tell_eq_forM, Recorder.run_forM_take, List.nil_append]

/-! ### Limited room -/

namespace Recorder

/-- A call that finds room takes one place of it, and the telling goes on. -/
theorem run_forM_take_cons (call : Event) (calls taken : List Event) (room : Nat) :
    (forM (call :: calls) take : Telling PUnit).run.run ⟨some (room + 1), taken⟩ =
      (forM calls take : Telling PUnit).run.run ⟨some room, taken ++ [call]⟩ := by
  rw [List.forM_cons]
  rfl

/-- A recorder with room for all calls takes them all. -/
theorem run_forM_take_of_le (calls taken : List Event) (room : Nat) (enough : calls.length ≤ room) :
    (forM calls take : Telling PUnit).run.run ⟨some room, taken⟩ =
      (.ok (), ⟨some (room - calls.length), taken ++ calls⟩) := by
  induction calls generalizing taken room with
  | nil =>
    rw [List.append_nil]
    rfl
  -- room for at least one call means that the next one is taken, and the others fit in what is left
  | cons call calls ih =>
    obtain ⟨room, rfl⟩ : ∃ less, room = less + 1 := Nat.exists_eq_add_one.mpr (Nat.zero_lt_of_lt enough)
    have fewer : calls.length ≤ room := Nat.le_of_succ_le_succ enough
    rw [run_forM_take_cons, ih _ _ fewer, List.append_assoc, List.singleton_append, List.length_cons,
      Nat.add_sub_add_right]

/-- A recorder with less room takes the first calls, as many as it has room for, and refuses the next. -/
theorem run_forM_take_of_lt (calls taken : List Event) (room : Nat) (short : room < calls.length) :
    (forM calls take : Telling PUnit).run.run ⟨some room, taken⟩ =
      (.error .exhausted, ⟨some 0, taken ++ calls.take room⟩) := by
  induction calls generalizing taken room with
  | nil => cases short
  | cons call calls ih =>
    cases room with
    | zero =>
      -- the call is refused, and those behind it are not made
      rw [List.forM_cons, List.take_zero, List.append_nil]
      rfl
    -- the next call is taken, and it is one of those among the others that does not fit
    | succ room =>
      have shorter : room < calls.length := Nat.lt_of_succ_lt_succ short
      rw [run_forM_take_cons, ih _ _ shorter, List.append_assoc, List.singleton_append,
        List.take_succ_cons]

end Recorder

/-- **A limited transcript is a beginning of the stream**, and complete when there is room for all of it. -/
theorem Outline.transcript_limited (outline : Outline) (room : Nat) :
    outline.transcript (some room) =
      ⟨outline.events.take room, decide (outline.events.length ≤ room)⟩ := by
  rw [transcript, tell_eq_forM]
  by_cases enough : outline.events.length ≤ room
  · rw [Recorder.run_forM_take_of_le _ _ _ enough, List.take_of_length_le enough, decide_eq_true enough]
    rfl
  -- the refusal is all that is seen of the calls that were not made
  · rw [Recorder.run_forM_take_of_lt _ _ _ (Nat.lt_of_not_le enough), decide_eq_false enough]
    rfl

end Profiles
