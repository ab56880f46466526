/-!
# Outlines

What every rendering of a record goes by: a tree whose leaves are texts, whole numbers and truth values,
and whose inner nodes carry the name of a structure and its fields in their declared order. The renderings
themselves, a stream of calls, a JSON document and a text for debugging, are defined on outlines and know
nothing of records.

The first of them is here. An outline is told as a flat stream of calls: a structure is entered with its name
and the number of its fields, each field is announced by its key and followed by its value, and the structure
is left again. A scalar is one call. `Outline.events` is the stream of an outline, and `Outline.ofEvents?` reads
a stream by the grammar

    value ::= scalar | enter name n (field key value){n} leave

with a machine that takes one call at a time and keeps the open structures on a stack. It accepts a stream
that is one value and nothing more.

A telling has a listener. `Outline.transcript` is what is left of it with a recorder that may have room for a
limited number of calls: the telling stops at the first call that the recorder refuses, however deep in the
outline that happens, and nothing is written down after it. What was written down stays: the recorder is a
state below the refusal.
-/

namespace Profiles

/-- The value of a field that has no fields itself. -/
inductive Scalar where
  | str (text : String)
  | int (value : Int64)
  | bool (value : Bool)
deriving DecidableEq

/-- A value as its structure shows it. -/
inductive Outline where
  | scalar (value : Scalar)
  | struct (name : String) (fields : List (String × Outline))

namespace Outline

/-- A leaf that is a text. -/
def str (text : String) : Outline := scalar (.str text)

/-- A leaf that is a number. -/
def int (value : Int64) : Outline := scalar (.int value)

/-- A leaf that is a truth value. -/
def bool (value : Bool) : Outline := scalar (.bool value)

end Outline

/-! ### Streams of calls -/

/-- A call in the telling of an outline. -/
inductive Event where
  | enter (name : String) (size : Nat)
  | field (key : String)
  | scalar (value : Scalar)
  | leave
deriving DecidableEq

namespace Outline

mutual

/-- **The stream of an outline.** -/
def events : Outline → List Event
  | scalar value => [.scalar value]
  | struct name fields => .enter name fields.length :: (fieldEvents fields ++ [.leave])

/-- The streams of some fields, each after its key. -/
def fieldEvents : List (String × Outline) → List Event
  | [] => []
  | (key, value) :: fields => .field key :: (value.events ++ fieldEvents fields)

end

/-- A structure that is still open: how many of its announced fields are to come, and those it has, the
latest first. -/
structure Open where
  name : String
  missing : Nat
  fields : List (String × Outline)

/-- What a reader of a stream waits for. -/
inductive Builder where
  /-- The value of the field with the given key; the structures further out follow with theirs. -/
  | value (stack : List (Open × String))
  /-- A field of the innermost open structure, or its end. -/
  | member (inner : Open) (stack : List (Open × String))
  /-- Nothing. -/
  | complete (outline : Outline)

namespace Builder

/-- A value is complete: it is the whole, or joins the fields of the structure around it. -/
def close (outline : Outline) : List (Open × String) → Builder
  | [] => complete outline
  | (inner, key) :: stack => member { inner with fields := (key, outline) :: inner.fields } stack

/-- **One call is read.** -/
def step : Builder → Event → Option Builder
  | value stack, .scalar v => some (close (.scalar v) stack)
  | value stack, .enter name size => some (member ⟨name, size, []⟩ stack)
  -- a field is taken only while announced ones are missing, the end only when none is
  | member ⟨name, missing + 1, fields⟩ stack, .field key =>
    some (value ((⟨name, missing, fields⟩, key) :: stack))
  | member ⟨name, 0, fields⟩ stack, .leave => some (close (.struct name fields.reverse) stack)
  | _, _ => none

/-- The outline that has been read. -/
def finish? : Builder → Option Outline
  | complete outline => some outline
  | _ => none

end Builder

/-- The outline that a stream tells, if the stream is one whole value. -/
def ofEvents? (events : List Event) : Option Outline := do
  (← events.foldlM Builder.step (.value [])).finish?

/-! ### Reading what was told -/

mutual

/-- A stream that is read where a value must come leaves that value complete. -/
theorem foldlM_events (stack : List (Open × String)) : (outline : Outline) →
    outline.events.foldlM Builder.step (.value stack) = some (Builder.close outline stack)
  | scalar _ => rfl
  | struct name fields => by
    rw [events, List.foldlM_cons]
    -- the structure has announced as many fields as come, so its end is taken behind the last of them
    simp [Builder.step, foldlM_fieldEvents stack name fields]

/-- The streams of some fields add them to the structure that has announced as many. -/
theorem foldlM_fieldEvents (stack : List (Open × String)) (name : String) :
    (fields done : List (String × Outline)) →
    (fieldEvents fields).foldlM Builder.step (.member ⟨name, fields.length, done⟩ stack)
      = some (.member ⟨name, 0, fields.reverse ++ done⟩ stack)
  | [], _ => rfl
  | (key, value) :: fields, done => by
    -- each value closes where its own structure waits, and the field is then no longer missing
    simp [fieldEvents, Builder.step, Builder.close, foldlM_events, foldlM_fieldEvents stack name fields]

end

/-- **Telling, then reading** gives the outline back. -/
@[simp] theorem ofEvents?_events (outline : Outline) : ofEvents? outline.events = some outline := by
  simp [ofEvents?, foldlM_events, Builder.close, Builder.finish?]

end Outline

/-! ### Transcripts -/

/-- A recorder of calls. -/
structure Recorder where
  /-- How many more calls it takes; `none` where it takes any number. -/
  room : Option Nat
  /-- The calls it has taken, in order. -/
  events : List Event

/-- A recorder has no room for a further call. -/
inductive Exhausted where
  | exhausted

/-- A telling to a recorder. -/
abbrev Telling := ExceptT Exhausted (StateM Recorder)

/-- One call is made: the recorder takes it, or refuses it when it is full. -/
def Recorder.take (event : Event) : Telling Unit := do
  let recorder ← get
  match recorder.room with
  -- nothing is written down here: what the recorder holds is what it held before
  | some 0 => throw .exhausted
  | room => set { room := room.map Nat.pred, events := recorder.events ++ [event] : Recorder }

namespace Outline

mutual

/-- Telling an outline, call by call. -/
def tell : Outline → Telling Unit
  | scalar value => Recorder.take (.scalar value)
  | struct name fields => do
    Recorder.take (.enter name fields.length)
    tellFields fields
    Recorder.take .leave

/-- Telling some fields, each after its key. -/
def tellFields : List (String × Outline) → Telling Unit
  | [] => pure ()
  | (key, value) :: fields => do
    Recorder.take (.field key)
    value.tell
    tellFields fields

end

end Outline

/-- What a telling leaves behind: the calls taken, and whether that was all of them. -/
structure Transcript where
  events : List Event
  complete : Bool
deriving DecidableEq

/-- **The transcript of an outline** told to a recorder with the given room. -/
def Outline.transcript (outline : Outline) (room : Option Nat) : Transcript :=
  match outline.tell.run.run ⟨room, []⟩ with
  | (.ok (), recorder) => ⟨recorder.events, true⟩
  | (.error .exhausted, recorder) => ⟨recorder.events, false⟩

end Profiles
