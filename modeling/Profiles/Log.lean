import Profiles.Json.Basic
import Profiles.Record

/-!
# Logging

What a program tells about its own running. An event has a level, a target and named fields; a `Subscriber`
says up to which level, and from which target, events are wanted. Work that may log is an action in
`Logging`, which reads the subscriber and collects the events that it lets through; what the action
returns does not depend on either.

One action logs: `Fixture.loadSample`, which builds the sample fixture.
-/

namespace Profiles

/-- How much an event matters, the gravest first. -/
inductive Level where
  | error
  | warn
  | info
  | debug
  | trace
deriving DecidableEq

namespace Level

/-- The place of a level, the gravest first. -/
def rank : Level → Nat
  | error => 0
  | warn => 1
  | info => 2
  | debug => 3
  | trace => 4

/-- The name of a level where an event is shown. -/
def name : Level → String
  | error => "ERROR"
  | warn => "WARN"
  | info => "INFO"
  | debug => "DEBUG"
  | trace => "TRACE"

end Level

/-- What is told at one point: how much it matters, where it comes from, and named texts, in the order in which they
were given. -/
structure LogEvent where
  level : Level
  target : String
  fields : List (String × String)
deriving DecidableEq

/-- Whom the events are collected for. -/
structure Subscriber where
  /-- The least grave level that is let through; `none` lets nothing through. -/
  limit : Option Level
  /-- The only target that is let through; `none` lets all through. -/
  target : Option String
deriving DecidableEq

namespace Subscriber

/-- The levels that a word lets through: those up to the one that it names, or none of them. -/
def limit? : String → Option (Option Level)
  | "off" => some none
  | "error" => some (some .error)
  | "warn" => some (some .warn)
  | "info" => some (some .info)
  | "debug" => some (some .debug)
  | "trace" => some (some .trace)
  | _ => none

/-- Whether an event is let through. -/
def admits (subscriber : Subscriber) (event : LogEvent) : Bool :=
  -- the graver an event is, the smaller is the rank of its level
  subscriber.limit.any (fun limit => event.level.rank ≤ limit.rank)
    && subscriber.target.all (· = event.target)

/-- A subscriber that lets nothing through. -/
def silent : Subscriber where
  limit := none
  target := none

end Subscriber

/-- Work that may log. -/
abbrev Logging := ReaderT Subscriber (StateM (List LogEvent))

namespace Logging

/-- An event is logged, if the subscriber wants it. -/
def emit (event : LogEvent) : Logging Unit := do
  if (← read).admits event then modify (· ++ [event])

/-- What the work returns, and the events it logs. -/
def under {α : Type} (work : Logging α) (subscriber : Subscriber) : α × List LogEvent :=
  (work.run subscriber).run []

@[simp] theorem under_map {α β : Type} (f : α → β) (work : Logging α) (subscriber : Subscriber) :
    (f <$> work).under subscriber = ((work.under subscriber).map f id) := rfl

theorem run_pure {α : Type} (value : α) (subscriber : Subscriber) (earlier : List LogEvent) :
    ((pure value : Logging α).run subscriber).run earlier = (value, earlier) := rfl

/-- Work that comes behind other work has the same subscriber, and goes on with what has been logged. -/
theorem run_bind {α β : Type} (work : Logging α) (next : α → Logging β) (subscriber : Subscriber)
    (earlier : List LogEvent) :
    ((work >>= next).run subscriber).run earlier =
      ((next ((work.run subscriber).run earlier).1).run subscriber).run ((work.run subscriber).run earlier).2 :=
  rfl

/-- Logging an event adds it to those before, if the subscriber wants it, and does nothing else. -/
@[simp] theorem run_emit (event : LogEvent) (subscriber : Subscriber) (before : List LogEvent) :
    (emit event subscriber).run before =
      ((), if subscriber.admits event then before ++ [event] else before) := by
  -- whether the subscriber wants the event is decided before anything is added
  show (if subscriber.admits event then modify (· ++ [event]) else pure () : Logging Unit)
    subscriber before = _
  split <;> rfl

end Logging

namespace Fixture

/-- The event that tells of a sample. -/
def loaded (fixture : Fixture) : LogEvent where
  level := .debug
  target := "sample_core::fixture"
  fields := [("message", "loaded sample fixture set"), ("workspace", fixture.workspace.slug),
    ("person", fixture.person.name)]

/-- **The sample fixture** is built, and its loading is logged. -/
def loadSample : Logging Fixture := do
  Logging.emit sample.loaded
  return sample

/-- The sample does not depend on who listens, and its loading is told to whoever wants it. -/
@[simp] theorem under_loadSample (subscriber : Subscriber) :
    loadSample.under subscriber =
      (sample, if subscriber.admits sample.loaded then [sample.loaded] else []) := by
  -- both components are seen: what is returned, and what has been logged
  show (((), ((Logging.emit sample.loaded subscriber).run []).2).map (fun _ => sample) id) = _
  rw [Logging.run_emit]
  rfl

end Fixture

/-- An event as a JSON value: its fields are pairs, in order. -/
def LogEvent.toJson (event : LogEvent) : Json :=
  .obj [("level", .str event.level.name), ("target", .str event.target),
    ("fields", .arr (event.fields.map fun (name, value) => .arr [.str name, .str value]))]

end Profiles
