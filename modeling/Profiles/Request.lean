import Profiles.Json.Basic
import Profiles.Json.Printer
import Profiles.Json.Reader
import Profiles.Program

/-!
# Requests

One request is one line of JSON, and so is its reply. `Request.ofLine?` reads a request, `Request.reply`
answers it, and `respond` puts both between a line of text and a line of text. A line that is no request is
answered like any question that cannot be understood.
-/

namespace Profiles

/-- What a line can ask for. -/
inductive Request where
  /-- A question about a record that is built for it. -/
  | ask (recipe : Recipe) (query : Query)
  /-- The texts and numbers that records are built from by default. -/
  | constants
  | eq (a b : Recipe)
  /-- What building each record logs. -/
  | log (subscriber : Subscriber) (recipes : List Recipe)
  /-- Records, each built by a thread of its own. -/
  | threads (recipes : List Recipe)
  /-- A program, run on an empty store. -/
  | program (steps : Program)

/-- What is replied to a request. -/
inductive Reply where
  | outcome (result : Outcome)
  /-- Texts under names. -/
  | table (rows : List (String × String))
  | log (events : List (List LogEvent))
  | views (records : List Record)
  | outcomes (results : List Outcome)

/-- The texts and numbers that records are built from by default. -/
def defaults : List (String × String) :=
  [("TITLE", Group.defaultTitle),
    ("MEMBER_COUNT", String.ofList (Numeral.ofInt64 Group.defaultMemberCount)),
    ("REGION", Workspace.defaultRegion),
    ("SAMPLE_PERSON_NAME", Fixture.samplePersonName),
    ("SAMPLE_PERSON_AGE", String.ofList (Numeral.ofInt64 Fixture.samplePersonAge)),
    ("SAMPLE_PERSON_EMAIL", Fixture.samplePersonEmail),
    ("SAMPLE_WORKSPACE_SLUG", Fixture.sampleWorkspaceSlug)]

namespace Request

/-- The recipes in an array that must be a member. -/
def recipes? (value : Json) : Option (List Recipe) := do
  -- one value that is no recipe makes the whole list none
  (← (← value.field? "values").arr?).mapM Recipe.ofJson?

/-- The subscriber that the members of an object describe. -/
def subscriber? (value : Json) : Option Subscriber := do
  let limit ← Subscriber.limit? (← value.text? "level")
  let target ← value.optional? "target" Json.str?
  return { limit, target }

/-- **The request that a JSON object gives.** -/
def ofJson? (value : Json) : Option Request := do
  match ← value.text? "op" with
  | "constants" => return constants
  | "eq" =>
    return eq (← Recipe.ofJson? (← value.field? "a")) (← Recipe.ofJson? (← value.field? "b"))
  | "log" => return log (← subscriber? value) (← recipes? value)
  | "threads" => return threads (← recipes? value)
  -- whatever stands in the list is a step, so a program is never refused for one of its steps
  | "program" => return program ((← (← value.field? "steps").arr?).map Step.ofJson)
  | name =>
    -- any other name is that of a question
    return ask (← Recipe.ofJson? (← value.field? "value")) (← (← Query.ofName? name) value)

/-- The request that a line gives: a JSON document within the limits. -/
def ofLine? (line : String) : Option Request := do
  let value ← Json.read? line
  if value.withinLimits then ofJson? value else none

/-- **The reply to a request.** -/
def reply : Request → Reply
  | ask recipe query => .outcome (recipe.record.answer query)
  | constants => .table defaults
  | eq a b => .outcome (a.record.compare b.record)
  | log subscriber recipes => .log (recipes.map (·.log subscriber))
  | threads recipes => .views (recipes.map Recipe.record)
  | program steps => .outcomes (steps.run ∅).1

end Request

/-- A reply as a JSON value. -/
def Reply.toJson : Reply → Json
  | outcome result => result.toJson
  | table rows => .obj (rows.map fun (name, text) => (name, .str text))
  | log events => .arr (events.map fun logged => .arr (logged.map LogEvent.toJson))
  | views records => .arr (records.map Record.view)
  | outcomes results => .arr (results.map Outcome.toJson)

/-- The reply to a line, which may be no request. -/
def replyTo (line : String) : Reply :=
  match Request.ofLine? line with
  | some request => request.reply
  | none => .outcome (.error .badInput)

/-- **The reply to a line**, as a line. -/
def respond (line : String) : String := (replyTo line).toJson.compact

end Profiles
