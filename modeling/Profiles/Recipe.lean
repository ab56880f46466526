import Profiles.Json.Basic
import Profiles.Log
import Profiles.Text.Numeral

/-!
# Recipes

A recipe says how a record is built: by which constructor, and from what. The parts of a fixture are given
by recipes too, of the three leaf kinds and each in its place, so a recipe is at most two levels deep. A
fixture can also be asked for as the sample, which is the one recipe that logs.

`Recipe.ofJson?` reads a recipe from a JSON object. A number is given by its decimal numeral. The object may
say by what `Carrier` its texts come; all carriers take any text but one, which takes single characters
only. What is carried does not depend on the carrier. A recipe that brings no text may name a carrier as
well; the name must be a string then and says nothing.
-/

namespace Profiles

/-- What carries a text. -/
inductive Carrier where
  /-- Any text. -/
  | text
  /-- A text of one character. -/
  | char
deriving DecidableEq

namespace Carrier

/-- The carrier of a name. Four names are for texts, which come to the same whatever brings them. -/
def ofName? : String → Option Carrier
  | "str" => some text
  | "string" => some text
  | "box" => some text
  | "cow" => some text
  | "char" => some char
  | _ => none

/-- The text as it arrives. -/
def carry? : Carrier → String → Option String
  | text, s => some s
  | char, s => if s.length = 1 then some s else none

/-- The carrier that is asked for; any text is taken where none is. -/
def select? : Option String → Option Carrier
  | none => some text
  | some name => ofName? name

/-- The name of a carrier in a JSON object, which may give one whatever it is for. -/
def name? (value : Json) : Option (Option String) := value.optional? "via" Json.str?

end Carrier

/-- How a record of a leaf kind is built. -/
inductive LeafRecipe where
  | person (name : String) (age : Int64) (email : String)
  | group
  | workspace (slug : String)
deriving DecidableEq

/-- How a record is built. -/
inductive Recipe where
  | leaf (recipe : LeafRecipe)
  /-- A fixture of a person, the group and a workspace. -/
  | fixture (name : String) (age : Int64) (email : String) (slug : String)
  | sample
deriving DecidableEq

namespace LeafRecipe

/-- The record that is built, by the constructor of its kind. -/
def record : LeafRecipe → Record
  | person name age email => .person (.new name age email)
  | group => .group .new
  | workspace slug => .workspace (.new slug)

/-- The recipe of a leaf kind that a JSON object gives. -/
def ofJson? (value : Json) : Option LeafRecipe := do
  -- a carrier is looked at on every kind, but only a kind that brings a text asks which one it is
  let via ← Carrier.name? value
  match ← value.text? "kind" with
  | "person" =>
    let carrier ← Carrier.select? via
    let name ← carrier.carry? (← value.text? "name")
    let age ← Numeral.readInt64? (← value.text? "age")
    let email ← carrier.carry? (← value.text? "email")
    return person name age email
  | "group" => return group
  | "group_default" => return group
  | "workspace" =>
    let carrier ← Carrier.select? via
    return workspace (← carrier.carry? (← value.text? "slug"))
  | _ => none

end LeafRecipe

namespace Recipe

/-- **Building a record.** -/
def build : Recipe → Logging Record
  | leaf recipe => return recipe.record
  | fixture name age email slug =>
    return .fixture { person := .new name age email, group := .new, workspace := .new slug }
  | sample => Record.fixture <$> Fixture.loadSample

/-- The record that a recipe builds. -/
def record (recipe : Recipe) : Record := (recipe.build.under .silent).1

/-- The events that building a record logs for a subscriber. -/
def log (recipe : Recipe) (subscriber : Subscriber) : List LogEvent :=
  (recipe.build.under subscriber).2

@[simp] theorem record_fixture (name : String) (age : Int64) (email slug : String) :
    (fixture name age email slug).record =
      .fixture { person := .new name age email, group := .new, workspace := .new slug } := rfl

/-- The sample tells of its loading, to whoever wants it. -/
theorem log_sample (subscriber : Subscriber) : sample.log subscriber =
    if subscriber.admits Fixture.sample.loaded then [Fixture.sample.loaded] else [] := by
  simp [log, build]

/-- **Building adds to what was logged earlier**, and takes nothing from it: neither the record nor what is logged
depends on it. -/
theorem run_build (recipe : Recipe) (subscriber : Subscriber) (earlier : List LogEvent) :
    (recipe.build.run subscriber).run earlier = (recipe.record, earlier ++ recipe.log subscriber) := by
  -- what logs nothing leaves the earlier events as they were
  have quiet (record : Record) : ((pure record : Logging Record).run subscriber).run earlier =
      (record, earlier ++ []) := by
    rw [Logging.run_pure, List.append_nil]
  cases recipe with
  | leaf recipe => exact quiet _
  | fixture name age email slug => exact quiet _
  | sample =>
    -- the event is emitted before the record is there, behind what was logged earlier
    show (((), ((Logging.emit Fixture.sample.loaded subscriber).run earlier).2).map
      (fun _ => Record.fixture .sample) id) = _
    rw [Logging.run_emit, log_sample]
    split
    · rfl
    · rw [List.append_nil]
      rfl

/-- **The recipe that a JSON object gives.** -/
def ofJson? (value : Json) : Option Recipe := do
  let _ ← Carrier.name? value
  match ← value.text? "kind" with
  | "fixture" =>
    -- each part must be of the kind that its place is for
    let .person name age email ← LeafRecipe.ofJson? (← value.field? "person") | none
    let .group ← LeafRecipe.ofJson? (← value.field? "group") | none
    let .workspace slug ← LeafRecipe.ofJson? (← value.field? "workspace") | none
    return fixture name age email slug
  | "sample" => return sample
  | _ => return leaf (← LeafRecipe.ofJson? value)

end Recipe

end Profiles
