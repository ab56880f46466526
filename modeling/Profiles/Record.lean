import Profiles.Json.Basic
import Profiles.Outline
import Profiles.Text.Numeral

/-!
# Records

The three leaf records, a person, a group and a workspace, and the fixture that bundles one of each. A
record is built from less than it holds: a new person is active, every group is the default one, and a new
workspace lies in the default region. Records are plain values, so equality is field by field and a copy
is the record itself.

`Record.IsStandard` says that a record is as the constructors build it. `Fixture.exchange?` trades a leaf
record for the part of its kind, which is the one way in which a fixture changes.

A record is shown in two ways. Its `outline`, the name under which it is shown and its fields in their declared order,
is what all renderings go by. Its `view` is how its fields read, in a JSON object that names its kind; numbers stand
there as decimal numerals, so that a reader of any width gets them whole.
-/

namespace Profiles

/-- A person, with an age that may be any number, and a mark for those who are active. -/
structure Person where
  name : String
  age : Int64
  email : String
  isActive : Bool
deriving DecidableEq

/-- A new person is active. -/
def Person.new (name : String) (age : Int64) (email : String) : Person where
  name := name
  age := age
  email := email
  isActive := true

/-- A group, with the number of its members. -/
structure Group where
  title : String
  memberCount : Int64
deriving DecidableEq

namespace Group

/-- The title of every new group. -/
def defaultTitle : String := "core"

/-- The number of members of every new group. -/
def defaultMemberCount : Int64 := 3

/-- The group that all new groups equal. -/
def new : Group where
  title := defaultTitle
  memberCount := defaultMemberCount

end Group

/-- A workspace, known by its slug. -/
structure Workspace where
  slug : String
  region : String
deriving DecidableEq

/-- The region of every new workspace. -/
def Workspace.defaultRegion : String := "eu"

/-- A new workspace lies in the default region. -/
def Workspace.new (slug : String) : Workspace where
  slug := slug
  region := defaultRegion

/-- One record of each leaf kind, bundled. -/
structure Fixture where
  person : Person
  group : Group
  workspace : Workspace
deriving DecidableEq

/-- A record of any of the four kinds. -/
inductive Record where
  | person (person : Person)
  | group (group : Group)
  | workspace (workspace : Workspace)
  | fixture (fixture : Fixture)
deriving DecidableEq

/-- The kinds of records. -/
inductive Kind where
  | person
  | group
  | workspace
  | fixture
deriving DecidableEq

/-- The name of a kind in a JSON object. -/
def Kind.name : Kind → String
  | person => "person"
  | group => "group"
  | workspace => "workspace"
  | fixture => "fixture"

/-- The kind that a record is of. -/
def Record.kind : Record → Kind
  | person _ => .person
  | group _ => .group
  | workspace _ => .workspace
  | fixture _ => .fixture

/-- A record as the constructors build it, and a fixture of such records. -/
def Record.IsStandard : Record → Prop
  | person p => p.isActive = true
  | group g => g = .new
  | workspace w => w.region = Workspace.defaultRegion
  | fixture f =>
    f.person.isActive = true ∧ f.group = .new ∧ f.workspace.region = Workspace.defaultRegion

/-- The three places in a fixture. -/
inductive Part where
  | person
  | group
  | workspace
deriving DecidableEq

/-- The part of a name, which is that of its kind. -/
def Part.ofName? : String → Option Part
  | "person" => some person
  | "group" => some group
  | "workspace" => some workspace
  | _ => none

namespace Fixture

/-- A part of a fixture, as a record of its own. -/
def part (fixture : Fixture) : Part → Record
  | .person => .person fixture.person
  | .group => .group fixture.group
  | .workspace => .workspace fixture.workspace

/-- **Trading a leaf record for the part of its kind**: the fixture with the record in it, and the part
that was there. A fixture is no part and is not traded. -/
def exchange? (fixture : Fixture) : Record → Option (Fixture × Record)
  | .person p => some ({ fixture with person := p }, .person fixture.person)
  | .group g => some ({ fixture with group := g }, .group fixture.group)
  | .workspace w => some ({ fixture with workspace := w }, .workspace fixture.workspace)
  | .fixture _ => none

/-- The name of the person in the sample. -/
def samplePersonName : String := "Alice"

/-- The age of the person in the sample. -/
def samplePersonAge : Int64 := 30

/-- The email of the person in the sample. -/
def samplePersonEmail : String := "alice@example.com"

/-- The slug of the workspace in the sample. -/
def sampleWorkspaceSlug : String := "acme-prod"

/-- The sample, built from the names and numbers above. -/
def sample : Fixture where
  person := .new samplePersonName samplePersonAge samplePersonEmail
  group := .new
  workspace := .new sampleWorkspaceSlug

end Fixture

/-! ### Outlines of records -/

/-- What a person shows: all four fields, with the mark for active ones last. -/
def Person.outline (person : Person) : Outline :=
  .struct "PersonProfile"
    [("name", .str person.name), ("age", .int person.age), ("email", .str person.email),
      ("is_active", .bool person.isActive)]

/-- What a group shows. -/
def Group.outline (group : Group) : Outline :=
  .struct "GroupProfile" [("title", .str group.title), ("member_count", .int group.memberCount)]

/-- What a workspace shows. -/
def Workspace.outline (workspace : Workspace) : Outline :=
  .struct "WorkspaceProfile" [("slug", .str workspace.slug), ("region", .str workspace.region)]

/-- What a fixture shows: its parts, whole. -/
def Fixture.outline (fixture : Fixture) : Outline :=
  .struct "FixtureSet"
    [("person", fixture.person.outline), ("group", fixture.group.outline),
      ("workspace", fixture.workspace.outline)]

/-- What a record shows of itself. -/
def Record.outline : Record → Outline
  | person p => p.outline
  | group g => g.outline
  | workspace w => w.outline
  | fixture f => f.outline

/-! ### Views -/

/-- A whole number as the numeral of its value. -/
def Json.numeral (value : Int64) : Json := .str (String.ofList (Numeral.ofInt64 value))

/-- What the fields of a person read. -/
def Person.view (person : Person) : Json :=
  .obj [("kind", .str Kind.person.name), ("name", .str person.name), ("age", .numeral person.age),
    ("email", .str person.email), ("is_active", .bool person.isActive)]

/-- What the fields of a group read. -/
def Group.view (group : Group) : Json :=
  .obj [("kind", .str Kind.group.name), ("title", .str group.title),
    ("member_count", .numeral group.memberCount)]

/-- What the fields of a workspace read. -/
def Workspace.view (workspace : Workspace) : Json :=
  .obj [("kind", .str Kind.workspace.name), ("slug", .str workspace.slug),
    ("region", .str workspace.region)]

/-- What the fields of a fixture read: the views of its parts. -/
def Fixture.view (fixture : Fixture) : Json :=
  .obj [("kind", .str Kind.fixture.name), ("person", fixture.person.view),
    ("group", fixture.group.view), ("workspace", fixture.workspace.view)]

/-- What the fields of a record read. -/
def Record.view : Record → Json
  | person p => p.view
  | group g => g.view
  | workspace w => w.view
  | fixture f => f.view

end Profiles
