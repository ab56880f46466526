import Profiles.Proofs.Json.RoundTrip
import Profiles.Proofs.Record.Standard
import Profiles.Query

/-!
# The JSON text of a record, read back

`Record.document` says member by member what the JSON text of a record must hold: the declared fields in
their order and under their names, texts and numbers as they are. `Record.ofDocument?` goes the other way
and builds a record from such a document, through the constructors alone: it looks at what the constructors
fix, and refuses a document that has it otherwise.

The text of every record that a recipe builds is a document in either layout, is read as the document of the
record, and from it the record is built again (`Record.json_text_read_back`). The reader is a strict one, which takes
no raw control character inside a string; so what the record holds of them has been escaped.
-/

namespace Profiles

/-! ### Documents -/

/-- The document of a person, who is active. -/
def Person.document (person : Person) : Json :=
  .obj [("name", .str person.name), ("age", .int person.age.toInt), ("email", .str person.email),
    ("is_active", .bool true)]

/-- The document of a group. -/
def Group.document (group : Group) : Json :=
  .obj [("title", .str group.title), ("member_count", .int group.memberCount.toInt)]

/-- The document of a workspace. -/
def Workspace.document (workspace : Workspace) : Json :=
  .obj [("slug", .str workspace.slug), ("region", .str workspace.region)]

/-- **The document of a record.** -/
def Record.document : Record → Json
  | person p => p.document
  | group g => g.document
  | workspace w => w.document
  | fixture f =>
    .obj [("person", f.person.document), ("group", f.group.document),
      ("workspace", f.workspace.document)]

/-! ### Building from a document -/

/-- The person that a document describes. -/
def Person.ofDocument? : Json → Option Person
  -- an inactive person is none that the constructor makes
  | .obj [("name", .str name), ("age", .int age), ("email", .str email), ("is_active", .bool true)] =>
    return .new name (← Numeral.toInt64? age) email
  | _ => none

/-- The group, if a document describes it. -/
def Group.ofDocument? : Json → Option Group
  | .obj [("title", .str title), ("member_count", .int count)] =>
    -- the constructor takes nothing, so both members have to be what it puts there
    if title = Group.new.title ∧ count = Group.new.memberCount.toInt then some .new else none
  | _ => none

/-- The workspace that a document describes. -/
def Workspace.ofDocument? : Json → Option Workspace
  | .obj [("slug", .str slug), ("region", .str region)] =>
    -- nor does it take a region
    if region = (Workspace.new slug).region then some (.new slug) else none
  | _ => none

/-- The fixture that a document describes. -/
def Fixture.ofDocument? : Json → Option Fixture
  | .obj [("person", person), ("group", group), ("workspace", workspace)] =>
    return { person := ← Person.ofDocument? person, group := ← Group.ofDocument? group,
             workspace := ← Workspace.ofDocument? workspace }
  | _ => none

/-- **The record that a document describes**, of whatever kind. -/
def Record.ofDocument? (document : Json) : Option Record :=
  (Person.ofDocument? document).map .person <|> (Group.ofDocument? document).map .group
    <|> (Workspace.ofDocument? document).map .workspace <|> (Fixture.ofDocument? document).map .fixture

theorem Person.ofDocument?_document {person : Person} (active : person.isActive = true) :
    ofDocument? person.document = some person := by
  show (do return Person.new person.name (← Numeral.toInt64? person.age.toInt) person.email) = _
  rw [Numeral.toInt64?_toInt]
  exact congrArg some (Person.new_eq active)

theorem Group.ofDocument?_document : ofDocument? Group.new.document = some .new := by decide

theorem Workspace.ofDocument?_document {workspace : Workspace}
    (region : workspace.region = defaultRegion) : ofDocument? workspace.document = some workspace := by
  show (if workspace.region = (Workspace.new workspace.slug).region
    then some (Workspace.new workspace.slug) else none) = _
  rw [Workspace.new_eq region, if_pos rfl]

namespace Record

/-- **A standard record is built again from its document.** -/
theorem ofDocument?_document {record : Record} (standard : record.IsStandard) :
    ofDocument? record.document = some record := by
  cases record with
  | person p =>
    rw [ofDocument?, document, Person.ofDocument?_document standard]
    rfl
  | group g =>
    obtain rfl : g = .new := standard
    -- a closed term, since the default group is the only standard one
    decide
  | workspace w =>
    -- neither a person nor a group has a slug
    show (none <|> none <|> (Workspace.ofDocument? w.document).map workspace <|> _) = _
    rw [Workspace.ofDocument?_document standard]
    rfl
  | fixture f =>
    -- the keys of a fixture are those of no leaf, and its parts are built one by one
    obtain ⟨active, group, region⟩ := standard
    obtain ⟨p, g, w⟩ := f
    obtain rfl : g = .new := group
    show (none <|> none <|> none <|> (do
      return { person := ← Person.ofDocument? p.document, group := ← Group.ofDocument? Group.new.document,
               workspace := ← Workspace.ofDocument? w.document : Fixture } : Option Fixture).map fixture) = _
    rw [Person.ofDocument?_document active, Group.ofDocument?_document,
      Workspace.ofDocument?_document region]
    rfl

/-- The document of a standard record is what its outline tells. -/
theorem toJson_outline {record : Record} (standard : record.IsStandard) :
    record.outline.toJson = record.document := by
  cases record with
  | person p =>
    -- the document has `true` where the outline has the field
    have active : p.isActive = true := standard
    simp [outline, document, Person.outline, Person.document, Outline.toJson, Outline.membersOf,
      Outline.str, Outline.int, Outline.bool, Scalar.toJson, active]
  | group g => rfl
  | workspace w => rfl
  | fixture f =>
    -- only the person of a fixture has a field that its document does not read
    have active : f.person.isActive = true := standard.1
    simp [outline, document, Fixture.outline, Person.outline, Person.document, Group.outline,
      Group.document, Workspace.outline, Workspace.document, Outline.toJson, Outline.membersOf,
      Outline.str, Outline.int, Outline.bool, Scalar.toJson, active]

/-- **The JSON text of a record loses nothing.** In either layout the text of a record that a recipe builds
is a document; read back it holds the declared fields in their order with everything that the record
holds, and the constructors build the same record from it. The reader that gives it back is strict: it refuses every
text that has a raw character below the space inside a string. -/
theorem json_text_read_back (recipe : Recipe) (pretty : Bool) :
    ∃ text, recipe.record.answer (.json pretty) = .ok (.text text) ∧ Json.IsDocument text.toList ∧
      Json.read? text = some recipe.record.document ∧
      ofDocument? recipe.record.document = some recipe.record ∧
      ∀ before after c, Json.Scan.BreaksOffQuoted before → c.toNat < 0x20 →
        Json.read? (String.ofList (before ++ c :: after)) = none := by
  have standard := recipe.isStandard_record
  have blanks := Json.Layout.addsBlanks_select pretty
  refine ⟨recipe.record.outline.json pretty, rfl, ?_, ?_, ofDocument?_document standard, ?_⟩
  · rw [Outline.json, String.toList_ofList]
    exact Json.isDocument_render blanks _
  -- the reader gives back what was written, and that is the document of the record
  · rw [Outline.json, Json.read?_render blanks, toJson_outline standard]
  -- reading breaks off at the character, so nothing behind it can help
  · intro before after c quoted control
    exact Json.read?_eq_none_of_control quoted control after

end Record

end Profiles
