import Profiles.Recipe
import Profiles.Record

/-!
# Records as the constructors build them

`Record.IsStandard` is the invariant of everything that is built and moved about: a person is active, a
group is the default one, a workspace lies in the default region. What a recipe builds is standard
(`Recipe.isStandard_record`), and a standard record is built by the recipe that can be read off it
(`Record.IsStandard.record_recipe`): `Record.recipe` takes from the record what its constructors were given.

`Recipe.toJson` writes a recipe as the expression that `Recipe.ofJson?` reads, with every text carried
as it is.
-/

namespace Profiles

namespace Record

/-- The recipe of a record: its constructors, and what they were given. The sample is spelled out. -/
def recipe : Record → Recipe
  | person p => .leaf (.person p.name p.age p.email)
  | group _ => .leaf .group
  | workspace w => .leaf (.workspace w.slug)
  | fixture f => .fixture f.person.name f.person.age f.person.email f.workspace.slug

theorem recipe_ne_sample (record : Record) : record.recipe ≠ .sample := by
  cases record <;> exact Recipe.noConfusion

end Record

/-- **What a recipe builds is standard.** -/
theorem Recipe.isStandard_record (recipe : Recipe) : recipe.record.IsStandard := by
  -- the constructors put the default where a field is not given, which is all that is asked
  cases recipe with
  | leaf recipe => cases recipe <;> rfl
  | fixture name age email slug => exact ⟨rfl, rfl, rfl⟩
  | sample => exact ⟨rfl, rfl, rfl⟩

theorem Person.new_eq {person : Person} (active : person.isActive = true) :
    Person.new person.name person.age person.email = person := by
  obtain ⟨name, age, email, isActive⟩ := person
  rw [Person.new, ← active]

theorem Workspace.new_eq {workspace : Workspace} (region : workspace.region = defaultRegion) :
    Workspace.new workspace.slug = workspace := by
  obtain ⟨slug, place⟩ := workspace
  rw [Workspace.new, ← region]

namespace Record

/-- **A standard record is built by its recipe.** -/
theorem IsStandard.record_recipe {record : Record} (standard : record.IsStandard) :
    record.recipe.record = record := by
  -- a constructor is given back the fields that are free, and supplies the others itself
  cases record with
  | person p =>
    show Record.person (.new p.name p.age p.email) = _
    rw [Person.new_eq standard]
  | group g =>
    show Record.group .new = _
    rw [standard]
  | workspace w =>
    show Record.workspace (.new w.slug) = _
    rw [Workspace.new_eq standard]
  | fixture f =>
    obtain ⟨active, group, region⟩ := standard
    rw [recipe, Recipe.record_fixture, Person.new_eq active, Workspace.new_eq region, ← group]

end Record

/-! ### Parts -/

namespace Fixture

/-- The parts of a standard fixture are standard. -/
theorem isStandard_part {fixture : Fixture} (standard : (Record.fixture fixture).IsStandard)
    (part : Part) : (fixture.part part).IsStandard := by
  obtain ⟨active, group, region⟩ := standard
  cases part with
  | person => exact active
  | group => exact group
  | workspace => exact region

/-- Trading a standard record for a part of a standard fixture leaves both standard. -/
theorem isStandard_exchange {fixture fixture' : Fixture} {record record' : Record}
    (h : fixture.exchange? record = some (fixture', record'))
    (whole : (Record.fixture fixture).IsStandard) (part : record.IsStandard) :
    (Record.fixture fixture').IsStandard ∧ record'.IsStandard := by
  obtain ⟨active, group, region⟩ := whole
  -- the record and the part it is traded for are of one kind, and the other two parts stay
  cases record with
  | person p =>
    obtain ⟨rfl, rfl⟩ := Prod.mk.inj (Option.some.inj h)
    exact ⟨⟨part, group, region⟩, active⟩
  | group g =>
    obtain ⟨rfl, rfl⟩ := Prod.mk.inj (Option.some.inj h)
    exact ⟨⟨active, part, region⟩, group⟩
  | workspace w =>
    obtain ⟨rfl, rfl⟩ := Prod.mk.inj (Option.some.inj h)
    exact ⟨⟨active, group, part⟩, region⟩
  | fixture f => exact absurd h (by simp [exchange?])

end Fixture

/-! ### Expressions -/

/-- The expression of a leaf recipe. -/
def LeafRecipe.toJson : LeafRecipe → Json
  | person name age email =>
    .obj [("kind", .str "person"), ("name", .str name), ("age", .numeral age), ("email", .str email)]
  | group => .obj [("kind", .str "group")]
  | workspace slug => .obj [("kind", .str "workspace"), ("slug", .str slug)]

/-- **The expression of a recipe.** -/
def Recipe.toJson : Recipe → Json
  | leaf recipe => recipe.toJson
  | fixture name age email slug =>
    .obj [("kind", .str "fixture"), ("person", (LeafRecipe.person name age email).toJson),
      ("group", LeafRecipe.group.toJson), ("workspace", (LeafRecipe.workspace slug).toJson)]
  | sample => .obj [("kind", .str "sample")]

theorem LeafRecipe.ofJson?_toJson (recipe : LeafRecipe) : ofJson? recipe.toJson = some recipe := by
  cases recipe with
  | person name age email =>
    simp [ofJson?, toJson, Carrier.name?, Carrier.select?, Carrier.carry?, Json.optional?, Json.text?,
      Json.field?, Json.members, Json.str?, Json.numeral, List.lookup_cons]
  | group => rfl
  | workspace slug => rfl

/-- **The expression of a recipe gives the recipe back.** -/
theorem Recipe.ofJson?_toJson (recipe : Recipe) : ofJson? recipe.toJson = some recipe := by
  cases recipe with
  | leaf recipe =>
    -- an expression of a leaf is an expression of a record of that kind
    have read := recipe.ofJson?_toJson
    cases recipe with
    | person name age email =>
      show (do return leaf (← LeafRecipe.ofJson? (LeafRecipe.person name age email).toJson)) = _
      rw [read]
      rfl
    | group => rfl
    | workspace slug => rfl
  | fixture name age email slug =>
    -- the parts are read as expressions of their own
    have person := (LeafRecipe.person name age email).ofJson?_toJson
    have group := LeafRecipe.group.ofJson?_toJson
    have workspace := (LeafRecipe.workspace slug).ofJson?_toJson
    simp [ofJson?, toJson, Carrier.name?, Json.optional?, Json.text?, Json.field?, Json.members,
      Json.str?, List.lookup_cons, person, group, workspace]
  | sample => rfl

end Profiles
