import Profiles.Proofs.Program.Contexts
import Profiles.Proofs.Program.Dump
import Profiles.Proofs.Text.Signed

/-!
# Expressions and what they build

An expression is a JSON object of one of six forms. `Json.Spells` is their grammar: it says of each form which
members it must have, of what type, and which record it builds. What a record has besides its arguments is the same
for all. A fixture is spelled by expressions of its own for its parts, and each of them must build a record of the
kind that belongs there; so there is no fixture in a fixture.

The grammar is what is accepted, and what is built is what it says (`Json.answered_by_grammar`). It asks only for
the members that it needs, so it can be held against any JSON value; a name that comes twice counts with its last
member. An expression may say how its texts are carried. One carrier takes single characters only, but none of them
changes what it carries.

An age comes as a numeral, and is shown as one (`Person.age_read_and_printed`).
-/

namespace Profiles

namespace Json

/-! ### The grammar -/

/-- **How the texts of an expression are carried**: in no way that is named, whole, or as single characters. -/
inductive Carried (value : Json) (texts : List String) : Prop where
  | unnamed (absent : value.field? "via" = none)
  | whole {name : String} (named : value.field? "via" = some (.str name))
      (known : name ∈ ["str", "string", "box", "cow"])
  | single (named : value.field? "via" = some (.str "char"))
      (scalars : ∀ text ∈ texts, ∃ c, text.toList = [c])

/-- Where there is no text to carry, any name may be given for the way. -/
def NamesAnyCarrier (value : Json) : Prop :=
  ∀ via, value.field? "via" = some via → ∃ name, via = .str name

/-- **The expressions of a record.** -/
inductive Spells : Json → Record → Prop where
  | person {value : Json} {name numeral email : String} {age : Int64}
      (kind : value.field? "kind" = some (.str "person"))
      (name_eq : value.field? "name" = some (.str name))
      (age_eq : value.field? "age" = some (.str numeral))
      (denotes : Numeral.Denotes numeral.toList age.toInt)
      (email_eq : value.field? "email" = some (.str email))
      (carried : value.Carried [name, email]) :
      Spells value (.person { name := name, age := age, email := email, isActive := true })
  | group {value : Json} {word : String}
      (kind : value.field? "kind" = some (.str word)) (known : word ∈ ["group", "group_default"])
      (carrier : value.NamesAnyCarrier) :
      Spells value (.group { title := "core", memberCount := 3 })
  | workspace {value : Json} {slug : String}
      (kind : value.field? "kind" = some (.str "workspace"))
      (slug_eq : value.field? "slug" = some (.str slug)) (carried : value.Carried [slug]) :
      Spells value (.workspace { slug := slug, region := "eu" })
  | fixture {value person group workspace : Json} {p : Person} {g : Group} {w : Workspace}
      (kind : value.field? "kind" = some (.str "fixture"))
      (person_eq : value.field? "person" = some person) (first : Spells person (.person p))
      (group_eq : value.field? "group" = some group) (second : Spells group (.group g))
      (workspace_eq : value.field? "workspace" = some workspace)
      (third : Spells workspace (.workspace w)) (carrier : value.NamesAnyCarrier) :
      Spells value (.fixture { person := p, group := g, workspace := w })
  | sample {value : Json} (kind : value.field? "kind" = some (.str "sample"))
      (carrier : value.NamesAnyCarrier) :
      Spells value (.fixture
        { person := { name := "Alice", age := 30, email := "alice@example.com", isActive := true },
          group := { title := "core", memberCount := 3 },
          workspace := { slug := "acme-prod", region := "eu" } })

variable {value : Json}

/-! ### Reading members -/

theorem text?_eq_some_iff {name text : String} :
    value.text? name = some text ↔ value.field? name = some (.str text) := by
  -- both sides look at the member of that name, which may be missing or not be a text
  rw [text?]
  cases value.field? name with
  | none => exact iff_of_false (Option.some_ne_none text).symm (Option.some_ne_none _).symm
  | some member =>
    show member.str? = some text ↔ some member = some (.str text)
    cases member <;> simp [str?]

end Json

namespace Carrier

variable {value : Json}

theorem name?_eq_some_iff {via : Option String} :
    name? value = some via ↔ value.field? "via" = via.map Json.str := by
  rw [name?, Json.optional?]
  cases value.field? "via" with
  | none => cases via <;> simp
  | some member =>
    cases member <;> cases via <;> simp [Json.str?]

theorem exists_name?_iff : (∃ via, name? value = some via) ↔ value.NamesAnyCarrier := by
  constructor
  · rintro ⟨via, named⟩ member given
    rw [name?_eq_some_iff.mp named] at given
    obtain ⟨name, -, rfl⟩ := Option.map_eq_some_iff.mp given
    exact ⟨name, rfl⟩
  · intro names
    cases given : value.field? "via" with
    | none => exact ⟨none, name?_eq_some_iff.mpr given⟩
    | some member =>
      obtain ⟨name, rfl⟩ := names member given
      exact ⟨some name, name?_eq_some_iff.mpr given⟩

/-- Single characters are what the narrow carrier takes. -/
theorem carry?_char_iff {text : String} : char.carry? text = some text ↔ ∃ c, text.toList = [c] := by
  rw [carry?, ← String.length_toList, ← List.length_eq_one_iff]
  by_cases single : text.toList.length = 1
  · simp [single]
  · simp [single]

/-- What is carried arrives as it is. -/
theorem eq_of_carry? {carrier : Carrier} {given arrived : String}
    (taken : carrier.carry? given = some arrived) : arrived = given := by
  cases carrier with
  -- either carrier gives back what it took
  | text => exact (Option.some.inj taken).symm
  | char =>
    rw [carry?] at taken
    split at taken
    · exact (Option.some.inj taken).symm
    · cases taken

/-- The carrier that is asked for, if it takes the texts, carries them as the grammar says. -/
theorem carried_of_select? {via : Option String} {carrier : Carrier} {texts : List String}
    (named : name? value = some via) (selected : select? via = some carrier)
    (taken : ∀ text ∈ texts, carrier.carry? text = some text) : value.Carried texts := by
  have given := name?_eq_some_iff.mp named
  cases via with
  | none => exact .unnamed given
  | some name =>
    have known : ofName? name = some carrier := selected
    unfold ofName? at known
    split at known
    case h_5 => -- the one carrier that does not take every text
      obtain rfl := Option.some.inj known
      exact .single given fun text among => carry?_char_iff.mp (taken text among)
    case h_6 => cases known
    all_goals exact .whole given (by decide)

/-- Texts that are carried as the grammar says are taken by the carrier that is asked for. -/
theorem select?_of_carried {texts : List String} (carried : value.Carried texts) :
    ∃ via carrier, name? value = some via ∧ select? via = some carrier ∧
      ∀ text ∈ texts, carrier.carry? text = some text := by
  cases carried with
  | unnamed absent => exact ⟨none, .text, name?_eq_some_iff.mpr absent, rfl, fun _ _ => rfl⟩
  | @whole name named known =>
    -- the four names stand for one carrier
    have selected : ∀ name ∈ ["str", "string", "box", "cow"], select? (some name) = some .text := by
      decide
    exact ⟨some name, .text, name?_eq_some_iff.mpr named, selected name known, fun _ _ => rfl⟩
  | single named scalars =>
    refine ⟨some "char", .char, name?_eq_some_iff.mpr named, rfl, ?_⟩
    intro text among
    exact carry?_char_iff.mpr (scalars text among)

end Carrier

/-! ### The grammar is what is read -/

namespace LeafRecipe

variable {value : Json} {recipe : LeafRecipe}

/-- What is read as a leaf recipe is spelled by the grammar. -/
theorem spells_of_ofJson? (read : ofJson? value = some recipe) : value.Spells recipe.record := by
  -- each line of the reader gives one fact about the member that it looks at
  obtain ⟨via, named, read⟩ := Option.bind_eq_some_iff.mp read
  obtain ⟨word, kind, read⟩ := Option.bind_eq_some_iff.mp read
  have kind := Json.text?_eq_some_iff.mp kind
  have carrier := Carrier.exists_name?_iff.mp ⟨via, named⟩
  split at read
  case h_1 => -- a person
    obtain ⟨carrier, selected, read⟩ := Option.bind_eq_some_iff.mp read
    obtain ⟨given, name_eq, read⟩ := Option.bind_eq_some_iff.mp read
    obtain ⟨name, first, read⟩ := Option.bind_eq_some_iff.mp read
    obtain ⟨numeral, age_eq, read⟩ := Option.bind_eq_some_iff.mp read
    obtain ⟨age, worth, read⟩ := Option.bind_eq_some_iff.mp read
    obtain ⟨given', email_eq, read⟩ := Option.bind_eq_some_iff.mp read
    obtain ⟨email, second, read⟩ := Option.bind_eq_some_iff.mp read
    obtain rfl := Option.some.inj read
    obtain rfl := Carrier.eq_of_carry? first
    obtain rfl := Carrier.eq_of_carry? second
    refine .person kind (Json.text?_eq_some_iff.mp name_eq) (Json.text?_eq_some_iff.mp age_eq)
      (Numeral.readInt64?_eq_some_iff.mp worth) (Json.text?_eq_some_iff.mp email_eq) ?_
    exact Carrier.carried_of_select? named selected
      (List.forall_mem_cons.mpr ⟨first, List.forall_mem_singleton.mpr second⟩)
  case h_2 | h_3 => -- a group, by either name
    obtain rfl := Option.some.inj read
    exact .group kind (by decide) carrier
  case h_4 => -- a workspace
    obtain ⟨carrier, selected, read⟩ := Option.bind_eq_some_iff.mp read
    obtain ⟨given, slug_eq, read⟩ := Option.bind_eq_some_iff.mp read
    obtain ⟨slug, only, read⟩ := Option.bind_eq_some_iff.mp read
    obtain rfl := Option.some.inj read
    obtain rfl := Carrier.eq_of_carry? only
    refine .workspace kind (Json.text?_eq_some_iff.mp slug_eq) ?_
    exact Carrier.carried_of_select? named selected (List.forall_mem_singleton.mpr only)
  case h_5 => cases read

/-- A person that is spelled is read. -/
theorem ofJson?_of_spells_person {p : Person} (spells : value.Spells (.person p)) :
    ofJson? value = some (person p.name p.age p.email) ∧ value.text? "kind" = some "person" := by
  cases spells with
  | @person _ name numeral email age kind name_eq age_eq denotes email_eq carried =>
    have kind := Json.text?_eq_some_iff.mpr kind
    -- the premises of the grammar are what the reader asks for, in another order
    obtain ⟨via, carrier, named, selected, taken⟩ := Carrier.select?_of_carried carried
    obtain ⟨first, rest⟩ := List.forall_mem_cons.mp taken
    have second := List.forall_mem_singleton.mp rest
    refine ⟨?_, kind⟩
    simp [ofJson?, named, kind, selected, Json.text?_eq_some_iff.mpr name_eq, first,
      Json.text?_eq_some_iff.mpr age_eq, Numeral.readInt64?_eq_some_iff.mpr denotes,
      Json.text?_eq_some_iff.mpr email_eq, second]

theorem ofJson?_of_spells_group {g : Group} (spells : value.Spells (.group g)) :
    ofJson? value = some group ∧ ∃ word ∈ ["group", "group_default"], value.text? "kind" = some word := by
  cases spells with
  | @group _ word kind known carrier =>
    have kind := Json.text?_eq_some_iff.mpr kind
    obtain ⟨via, named⟩ := Carrier.exists_name?_iff.mpr carrier
    refine ⟨?_, word, known, kind⟩
    simp only [List.mem_cons, List.not_mem_nil, or_false] at known
    rcases known with rfl | rfl
    all_goals simp [ofJson?, named, kind]

theorem ofJson?_of_spells_workspace {w : Workspace} (spells : value.Spells (.workspace w)) :
    ofJson? value = some (workspace w.slug) ∧ value.text? "kind" = some "workspace" := by
  cases spells with
  | @workspace _ slug kind slug_eq carried =>
    have kind := Json.text?_eq_some_iff.mpr kind
    obtain ⟨via, carrier, named, selected, taken⟩ := Carrier.select?_of_carried carried
    have only := List.forall_mem_singleton.mp taken
    refine ⟨?_, kind⟩
    simp [ofJson?, named, kind, selected, Json.text?_eq_some_iff.mpr slug_eq, only]

end LeafRecipe

namespace Recipe

variable {value : Json} {record : Record}

/-- What is read as a recipe is spelled by the grammar. -/
theorem spells_of_ofJson? {recipe : Recipe} (read : ofJson? value = some recipe) :
    value.Spells recipe.record := by
  -- the kind is read first and decides what else is looked at
  obtain ⟨via, named, read⟩ := Option.bind_eq_some_iff.mp read
  obtain ⟨word, kind, read⟩ := Option.bind_eq_some_iff.mp read
  have kind := Json.text?_eq_some_iff.mp kind
  have carrier := Carrier.exists_name?_iff.mp ⟨via, named⟩
  split at read
  case h_1 => -- a fixture, whose parts are of the kinds that belong there
    obtain ⟨person, person_eq, read⟩ := Option.bind_eq_some_iff.mp read
    obtain ⟨first, firstRead, read⟩ := Option.bind_eq_some_iff.mp read
    cases first with
    | group | workspace => cases read
    | person name age email =>
    obtain ⟨group, group_eq, read⟩ := Option.bind_eq_some_iff.mp read
    obtain ⟨second, secondRead, read⟩ := Option.bind_eq_some_iff.mp read
    cases second with
    | person | workspace => cases read
    | group =>
    obtain ⟨workspace, workspace_eq, read⟩ := Option.bind_eq_some_iff.mp read
    obtain ⟨third, thirdRead, read⟩ := Option.bind_eq_some_iff.mp read
    cases third with
    | person | group => cases read
    | workspace slug =>
    obtain rfl := Option.some.inj read
    exact .fixture kind person_eq (LeafRecipe.spells_of_ofJson? firstRead)
      group_eq (LeafRecipe.spells_of_ofJson? secondRead)
      workspace_eq (LeafRecipe.spells_of_ofJson? thirdRead) carrier
  case h_2 => -- the sample
    obtain rfl := Option.some.inj read
    exact .sample kind carrier
  case h_3 => -- a leaf record
    obtain ⟨leaf, leafRead, read⟩ := Option.bind_eq_some_iff.mp read
    obtain rfl := Option.some.inj read
    exact LeafRecipe.spells_of_ofJson? leafRead

/-- A leaf recipe is read as such where a recipe is asked for. -/
theorem ofJson?_of_leaf {leaf : LeafRecipe} {word : String} (read : LeafRecipe.ofJson? value = some leaf)
    (kind : value.text? "kind" = some word) (notFixture : word ≠ "fixture") (notSample : word ≠ "sample") :
    ofJson? value = some (.leaf leaf) := by
  -- a name that is neither sends the reader to the leaf recipes
  obtain ⟨via, named, -⟩ := Option.bind_eq_some_iff.mp read
  simp [ofJson?, named, kind, read]

/-- **What the grammar spells is built.** -/
theorem ofJson?_of_spells (spells : value.Spells record) :
    ∃ recipe, ofJson? value = some recipe ∧ recipe.record = record := by
  cases record with
  -- a leaf is read by its own reader, and its record has nothing but what was given
  | person p =>
    obtain ⟨read, kind⟩ := LeafRecipe.ofJson?_of_spells_person spells
    refine ⟨_, ofJson?_of_leaf read kind (by decide) (by decide), ?_⟩
    cases spells with
    | person => rfl
  | group g =>
    obtain ⟨read, word, known, kind⟩ := LeafRecipe.ofJson?_of_spells_group spells
    -- a group goes by two names, and neither of them is taken for a fixture
    have others : ∀ word ∈ ["group", "group_default"], word ≠ "fixture" ∧ word ≠ "sample" := by decide
    refine ⟨_, ofJson?_of_leaf read kind (others word known).1 (others word known).2, ?_⟩
    cases spells with
    | group => rfl
  | workspace w =>
    obtain ⟨read, kind⟩ := LeafRecipe.ofJson?_of_spells_workspace spells
    refine ⟨_, ofJson?_of_leaf read kind (by decide) (by decide), ?_⟩
    cases spells with
    | workspace => rfl
  | fixture f =>
    cases spells with
    | sample kind carrier =>
      obtain ⟨via, named⟩ := Carrier.exists_name?_iff.mpr carrier
      refine ⟨.sample, ?_, rfl⟩
      simp [ofJson?, named, Json.text?_eq_some_iff.mpr kind]
    | @fixture _ person group workspace p g w kind person_eq first group_eq second workspace_eq third carrier =>
      obtain ⟨via, named⟩ := Carrier.exists_name?_iff.mpr carrier
      have firstRead := (LeafRecipe.ofJson?_of_spells_person first).1
      have secondRead := (LeafRecipe.ofJson?_of_spells_group second).1
      have thirdRead := (LeafRecipe.ofJson?_of_spells_workspace third).1
      refine ⟨.fixture p.name p.age p.email w.slug, ?_, ?_⟩
      · simp [ofJson?, named, Json.text?_eq_some_iff.mpr kind, person_eq, firstRead, group_eq, secondRead,
          workspace_eq, thirdRead]
      · -- the parts have what every person, group and workspace has
        cases first
        cases second
        cases third
        rfl

/-- **An expression builds a record exactly when the grammar says so.** -/
theorem built_iff_spells :
    (∃ recipe, ofJson? value = some recipe ∧ recipe.record = record) ↔ value.Spells record := by
  constructor
  · rintro ⟨recipe, read, rfl⟩
    exact spells_of_ofJson? read
  · exact ofJson?_of_spells

theorem ofJson?_eq_none_iff : ofJson? value = none ↔ ∀ record, ¬ value.Spells record := by
  -- if nothing is read, nothing is spelled, since what is spelled is read
  constructor
  · intro refused record spells
    obtain ⟨recipe, read, -⟩ := ofJson?_of_spells spells
    rw [refused] at read
    cases read
  · intro spellsNone
    rw [Option.eq_none_iff_forall_ne_some]
    intro recipe read
    exact spellsNone recipe.record (spells_of_ofJson? read)

end Recipe

/-! ### Answers -/

namespace Json

/-- **Where a request needs the record of an expression**: a question is put about it, it is compared with
another, or it is one of a list. -/
inductive Needs (request value : Json) : Prop where
  | question {op : String} (named : request.field? "op" = some (.str op))
      (known : op ∈ ["get", "json", "serde", "debug"]) (given : request.field? "value" = some value)
  | compared {side : String} (named : request.field? "op" = some (.str "eq"))
      (known : side ∈ ["a", "b"]) (given : request.field? side = some value)
  | listed {op : String} {values : List Json} (named : request.field? "op" = some (.str op))
      (known : op ∈ ["log", "threads"]) (given : request.field? "values" = some (.arr values))
      (among : value ∈ values)

/-- The request to show what an expression builds. -/
def showing (value : Json) : Json := .obj [("op", .str "get"), ("value", value)]

end Json

namespace Request

variable {request value : Json}

/-- One expression that builds nothing spoils a list. -/
theorem mapM_ofJson?_eq_none {values : List Json} (refused : Recipe.ofJson? value = none)
    (among : value ∈ values) : values.mapM Recipe.ofJson? = none := by
  induction values with
  | nil => cases among
  | cons first rest ih =>
    rw [List.mapM_cons]
    -- the list is read from the left, so reading stops here or further on
    rcases List.mem_cons.mp among with rfl | later
    · rw [refused]
      rfl
    · rw [ih later]
      cases Recipe.ofJson? first <;> rfl

/-- A list of expressions that are all spelled is read, one recipe after the other. -/
theorem mapM_ofJson?_of_spells {values : List Json} {records : List Record}
    (spelled : List.Forall₂ Json.Spells values records) :
    ∃ recipes, values.mapM Recipe.ofJson? = some recipes ∧ recipes.map Recipe.record = records ∧
      List.Forall₂ (fun value recipe => Recipe.ofJson? value = some recipe) values recipes := by
  induction spelled with
  | nil => exact ⟨[], rfl, rfl, .nil⟩
  | cons first others ih =>
    obtain ⟨recipe, read, rfl⟩ := Recipe.ofJson?_of_spells first
    obtain ⟨recipes, rest, rfl, reads⟩ := ih
    refine ⟨recipe :: recipes, ?_, rfl, .cons read reads⟩
    rw [List.mapM_cons, read, rest]
    rfl

/-- What needs a record that is not built is no request. -/
theorem ofJson?_eq_none (needs : request.Needs value) (refused : Recipe.ofJson? value = none) :
    ofJson? request = none := by
  -- the expression is read before anything is answered, wherever it stands
  cases needs with
  | @question op named known given =>
    have named := Json.text?_eq_some_iff.mpr named
    simp only [List.mem_cons, List.not_mem_nil, or_false] at known
    rcases known with rfl | rfl | rfl | rfl
    all_goals simp [ofJson?, named, given, refused]
  | @compared side named known given =>
    have named := Json.text?_eq_some_iff.mpr named
    simp only [List.mem_cons, List.not_mem_nil, or_false] at known
    rcases known with rfl | rfl
    all_goals simp [ofJson?, named, given, refused]
  | @listed op values named known given among =>
    have named := Json.text?_eq_some_iff.mpr named
    -- the subscriber of a log is read first, but nothing comes of it
    have spoiled : recipes? request = none := by
      simp [recipes?, given, Json.arr?, mapM_ofJson?_eq_none refused among]
    simp only [List.mem_cons, List.not_mem_nil, or_false] at known
    rcases known with rfl | rfl
    all_goals simp [ofJson?, named, spoiled]

end Request

namespace Json

variable {value : Json} {record : Record}

theorem answered_eq_bad_input {request : Json} (refused : Request.ofJson? request = none) :
    request.answered = .obj [("error", .str "bad_input")] := by
  rw [answered, refused]
  rfl

/-- An expression is shown as the view of its record. -/
theorem answered_showing {recipe : Recipe} (read : Recipe.ofJson? value = some recipe) :
    (showing value).answered = recipe.record.view := by
  have known : "get" ∈ ["get", "json", "serde", "debug"] := by decide
  have request : Request.ofJson? (showing value) = some (.ask recipe .get) :=
    Request.ofJson?_ask known rfl rfl read rfl
  rw [answered, request]
  rfl

/-- Nothing is made of an expression that builds nothing. -/
theorem run_make_of_none {step : Json} (toDo : step.field? "do" = some (.str "make"))
    (given : step.field? "value" = some value) (refused : Recipe.ofJson? value = none) (store : Store) :
    (Step.ofJson step).run store = (.error .badInput, store) := by
  have toDo := text?_eq_some_iff.mpr toDo
  have reading : Step.needed [] (step.text? "do") >>= Step.read step = .error [] := by
    have built : (step.field? "value" >>= Recipe.ofJson?) = none := by
      rw [given]
      exact refused
    rw [toDo]
    show Step.read step "make" = _
    rw [Step.read, built]
    -- a slot that is missing as well is no other error
    cases step.text? "to" <;> rfl
  rw [Step.ofJson, reading]
  rfl

/-- An expression spells one record. -/
theorem Spells.unique {other : Record} (first : value.Spells record) (second : value.Spells other) :
    record = other := by
  obtain ⟨recipe, read, rfl⟩ := Recipe.ofJson?_of_spells first
  obtain ⟨recipe', read', rfl⟩ := Recipe.ofJson?_of_spells second
  rw [read] at read'
  rw [Option.some.inj read']

/-- What is spelled is built as the constructors do it, so the arguments in its view spell it again. -/
theorem Spells.remade (spells : value.Spells record) :
    ∃ expression, record.view.remade? = some expression ∧ expression.Spells record := by
  -- the view of a record names its constructor and what it was given
  obtain ⟨recipe, read, rfl⟩ := Recipe.ofJson?_of_spells spells
  refine ⟨_, recipe.record.remade?_view, Recipe.built_iff_spells.mp ⟨_, Recipe.ofJson?_toJson _, ?_⟩⟩
  exact recipe.isStandard_record.record_recipe

/-- A fixture has no fixture for a part, the sample included. -/
theorem not_spells_of_part {name : String} {part : Json} {inner : Fixture}
    (kind : value.field? "kind" = some (.str "fixture")) (known : name ∈ ["person", "group", "workspace"])
    (part_eq : value.field? name = some part) (fixture : part.Spells (.fixture inner)) :
    ¬ value.Spells record := by
  intro spells
  -- the parts that the grammar asks for are of other kinds
  have leaf : ∃ record : Record, part.Spells record ∧ record.kind ≠ .fixture := by
    cases spells with
    | person kind' | workspace kind' | sample kind' =>
      exact absurd (kind'.symm.trans kind) (by simp)
    | group kind' known' =>
      rw [kind'] at kind
      cases kind
      exact absurd known' (by decide)
    | fixture kind' person_eq first group_eq second workspace_eq third =>
      simp only [List.mem_cons, List.not_mem_nil, or_false] at known
      rcases known with rfl | rfl | rfl
      · cases person_eq.symm.trans part_eq
        exact ⟨_, first, nofun⟩
      · cases group_eq.symm.trans part_eq
        exact ⟨_, second, nofun⟩
      · cases workspace_eq.symm.trans part_eq
        exact ⟨_, third, nofun⟩
  obtain ⟨record, spells, other⟩ := leaf
  rw [spells.unique fixture] at other
  exact other rfl

/-- **Expressions are accepted by their grammar and built as it says.** For every JSON value, what can be built
from it is what the grammar spells. That record is shown whole, and the constructor with the arguments that are
shown builds an equal one. Where the grammar spells nothing, every request and every step that needs the value is
bad input, with no message. This is so for a fixture that has a fixture or the sample for a part. -/
theorem answered_by_grammar (value : Json) :
    (∀ record, (∃ recipe, Recipe.ofJson? value = some recipe ∧ recipe.record = record) ↔
      value.Spells record) ∧
    (∀ record, value.Spells record →
      (showing value).answered = record.view ∧
      ∃ expression, record.view.remade? = some expression ∧ expression.Spells record ∧
        (showing expression).answered = record.view ∧
        (comparison value expression).answered = .obj [("eq", .bool true), ("ne", .bool false)]) ∧
    ((∀ record, ¬ value.Spells record) →
      (∀ request : Json, request.Needs value → request.answered = .obj [("error", .str "bad_input")]) ∧
      ∀ step : Json, step.field? "do" = some (.str "make") → step.field? "value" = some value →
        ∀ store, ((Step.ofJson step).run store).2 = store ∧
          ((Step.ofJson step).run store).1.toJson = .obj [("error", .str "bad_input")]) ∧
    (∀ name ∈ ["person", "group", "workspace"], ∀ part inner,
      value.field? "kind" = some (.str "fixture") → value.field? name = some part →
        part.Spells (.fixture inner) → ∀ record, ¬ value.Spells record) := by
  -- the grammar is what is read, so what follows is about recipes
  refine ⟨fun record => Recipe.built_iff_spells, ?_, ?_, ?_⟩
  -- a spelled value is read, and so is what its view makes of it
  · intro record spells
    obtain ⟨recipe, read, rfl⟩ := Recipe.ofJson?_of_spells spells
    obtain ⟨expression, shown, again⟩ := spells.remade
    obtain ⟨recipe', read', same⟩ := Recipe.ofJson?_of_spells again
    refine ⟨answered_showing read, expression, shown, again, ?_, ?_⟩
    · rw [answered_showing read', same]
    · rw [answered_comparison_eq read read', same, Record.compare, if_pos rfl, decide_eq_true rfl]
      rfl
  -- what spells nothing is not read, wherever it is needed
  · intro spellsNone
    have refused := Recipe.ofJson?_eq_none_iff.mpr spellsNone
    refine ⟨fun request needs => answered_eq_bad_input (Request.ofJson?_eq_none needs refused), ?_⟩
    intro step toDo given store
    rw [run_make_of_none toDo given refused store]
    exact ⟨rfl, rfl⟩
  -- a fixture inside a fixture is spelled by no rule
  · intro name known part inner kind part_eq fixture record
    exact not_spells_of_part kind known part_eq fixture

/-- A letter and a smiley are single characters, and the zeros in front of an age are not kept. A letter with its
accent behind it is two. The sample cannot be the workspace of a fixture. -/
theorem answered_by_grammar_single_characters :
    let person (name : String) : Json := .obj [("kind", .str "person"), ("name", .str name),
      ("age", .str "-007"), ("email", .str "😀"), ("via", .str "char")]
    let sample : Json := .obj [("kind", .str "sample")]
    let fixture : Json := .obj [("kind", .str "fixture"), ("person", person "ß"),
      ("group", .obj [("kind", .str "group_default")]), ("workspace", sample)]
    ((person "ß").Spells (.person { name := "ß", age := -7, email := "😀", isActive := true }) ∧
      (showing (person "ß")).answered = .obj [("kind", .str "person"), ("name", .str "ß"),
        ("age", .str "-7"), ("email", .str "😀"), ("is_active", .bool true)]) ∧
    ((∀ record, ¬ (person "e\u0301").Spells record) ∧
      (showing (person "e\u0301")).answered = .obj [("error", .str "bad_input")]) ∧
    ((∃ inner, sample.Spells (.fixture inner)) ∧ (∀ record, ¬ fixture.Spells record) ∧
      (showing fixture).answered = .obj [("error", .str "bad_input")]) := by
  intro person sample fixture
  have spelled : (person "ß").Spells (.person { name := "ß", age := -7, email := "😀", isActive := true }) :=
    ((answered_by_grammar (person "ß")).1 _).mp ⟨_, rfl, rfl⟩
  have accented : ∀ record, ¬ (person "e\u0301").Spells record := Recipe.ofJson?_eq_none_iff.mp rfl
  have whole : sample.Spells (.fixture .sample) := ((answered_by_grammar sample).1 _).mp ⟨_, rfl, rfl⟩
  have nested : ∀ record, ¬ fixture.Spells record :=
    (answered_by_grammar fixture).2.2.2 "workspace" (by decide) sample .sample rfl rfl whole
  have asked (value : Json) : (showing value).Needs value := .question rfl (by decide) rfl
  refine ⟨⟨spelled, ?_⟩, ⟨accented, ?_⟩, ⟨_, whole⟩, nested, ?_⟩
  · exact ((answered_by_grammar (person "ß")).2.1 _ spelled).1
  · exact ((answered_by_grammar (person "e\u0301")).2.2.1 accented).1 _ (asked _)
  · exact ((answered_by_grammar fixture).2.2.1 nested).1 _ (asked _)

/-! ### Ages -/

/-- The expression of a person whose age is given by the numeral. -/
def aged (name email numeral : String) : Json :=
  .obj [("kind", .str "person"), ("name", .str name), ("age", .str numeral), ("email", .str email)]

end Json

namespace Recipe

theorem ofJson?_aged (name email numeral : String) :
    ofJson? (.aged name email numeral) =
      (Numeral.readInt64? numeral).map fun age => .leaf (.person name age email) := by
  have person : LeafRecipe.ofJson? (.aged name email numeral) =
      (Numeral.readInt64? numeral).map fun age => .person name age email := by
    -- the numeral is the only member that can be refused
    show (do
      let age ← Numeral.readInt64? numeral
      return LeafRecipe.person name age email) = _
    cases Numeral.readInt64? numeral <;> rfl
  show (do return leaf (← LeafRecipe.ofJson? (.aged name email numeral))) = _
  rw [person]
  cases Numeral.readInt64? numeral <;> rfl

theorem ofJson?_aged_eq_some_iff {name email numeral : String} {recipe : Recipe} :
    ofJson? (.aged name email numeral) = some recipe ↔
      ∃ age : Int64, Numeral.Denotes numeral.toList age.toInt ∧ recipe = .leaf (.person name age email) := by
  rw [ofJson?_aged, Option.map_eq_some_iff]
  apply exists_congr
  intro age
  rw [Numeral.readInt64?_eq_some_iff, eq_comm (b := recipe)]

end Recipe

namespace Person

/-- An age is shown by the terse numeral of its value, which is read back. -/
theorem exists_printed_age (name email : String) (age : Int64) :
    ∃ printed : String, (Person.new name age email).view.field? "age" = some (.str printed) ∧
      (∀ text : String, Numeral.Denotes text.toList age.toInt ∧ Numeral.Terse text.toList ↔ text = printed) ∧
      Recipe.ofJson? (.aged name email printed) = some (.leaf (.person name age email)) := by
  refine ⟨String.ofList (Numeral.ofInt64 age), rfl, ?_, ?_⟩
  -- the one terse numeral of a value is what its digits are printed as
  · intro text
    rw [Numeral.terse_iff, ← String.toList_inj, String.toList_ofList]
    rfl
  · rw [Recipe.ofJson?_aged, Numeral.readInt64?_ofInt64]
    rfl

/-- **Ages are read and printed exactly.** A string is accepted for an age exactly if it is a numeral whose value
lies in the range of a word of 64 bits, and the person has that value for an age. Zeros in front of the digits make
no difference, however many they are. What is printed is the one terse numeral of the value, and it builds the same
person; and so the printed age of every word is read back. -/
theorem age_read_and_printed (name email : String) :
    (∀ numeral, (∃ recipe, Recipe.ofJson? (.aged name email numeral) = some recipe) ↔
      ∃ value : Int, Numeral.Denotes numeral.toList value ∧
        -9223372036854775808 ≤ value ∧ value ≤ 9223372036854775807) ∧
    (∀ sign ∈ [[], ['-']], ∀ digits, Numeral.IsDigits digits → ∀ count,
      Recipe.ofJson? (.aged name email (String.ofList (sign ++ (List.replicate count '0' ++ digits)))) =
        Recipe.ofJson? (.aged name email (String.ofList (sign ++ digits)))) ∧
    (∀ numeral recipe, Recipe.ofJson? (.aged name email numeral) = some recipe →
      ∃ (age : Int64) (printed : String),
        recipe.record = .person { name := name, age := age, email := email, isActive := true } ∧
        Numeral.Denotes numeral.toList age.toInt ∧
        (Json.showing (.aged name email numeral)).answered.field? "age" = some (.str printed) ∧
        (∀ text : String, Numeral.Denotes text.toList age.toInt ∧ Numeral.Terse text.toList ↔ text = printed) ∧
        Recipe.ofJson? (.aged name email printed) = some recipe) ∧
    ∀ age : Int64, ∃ printed : String,
      (Person.new name age email).view.field? "age" = some (.str printed) ∧
      Recipe.ofJson? (.aged name email printed) = some (.leaf (.person name age email)) := by
  refine ⟨?_, ?_, ?_, ?_⟩
  · intro numeral
    constructor
    · rintro ⟨recipe, read⟩
      obtain ⟨age, denotes, -⟩ := Recipe.ofJson?_aged_eq_some_iff.mp read
      exact ⟨age.toInt, denotes, Numeral.exists_int64_iff.mp ⟨age, rfl⟩⟩
    · rintro ⟨value, denotes, range⟩
      obtain ⟨age, rfl⟩ := Numeral.exists_int64_iff.mpr range
      exact ⟨_, Recipe.ofJson?_aged_eq_some_iff.mpr ⟨age, denotes, rfl⟩⟩
  · intro sign signed digits run count
    -- zeros in front of the digits leave the value as it is
    obtain ⟨value, short, long⟩ := run.denotes_zeros count signed
    rw [Recipe.ofJson?_aged, Recipe.ofJson?_aged, Numeral.readInt64?_congr]
    · rwa [String.toList_ofList]
    · rwa [String.toList_ofList]
  · intro numeral recipe read
    obtain ⟨age, denotes, rfl⟩ := Recipe.ofJson?_aged_eq_some_iff.mp read
    obtain ⟨printed, shown, terse, again⟩ := exists_printed_age name email age
    -- what is shown depends on the value alone, not on the numeral that was read
    refine ⟨age, printed, rfl, denotes, ?_, terse, again⟩
    rw [Json.answered_showing read]
    exact shown
  · intro age
    obtain ⟨printed, shown, -, again⟩ := exists_printed_age name email age
    exact ⟨printed, shown, again⟩

/-- The least word is read behind more digits than it has, and the number after the greatest is not, though it has no
more than that. Zero has no sign when it is printed, whatever it was read from. -/
theorem age_read_and_printed_least :
    let read (numeral : String) := Recipe.ofJson? (.aged "Ann" "" numeral)
    (∃ recipe, read "-0009223372036854775808" = some recipe) ∧
    (∀ recipe, read "9223372036854775808" ≠ some recipe) ∧
    read "-00" = read "-0" ∧
    ((Json.showing (.aged "Ann" "" "-0")).answered.field? "age" = some (.str "0") ∧
      ∀ text : String, Numeral.Denotes text.toList 0 ∧ Numeral.Terse text.toList → text = "0") := by
  intro read
  have accepted := (age_read_and_printed "Ann" "").1
  refine ⟨?_, ?_, ?_, ?_⟩
  · apply (accepted _).mpr
    have denotes : Numeral.Denotes "-0009223372036854775808".toList (-9223372036854775808) :=
      Numeral.readInt?_eq_some_iff.mp rfl
    exact ⟨_, denotes, by decide, by decide⟩
  -- the next number is above the range, so no word has it
  · intro recipe given
    obtain ⟨value, denotes, -, high⟩ := (accepted _).mp ⟨recipe, given⟩
    have large : Numeral.Denotes "9223372036854775808".toList 9223372036854775808 :=
      Numeral.readInt?_eq_some_iff.mp rfl
    rw [denotes.unique large] at high
    exact absurd high (by decide)
  -- a zero with a zero in front of it denotes zero too
  · have zero : Numeral.readNat? ['0'] = some 0 := rfl
    have digits := (Numeral.readNat?_eq_some_iff.mp zero).1
    exact (age_read_and_printed "Ann" "").2.1 ['-'] (List.mem_cons_of_mem _ List.mem_cons_self) ['0'] digits 1
  · obtain ⟨age, printed, record, -, shown, terse, -⟩ :=
      (age_read_and_printed "Ann" "").2.2.1 "-0" (.leaf (.person "Ann" 0 "")) rfl
    obtain rfl : (0 : Int64) = age := by
      cases record
      rfl
    obtain rfl : "0" = printed := Json.str.inj (Option.some.inj shown)
    exact ⟨shown, fun text => (terse text).mp⟩

end Person

end Profiles
