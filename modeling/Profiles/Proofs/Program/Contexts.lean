import Profiles.Request

/-!
# Programs with a hole

A program one of whose `make` steps lacks its value is a `Context`. Filled with an expression it is a request
like any other, and two expressions are `Indistinguishable` if no context answers them differently. What the
answers may tell is a great deal: the record can be copied, bundled, traded and compared before it is looked
at, and by any question.

None of this sees more than the record. The steps of a filled context depend on the expression only through
what it builds, and the step with the hole shows that record whole (`Context.answered_fill_eq_iff`), down to
the last field of a part since views are injective (`Record.view_inj`). So the comparison of two records tells
exactly whether a context could tell them apart (`Json.answered_comparison`).
-/

namespace Profiles

/-! ### Views tell records apart -/

theorem Json.numeral_inj {m n : Int64} : Json.numeral m = Json.numeral n ↔ m = n := by
  refine ⟨fun h => ?_, congrArg numeral⟩
  -- a number is shown by its numeral, and that is read back
  have texts : String.ofList (Numeral.ofInt64 m) = String.ofList (Numeral.ofInt64 n) :=
    Json.str.inj h
  have read := congrArg Numeral.readInt64? texts
  rw [Numeral.readInt64?_ofInt64, Numeral.readInt64?_ofInt64] at read
  exact Option.some.inj read

theorem Person.view_inj {a b : Person} : a.view = b.view ↔ a = b := by
  refine ⟨fun h => ?_, congrArg view⟩
  obtain ⟨name, age, email, isActive⟩ := a
  obtain ⟨name', age', email', isActive'⟩ := b
  simpa [view, Json.numeral_inj] using h

theorem Group.view_inj {a b : Group} : a.view = b.view ↔ a = b := by
  refine ⟨fun h => ?_, congrArg view⟩
  obtain ⟨title, memberCount⟩ := a
  obtain ⟨title', memberCount'⟩ := b
  simpa [view, Json.numeral_inj] using h

theorem Workspace.view_inj {a b : Workspace} : a.view = b.view ↔ a = b := by
  refine ⟨fun h => ?_, congrArg view⟩
  obtain ⟨slug, region⟩ := a
  obtain ⟨slug', region'⟩ := b
  simpa [view] using h

theorem Fixture.view_inj {a b : Fixture} : a.view = b.view ↔ a = b := by
  refine ⟨fun h => ?_, congrArg view⟩
  obtain ⟨person, group, workspace⟩ := a
  obtain ⟨person', group', workspace'⟩ := b
  -- the members are the views of the parts, so it is enough that these are injective
  simpa [view, Person.view_inj, Group.view_inj, Workspace.view_inj] using h

/-- The kind that a view names. -/
theorem Record.field?_view (record : Record) :
    record.view.field? "kind" = some (.str record.kind.name) := by
  cases record <;> rfl

theorem Kind.name_inj {a b : Kind} : a.name = b.name ↔ a = b := by
  cases a <;> cases b <;> decide

/-- **A view shows all of a record.** -/
theorem Record.view_inj {a b : Record} : a.view = b.view ↔ a = b := by
  refine ⟨fun h => ?_, congrArg view⟩
  -- the first member is the kind, and views of two kinds differ there
  have kinds : a.kind = b.kind := by
    have named := congrArg (Json.field? · "kind") h
    rw [field?_view, field?_view] at named
    exact Kind.name_inj.mp (Json.str.inj (Option.some.inj named))
  cases a <;> cases b <;> cases kinds
  case person p q => exact congrArg person (Person.view_inj.mp h)
  case group g k => exact congrArg group (Group.view_inj.mp h)
  case workspace v w => exact congrArg workspace (Workspace.view_inj.mp h)
  case fixture e f => exact congrArg fixture (Fixture.view_inj.mp h)

/-! ### Contexts -/

/-- What is answered to a JSON value as a request, which it need not be. -/
def Json.answered (value : Json) : Json :=
  match Request.ofJson? value with
  | some request => request.reply.toJson
  | none => Reply.toJson (.outcome (.error .badInput))

/-- A program one of whose `make` steps lacks its value. -/
structure Context where
  /-- The steps before the one with the hole. -/
  before : List Json
  /-- The members of that step which come before its value, -/
  front : List (String × Json)
  /-- and those behind it. -/
  back : List (String × Json)
  /-- The steps that follow. -/
  after : List Json
  makes : Json.text? (.obj (front ++ back)) "do" = some "make"
  /-- No member behind the hole takes its place, as the last of a name does. -/
  open_hole : Json.field? (.obj back) "value" = none

namespace Context

variable (context : Context)

/-- The step with the hole, filled. -/
def step (value : Json) : Json := .obj (context.front ++ ("value", value) :: context.back)

/-- **A context, filled**: the request to run the program. -/
def fill (value : Json) : Json :=
  .obj [("op", .str "program"),
    ("steps", .arr (context.before ++ context.step value :: context.after))]

/-- The slot that is made, if the step names one. -/
def target? : Option String := Json.text? (.obj (context.front ++ context.back)) "to"

theorem field?_step_value (value : Json) : (context.step value).field? "value" = some value := by
  -- the last member of a name counts, and none behind the hole has that name
  have vacant : context.back.reverse.lookup "value" = none := context.open_hole
  show (context.front ++ ("value", value) :: context.back).reverse.lookup "value" = some value
  rw [List.reverse_append, List.reverse_cons, List.lookup_append, List.lookup_append, vacant]
  rfl

/-- The hole hides no other member. -/
theorem field?_step_of_ne (value : Json) {name : String} (other : name ≠ "value") :
    (context.step value).field? name = Json.field? (.obj (context.front ++ context.back)) name := by
  have passed : List.lookup name [("value", value)] = none := by
    rw [List.lookup_cons, beq_false_of_ne other]
    rfl
  show (context.front ++ ("value", value) :: context.back).reverse.lookup name =
    (context.front ++ context.back).reverse.lookup name
  rw [List.reverse_append, List.reverse_cons, List.reverse_append, List.lookup_append,
    List.lookup_append, List.lookup_append, passed, Option.or_none]

/-- The step with the hole makes what the value builds, unless it does not say where. -/
theorem read_step {value : Json} {recipe : Recipe} (reads : Recipe.ofJson? value = some recipe) :
    (Step.needed [] ((context.step value).text? "do") >>= Step.read (context.step value)) =
      (Step.needed [] context.target?).map (.make · recipe) := by
  -- the other members are where they would be without the hole
  have toDo : (context.step value).text? "do" = some "make" := by
    rw [Json.text?, field?_step_of_ne context value (by decide)]
    exact context.makes
  have target : (context.step value).text? "to" = context.target? := by
    rw [Json.text?, field?_step_of_ne context value (by decide)]
    rfl
  have built : ((context.step value).field? "value" >>= Recipe.ofJson?) = some recipe := by
    rw [field?_step_value]
    exact reads
  rw [toDo]
  show Step.read (context.step value) "make" = _
  rw [Step.read, target, built]
  -- a step that names no slot is incomplete, whatever it makes
  cases context.target? <;> rfl

/-- The program of a context with the given step in the place of the hole. -/
def program (step : Step) : Program :=
  context.before.map Step.ofJson ++ step :: context.after.map Step.ofJson

theorem answered_fill (value : Json) :
    (context.fill value).answered =
      .arr (((context.program (Step.ofJson (context.step value))).run ∅).1.map Outcome.toJson) := by
  -- the hole is one step among the others, and steps are read one by one
  have steps : (context.before ++ context.step value :: context.after).map Step.ofJson =
      context.program (Step.ofJson (context.step value)) := by
    rw [List.map_append, List.map_cons]
    rfl
  rw [← steps]
  rfl

/-- Steps that do the same on every store may stand for one another. -/
theorem run_program_congr {s t : Step} (h : s.run = t.run) (store : Store) :
    (context.program s).run store = (context.program t).run store := by
  rw [program, program, Program.run_append, Program.run_append, Program.run_cons,
    Program.run_cons, h]

/-- The outcome of the step in the place of the hole is one of those that are told. -/
theorem getElem?_run_program (s : Step) (store : Store) :
    ((context.program s).run store).1[context.before.length]? =
      some (s.run (Program.run (context.before.map Step.ofJson) store).2).1 := by
  -- each step has one outcome, so the place of the hole is where those before it end
  have passed : (Program.run (context.before.map Step.ofJson) store).1.length =
      context.before.length := by
    rw [Program.length_run, List.length_map]
  rw [program, Program.run_append, Program.run_cons,
    List.getElem?_append_right (Nat.le_of_eq passed), passed, Nat.sub_self]
  rfl

/-- Expressions for one record are answered alike in every context. -/
theorem answered_fill_congr {a b : Json} {left right : Recipe}
    (first : Recipe.ofJson? a = some left) (second : Recipe.ofJson? b = some right)
    (same : left.record = right.record) :
    (context.fill a).answered = (context.fill b).answered := by
  -- the record is all that the step looks at
  have runs : (Step.ofJson (context.step a)).run = (Step.ofJson (context.step b)).run := by
    rw [Step.ofJson, Step.ofJson, read_step context first, read_step context second]
    cases context.target? with
    | none => rfl
    | some target =>
      funext store
      show Step.run (.make target left) store = Step.run (.make target right) store
      rw [Step.run, Step.run, Step.perform, Step.perform, same]
  rw [answered_fill, answered_fill, run_program_congr context runs]

/-- **A context that says where the value goes tells all records apart.** -/
theorem answered_fill_eq_iff {target : String} (named : context.target? = some target) {a b : Json}
    {left right : Recipe} (first : Recipe.ofJson? a = some left)
    (second : Recipe.ofJson? b = some right) :
    (context.fill a).answered = (context.fill b).answered ↔ left.record = right.record := by
  refine ⟨fun alike => ?_, answered_fill_congr context first second⟩
  -- the outcome in the place of the hole is the view of the record
  have shown {value : Json} {recipe : Recipe} (reads : Recipe.ofJson? value = some recipe) :
      (((context.program (Step.ofJson (context.step value))).run ∅).1.map
        Outcome.toJson)[context.before.length]? = some recipe.record.view := by
    rw [List.getElem?_map, getElem?_run_program, Step.ofJson, read_step context reads, named]
    rfl
  rw [answered_fill, answered_fill] at alike
  have views := congrArg (·[context.before.length]?) (Json.arr.inj alike)
  exact Record.view_inj.mp (Option.some.inj ((shown first).symm.trans (views.trans (shown second))))

/-- The least context: the value is made, and that is all. -/
def bare : Context where
  before := []
  front := [("do", .str "make"), ("to", .str "x")]
  back := []
  after := []
  makes := rfl
  open_hole := rfl

end Context

/-! ### Comparison -/

/-- No context answers the two differently. -/
def Indistinguishable (a b : Json) : Prop :=
  ∀ context : Context, (context.fill a).answered = (context.fill b).answered

theorem indistinguishable_iff {a b : Json} {left right : Recipe}
    (first : Recipe.ofJson? a = some left) (second : Recipe.ofJson? b = some right) :
    Indistinguishable a b ↔ left.record = right.record :=
  ⟨fun alike => (Context.bare.answered_fill_eq_iff rfl first second).mp (alike .bare),
    fun same context => context.answered_fill_congr first second same⟩

namespace Json

/-- The request to compare what two expressions build. -/
def comparison (a b : Json) : Json := .obj [("op", .str "eq"), ("a", a), ("b", b)]

theorem answered_comparison_eq {a b : Json} {left right : Recipe}
    (first : Recipe.ofJson? a = some left) (second : Recipe.ofJson? b = some right) :
    (comparison a b).answered = (left.record.compare right.record).toJson := by
  have read : Request.ofJson? (comparison a b) = some (.eq left right) := by
    show (Recipe.ofJson? a >>= fun left => Recipe.ofJson? b >>= fun right =>
      some (Request.eq left right)) = _
    rw [first, second]
    rfl
  rw [answered, read]
  rfl

/-- **Equality is indistinguishability.** Two expressions for records of one kind are found equal if every
context answers them alike, and different if some context does not. Records of two kinds are not compared. -/
theorem answered_comparison {a b : Json} {left right : Recipe}
    (first : Recipe.ofJson? a = some left) (second : Recipe.ofJson? b = some right) :
    (left.record.kind = right.record.kind →
      (Indistinguishable a b →
        (comparison a b).answered = .obj [("eq", .bool true), ("ne", .bool false)]) ∧
      (¬ Indistinguishable a b →
        (comparison a b).answered = .obj [("eq", .bool false), ("ne", .bool true)])) ∧
    (left.record.kind ≠ right.record.kind →
      (comparison a b).answered = .obj [("error", .str "wrong_kind")]) := by
  -- what no context tells apart is one record, so it is a question about records
  rw [answered_comparison_eq first second, indistinguishable_iff first second, Record.compare]
  refine ⟨fun kinds => ⟨fun same => ?_, fun different => ?_⟩, fun kinds => ?_⟩
  · rw [if_pos kinds, decide_eq_true same]
    rfl
  · rw [if_pos kinds, decide_eq_false different]
    rfl
  · rw [if_neg kinds]
    rfl

/-- The sample and a fixture of the same parts cannot be told apart; another slug can be told; and a group is
of another kind. -/
theorem answered_comparison_sample :
    let fixture (slug : String) : Json := .obj [("kind", .str "fixture"),
      ("person", .obj [("kind", .str "person"), ("name", .str "Alice"), ("age", .str "030"),
        ("email", .str "alice@example.com")]),
      ("group", .obj [("kind", .str "group_default")]),
      ("workspace", .obj [("kind", .str "workspace"), ("slug", .str slug)])]
    let sample : Json := .obj [("kind", .str "sample")]
    let group : Json := .obj [("kind", .str "group")]
    (Indistinguishable sample (fixture "acme-prod") ∧
      (comparison sample (fixture "acme-prod")).answered =
        .obj [("eq", .bool true), ("ne", .bool false)]) ∧
    (¬ Indistinguishable sample (fixture "acme-dev") ∧
      (comparison sample (fixture "acme-dev")).answered =
        .obj [("eq", .bool false), ("ne", .bool true)]) ∧
    (comparison sample group).answered = .obj [("error", .str "wrong_kind")] := by
  intro fixture sample group
  have readSample : Recipe.ofJson? sample = some .sample := rfl
  have readGroup : Recipe.ofJson? group = some (.leaf .group) := rfl
  have readFixture (slug : String) : Recipe.ofJson? (fixture slug) =
      some (.fixture "Alice" 30 "alice@example.com" slug) := rfl
  -- an age with a zero in front is the same number
  have same : Indistinguishable sample (fixture "acme-prod") :=
    (indistinguishable_iff readSample (readFixture _)).mpr (by decide)
  have different : ¬ Indistinguishable sample (fixture "acme-dev") := fun alike =>
    absurd ((indistinguishable_iff readSample (readFixture _)).mp alike) (by decide)
  exact ⟨⟨same, ((answered_comparison readSample (readFixture "acme-prod")).1 rfl).1 same⟩,
    ⟨different, ((answered_comparison readSample (readFixture "acme-dev")).1 rfl).2 different⟩,
    (answered_comparison readSample readGroup).2 (by decide)⟩

end Json

end Profiles
