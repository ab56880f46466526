import Profiles.Proofs.Program.Effects
import Profiles.Proofs.Record.Standard
import Profiles.Request

/-!
# Records that a program can reach

Fixtures trade parts with slots, and slots are copied, bundled and taken apart, but whatever a program does,
each record it holds is one that the constructors build (`Program.held_record`). The invariant is
`Store.Standard`, that every record in a store is standard; it holds of the empty store, every rule of
`Step.Performs` keeps it, and so does every run, since a failing step changes nothing.

A standard record is built by a recipe that is no sample, so it cannot be told from what the expression of
that recipe builds: a question to the slot has the answer of the same question to the expression. That is
also so for questions with particulars that no question takes.
-/

namespace Profiles

/-! ### What is guaranteed -/

/-- A new person is active and of an age that takes 64 bits. -/
def Person.Guaranteed (person : Person) : Prop :=
  person.isActive = true ∧
    -9223372036854775808 ≤ person.age.toInt ∧ person.age.toInt ≤ 9223372036854775807

/-- A new group is the core of three. -/
def Group.Guaranteed (group : Group) : Prop := group.title = "core" ∧ group.memberCount = 3

/-- A new workspace lies in the default region. -/
def Workspace.Guaranteed (workspace : Workspace) : Prop := workspace.region = "eu"

/-- **What the constructors guarantee** of a record, and of the parts of a fixture. -/
def Record.Guaranteed : Record → Prop
  | person p => p.Guaranteed
  | group g => g.Guaranteed
  | workspace w => w.Guaranteed
  | fixture f => f.person.Guaranteed ∧ f.group.Guaranteed ∧ f.workspace.Guaranteed

theorem Person.guaranteed_of_active {person : Person} (active : person.isActive = true) :
    person.Guaranteed :=
  ⟨active, person.age.le_toInt, Int.le_of_lt_add_one person.age.toInt_lt⟩

theorem Group.guaranteed_new : Group.new.Guaranteed := ⟨rfl, rfl⟩

namespace Record

theorem IsStandard.guaranteed {record : Record} (standard : record.IsStandard) :
    record.Guaranteed := by
  -- an age is a word of 64 bits, and the rest is what the constructors supply
  cases record with
  | person p => exact Person.guaranteed_of_active standard
  | group g =>
    obtain rfl : g = .new := standard
    exact Group.guaranteed_new
  | workspace w => exact standard
  | fixture f =>
    obtain ⟨active, group, region⟩ := standard
    refine ⟨Person.guaranteed_of_active active, ?_, region⟩
    rw [group]
    exact Group.guaranteed_new

end Record

/-! ### The invariant -/

namespace Store

/-- Every record in a store is as the constructors build it. -/
def Standard (store : Store) : Prop :=
  ∀ (slot : String) (record : Record), store[slot]? = some record → record.IsStandard

namespace Standard

variable {store : Store}

theorem empty : Standard ∅ := by
  intro slot record held
  rw [getElem?_empty] at held
  cases held

theorem insert (standard : store.Standard) (slot : String) {record : Record}
    (h : record.IsStandard) : Standard (store.insert slot record) := by
  intro other held
  -- the slot itself holds the new record, any other what it held
  rw [getElem?_insert]
  split
  · rintro ⟨rfl⟩
    exact h
  · exact standard other held

theorem erase (standard : store.Standard) (slot : String) : Standard (store.erase slot) := by
  intro other held
  rw [getElem?_erase]
  split
  · intro h
    cases h
  · exact standard other held

end Standard

end Store

namespace Step

variable {store store' : Store} {step : Step} {answer : Answer}

/-- Every rule keeps the invariant. -/
theorem Performs.standard (h : Performs store step answer store') (standard : store.Standard) :
    store'.Standard := by
  -- a record that comes into a slot is built, taken over from another slot, or part of one
  cases h with
  | make target recipe => exact standard.insert target recipe.isStandard_record
  | clone target held => exact standard.insert target (standard _ _ held)
  | move target held => exact (standard.erase _).insert target (standard _ _ held)
  | drop held => exact standard.erase _
  | bundle target first second third =>
    exact standard.insert target
      ⟨standard _ _ first, standard _ _ second, standard _ _ third⟩
  | extract target held named =>
    exact standard.insert target (Fixture.isStandard_part (standard _ _ held) _)
  | swap whole piece traded =>
    -- both sides of the trade were in the store, so both are standard before it and after it
    obtain ⟨new, taken⟩ :=
      Fixture.isStandard_exchange traded (standard _ _ whole) (standard _ _ piece)
    exact (standard.insert _ new).insert _ taken
  | assign held replaced kind => exact standard.insert _ (standard _ _ held)
  | ask held answered => exact standard
  | eq left right answered => exact standard
  | dump => exact standard

theorem standard_run (step : Step) (standard : store.Standard) : (step.run store).2.Standard := by
  rcases step.run_cases store with ⟨answer, store', h, run⟩ | ⟨failure, run⟩
  · rw [run]
    exact h.standard standard
  · rw [run]
    exact standard

end Step

/-- Every program keeps the invariant. -/
theorem Program.standard_run (program : Program) {store : Store} (standard : store.Standard) :
    (program.run store).2.Standard := by
  induction program generalizing store with
  | nil => exact standard
  | cons step program ih => exact ih (step.standard_run standard)

/-! ### Questions to a slot -/

/-- A step and a request that put the same question, the one to the record in a slot and the other to what
an expression builds. Their particulars are equal, and may both be none that the question takes. -/
structure Json.AsksAlike (step request : Json) (slot : String) (expression : Json) : Prop where
  named : ∃ name ∈ ["get", "json", "serde", "debug"],
    step.text? "do" = some name ∧ request.text? "op" = some name
  source : step.text? "from" = some slot
  subject : request.field? "value" = some expression
  particulars : ∀ name ∈ ["pretty", "budget", "spec"], step.field? name = request.field? name

/-- How a question is read depends on its particulars only. -/
theorem Query.ofName?_congr {name : String} (known : name ∈ ["get", "json", "serde", "debug"])
    {value value' : Json}
    (particulars : ∀ name ∈ ["pretty", "budget", "spec"], value.field? name = value'.field? name) :
    ∃ read, Query.ofName? name = some read ∧ read value = read value' := by
  -- four questions, each with at most one particular of its own
  simp only [List.mem_cons, List.not_mem_nil, or_false] at known
  rcases known with rfl | rfl | rfl | rfl
  · exact ⟨_, rfl, rfl⟩
  · refine ⟨_, rfl, ?_⟩
    simp only [Json.optional?, particulars "pretty" (by decide)]
  · refine ⟨_, rfl, ?_⟩
    simp only [Json.optional?, particulars "budget" (by decide)]
  · refine ⟨_, rfl, ?_⟩
    simp only [Json.text?, particulars "spec" (by decide)]

/-- A question to a slot as a JSON value. Where its particulars will not do, only the slot is looked at. -/
theorem Step.ofJson_ask {value : Json} {name source : String} {read : Json → Option Query}
    (known : name ∈ ["get", "json", "serde", "debug"]) (named : value.text? "do" = some name)
    (placed : value.text? "from" = some source) (h : Query.ofName? name = some read) :
    Step.ofJson value =
      match read value with
      | some query => .ask source query
      | none => .incomplete [.present source] := by
  -- all four are read by one branch, which takes the question by its name
  have reading : Step.read value name = (do
      let read ← needed [] (Query.ofName? name)
      let source ← needed [] (value.text? "from")
      let query ← needed [.present source] (read value)
      return .ask source query) := by
    simp only [List.mem_cons, List.not_mem_nil, or_false] at known
    rcases known with rfl | rfl | rfl | rfl <;> rfl
  -- whether the particulars will do is the only thing left to see
  cases result : read value with
  | none =>
    simp [Step.ofJson, named, reading, h, placed, result, needed, bind, Except.bind]
  | some query =>
    simp [Step.ofJson, named, reading, h, placed, result, needed, bind, Except.bind, pure,
      Except.pure]

/-- A question to an expression as a JSON value. -/
theorem Request.ofJson?_ask {value expression : Json} {name : String} {read : Json → Option Query}
    {recipe : Recipe} (known : name ∈ ["get", "json", "serde", "debug"])
    (named : value.text? "op" = some name) (subject : value.field? "value" = some expression)
    (built : Recipe.ofJson? expression = some recipe) (h : Query.ofName? name = some read) :
    Request.ofJson? value = (read value).map (Request.ask recipe) := by
  -- in a request the expression is read before the particulars
  have reading : Request.ofJson? value = (do
      return .ask (← Recipe.ofJson? (← value.field? "value")) (← (← Query.ofName? name) value)) := by
    rw [Request.ofJson?, named]
    simp only [List.mem_cons, List.not_mem_nil, or_false] at known
    rcases known with rfl | rfl | rfl | rfl <;> rfl
  rw [reading, subject, h]
  show (Recipe.ofJson? expression >>= fun recipe => read value >>= fun query =>
    some (Request.ask recipe query)) = _
  rw [built]
  cases read value <;> rfl

/-- A question to a slot that holds a record is answered as the record answers it. -/
theorem Step.run_ask {store : Store} {source : String} {record : Record}
    (held : store[source]? = some record) (query : Query) :
    ((ask source query).run store).1 = record.answer query := by
  cases answered : record.answer query with
  | ok answer => rw [run_of_ok (Performs.ask held answered).perform_eq]
  | error failure =>
    have fails : (ask source query).perform store = .error failure := by
      rw [perform, Store.fetch_eq_ok_iff.mpr held]
      show (record.answer query >>= fun answer => .ok (answer, store)) = _
      rw [answered]
      rfl
    rw [run_of_error fails]

/-- **A slot answers like the expression of what it holds**, also where the particulars will not do. -/
theorem replyTo_eq_run_of_asksAlike {store : Store} {slot : String} {recipe : Recipe}
    (held : store[slot]? = some recipe.record) {step request expression : Json}
    (built : Recipe.ofJson? expression = some recipe)
    (alike : step.AsksAlike request slot expression) {line : String}
    (document : Json.read? line = some request) (small : request.withinLimits = true) :
    replyTo line = .outcome ((Step.ofJson step).run store).1 := by
  obtain ⟨⟨name, known, namedStep, namedRequest⟩, source, subject, particulars⟩ := alike
  -- both questions are read by one reader, which sees the same particulars
  obtain ⟨read, h, same⟩ := Query.ofName?_congr known particulars
  have request_eq : Request.ofLine? line = (read request).map (.ask recipe) := by
    rw [Request.ofLine?, document]
    show (if request.withinLimits then Request.ofJson? request else none) = _
    rw [if_pos small, Request.ofJson?_ask known namedRequest subject built h]
  rw [replyTo, request_eq, Step.ofJson_ask known namedStep source h, same]
  cases read request with
  | some query =>
    show Reply.outcome (recipe.record.answer query) = .outcome ((Step.ask slot query).run store).1
    rw [Step.run_ask held]
  | none =>
    -- the request is none, and the step is incomplete after a check that passes
    have present : store.verify (.present slot) = .ok () :=
      Except.bind_eq_ok_iff.mpr ⟨_, Store.fetch_eq_ok_iff.mpr held, rfl⟩
    have fails : (Step.incomplete [.present slot]).perform store = .error .badInput := by
      rw [Step.perform, Store.verifyAll, present]
      rfl
    show Reply.outcome (.error .badInput) = .outcome ((Step.incomplete [.present slot]).run store).1
    rw [Step.run_of_error fails]

/-- Questions to a slot are answered like the same questions to the expression of a recipe, those that are
put as JSON values included. -/
structure Store.AnswersLike (store : Store) (slot : String) (recipe : Recipe) : Prop where
  query (query : Query) :
    (Request.ask recipe query).reply = .outcome ((Step.ask slot query).run store).1
  json (step request : Json) (line : String) (alike : step.AsksAlike request slot recipe.toJson)
    (document : Json.read? line = some request) (small : request.withinLimits = true) :
    replyTo line = .outcome ((Step.ofJson step).run store).1

/-- **Every record that a program can reach is one that the constructors build.** It keeps what they
guarantee, and so do its parts; it equals what an expression of the four constructors builds, one that can
be read; and each question to its slot, well put or not, is answered like the same question to that
expression. -/
theorem Program.held_record (program : Program) (slot : String) (record : Record)
    (held : (program.run ∅).2[slot]? = some record) :
    record.Guaranteed ∧
      ∃ recipe : Recipe, recipe ≠ .sample ∧ recipe.record = record ∧
        Recipe.ofJson? recipe.toJson = some recipe ∧
        (program.run ∅).2.AnswersLike slot recipe := by
  -- the recipe is read off the record, whatever way the record came into its slot
  have standard := program.standard_run Store.Standard.empty slot record held
  have built : record.recipe.record = record := standard.record_recipe
  rw [← built] at held
  refine ⟨standard.guaranteed, record.recipe, record.recipe_ne_sample, built,
    record.recipe.ofJson?_toJson, ?_, ?_⟩
  · intro query
    rw [Step.run_ask held]
    rfl
  · intro step request line alike document small
    exact replyTo_eq_run_of_asksAlike held record.recipe.ofJson?_toJson alike document small

/-- A person that a fixture gave for another is held as it was made, after a trade that failed too. -/
theorem Program.held_record_traded :
    let store := (Program.run [.make "f" (.fixture "Ann" (-1) "" "x"),
      .make "p" (.leaf (.person "Bob" 2 "")), .swap "f" "p", .swap "p" "f"] ∅).2
    store["p"]? = some (.person (.new "Ann" (-1) "")) ∧
      (Record.person (.new "Ann" (-1) "")).Guaranteed ∧
        ∃ recipe : Recipe, recipe ≠ .sample ∧ recipe.record = .person (.new "Ann" (-1) "") ∧
          Recipe.ofJson? recipe.toJson = some recipe ∧ store.AnswersLike "p" recipe :=
  ⟨by decide, held_record _ "p" (.person (.new "Ann" (-1) "")) (by decide)⟩

end Profiles
