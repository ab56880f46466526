import Profiles.Recipe
import Profiles.Store

/-!
# Programs

What a program does to a store, one step at a time. `Step.writes` lists the slots that a step may change,
and `Step.Mentions` holds of every slot whose content can play a part in it: those it names, and for a
dump all.

A step is read from a JSON object member by member, and most members are read only when they are needed,
after some checks on slots. An object that lacks a member is a step as well, an `incomplete` one: it makes
the checks that come before that member, and always fails. So a program has a step for each thing that it
was given.

`Step.perform` is what a step does to a store where it succeeds, and the first thing that is wrong where it
does not. All checks of a step come before its first change, so `Step.run` can keep the store as it was
when the step fails. A program runs its steps in order and goes on after a failure; it gives one outcome
a step.
-/

namespace Profiles

/-! ### Steps -/

/-- What is done to a store in one step. A slot is given by its name. -/
inductive Step where
  /-- A record is built into a slot. -/
  | make (target : String) (recipe : Recipe)
  /-- A slot gets what another holds. -/
  | clone (source target : String)
  /-- A slot gets what another holds, which is empty then. -/
  | move (source target : String)
  /-- A slot is emptied. -/
  | drop (source : String)
  /-- A slot gets the fixture of what three slots hold. -/
  | bundle (person group workspace target : String)
  /-- A slot gets a part of the fixture that another holds. -/
  | extract (source part target : String)
  /-- A fixture trades the part of its kind with a slot. -/
  | swap (fixture part : String)
  /-- A slot gets what another holds of the same kind. -/
  | assign (source target : String)
  /-- A question is put to the record in a slot. -/
  | ask (source : String) (query : Query)
  /-- Two slots are compared. -/
  | eq (a b : String)
  /-- All slots are listed. -/
  | dump
  /-- Some checks are made, and then what to do is found missing. -/
  | incomplete (checks : List Check)
deriving DecidableEq

namespace Step

/-- The slots that a step may change. -/
def writes : Step → List String
  | make target _ => [target]
  | clone _ target => [target]
  | move source target => [source, target]
  | drop source => [source]
  | bundle _ _ _ target => [target]
  | extract _ _ target => [target]
  | swap fixture part => [fixture, part]
  | assign _ target => [target]
  | ask _ _ | eq _ _ | dump | incomplete _ => []

/-- The slots that a step names. -/
def names : Step → List String
  | make target _ => [target]
  | clone source target => [source, target]
  | move source target => [source, target]
  | drop source => [source]
  | bundle person group workspace target => [person, group, workspace, target]
  | extract source _ target => [source, target]
  | swap fixture part => [fixture, part]
  | assign source target => [source, target]
  | ask source _ => [source]
  | eq a b => [a, b]
  | dump => []
  | incomplete checks => checks.map Check.slot

/-- Whether the content of a slot can play a part in a step. -/
def Mentions (step : Step) (slot : String) : Prop := step = dump ∨ slot ∈ step.names

/-- A step is a dump or has a list of names, and both can be decided. -/
instance (step : Step) (slot : String) : Decidable (step.Mentions slot) :=
  inferInstanceAs (Decidable (_ ∨ _))

/-- A step never changes a slot that it does not name. -/
theorem names_of_writes (step : Step) : ∀ slot ∈ step.writes, slot ∈ step.names := by
  cases step <;> simp [writes, names]

/-! ### Reading steps -/

/-- What has been read, or the checks that come before what is missing. -/
abbrev Reading := Except (List Check)

/-- Something that must be there, and is needed after the given checks. -/
def needed {α : Type} (checks : List Check) : Option α → Reading α
  | some a => .ok a
  | none => .error checks

/-- **Reading a step** of the given name from the members of an object. -/
def read (value : Json) : String → Reading Step
  -- both are needed before any slot is looked at
  | "make" => do
    let target ← needed [] (value.text? "to")
    let recipe ← needed [] (value.field? "value" >>= Recipe.ofJson?)
    return make target recipe
  | "clone" => do
    -- the target is read after the source has been looked up
    let source ← needed [] (value.text? "from")
    let target ← needed [.present source] (value.text? "to")
    return clone source target
  | "move" => do
    let source ← needed [] (value.text? "from")
    let target ← needed [] (value.text? "to")
    return move source target
  | "drop" => do
    let source ← needed [] (value.text? "from")
    return drop source
  | "bundle" => do
    -- a slot is read, then checked, before the next one is read
    let person ← needed [] (value.text? "person")
    let first : Check := .holds person .person
    let group ← needed [first] (value.text? "group")
    let second : Check := .holds group .group
    let workspace ← needed [first, second] (value.text? "workspace")
    let third : Check := .holds workspace .workspace
    let target ← needed [first, second, third] (value.text? "to")
    return bundle person group workspace target
  | "extract" => do
    let source ← needed [] (value.text? "from")
    -- whether there is such a part is asked when the step is made, not here
    let part ← needed [.holds source .fixture] (value.text? "field")
    let target ← needed [.holds source .fixture] (value.text? "to")
    return extract source part target
  | "swap" => do
    let fixture ← needed [] (value.text? "fixture")
    let part ← needed [] (value.text? "part")
    return swap fixture part
  | "assign" => do
    let source ← needed [] (value.text? "from")
    let target ← needed [.present source] (value.text? "to")
    return assign source target
  | "eq" => do
    let a ← needed [] (value.text? "a")
    let b ← needed [.present a] (value.text? "b")
    return eq a b
  | "dump" => return dump
  -- any other name asks a question; its particulars come after the slot has been looked up
  | name => do
    let ask? ← needed [] (Query.ofName? name)
    let source ← needed [] (value.text? "from")
    let query ← needed [.present source] (ask? value)
    return ask source query

/-- The step that a JSON value gives. -/
def ofJson (value : Json) : Step :=
  match needed [] (value.text? "do") >>= read value with
  | .ok step => step
  | .error checks => incomplete checks

end Step

/-! ### Running programs -/

/-- A record is put into a slot and shown. -/
def Store.put (store : Store) (slot : String) (record : Record) : Answer × Store :=
  (.view record, store.insert slot record)

namespace Step

/-- **What a step answers and leaves behind**, or why it fails. -/
def perform (store : Store) : Step → Except Failure (Answer × Store)
  | make target recipe => return store.put target recipe.record
  | clone source target => do
    let record ← store.fetch source
    return store.put target record
  | move source target => do
    let record ← store.fetch source
    -- the source is emptied first, so that it may be the target
    return Store.put (store.erase source) target record
  | drop source => do
    let record ← store.fetch source
    return (.view record, store.erase source)
  | bundle person group workspace target => do
    let person ← store.person person
    let group ← store.group group
    let workspace ← store.workspace workspace
    return store.put target (.fixture { person, group, workspace })
  | extract source part target => do
    -- an unknown part is found out about only after the fixture has been
    let fixture ← store.fixture source
    match Part.ofName? part with
    | some part => return store.put target (fixture.part part)
    | none => throw .badInput
  | swap fixture part => do
    -- both slots must hold something before it is asked of what kind
    let _ ← store.fetch fixture
    let record ← store.fetch part
    let held ← store.fixture fixture
    match held.exchange? record with
    | some (held, record) =>
      return (.exchanged (.fixture held) record,
        (store.insert fixture (.fixture held)).insert part record)
    | none => throw (.wrongKind part)
  | assign source target => do
    let record ← store.fetch source
    let old ← store.fetch target
    if record.kind = old.kind then return store.put target record else throw (.wrongKind target)
  | ask source query => do
    let record ← store.fetch source
    return (← record.answer query, store)
  | eq a b => do
    let a ← store.fetch a
    let b ← store.fetch b
    return (← a.compare b, store)
  | dump => return (.listing store.toList, store)
  | incomplete checks => do
    store.verifyAll checks
    throw .badInput

/-- **A step is run**: its outcome, and the store after it. A step that fails changes nothing. -/
def run (step : Step) (store : Store) : Outcome × Store :=
  match step.perform store with
  | .ok (answer, store) => (.ok answer, store)
  | .error failure => (.error failure, store)

theorem run_of_ok {step : Step} {store store' : Store} {answer : Answer}
    (h : step.perform store = .ok (answer, store')) : step.run store = (.ok answer, store') := by
  rw [run, h]

theorem run_of_error {step : Step} {store : Store} {failure : Failure}
    (h : step.perform store = .error failure) : step.run store = (.error failure, store) := by
  rw [run, h]

end Step

/-- The steps of a program, in order. -/
abbrev Program := List Step

/-- **A program is run**: the outcome of each step, and the store after the last. -/
def Program.run : Program → Store → List Outcome × Store
  | [], store => ([], store)
  -- a failure does not end the program: the next step gets the store as it is
  | step :: program, store =>
    let (outcome, store) := step.run store
    let (outcomes, store) := Program.run program store
    (outcome :: outcomes, store)

namespace Program

@[simp] theorem run_nil (store : Store) : run [] store = ([], store) := rfl

@[simp] theorem run_cons (step : Step) (program : Program) (store : Store) :
    run (step :: program) store =
      ((step.run store).1 :: (run program (step.run store).2).1,
        (run program (step.run store).2).2) := rfl

/-- A program in two pieces runs the second on what the first leaves behind. -/
theorem run_append (program further : Program) (store : Store) :
    run (program ++ further) store =
      ((run program store).1 ++ (run further (run program store).2).1,
        (run further (run program store).2).2) := by
  induction program generalizing store with
  | nil => rfl
  -- the first step is the same in both, and leaves the same store to the rest
  | cons step program ih => simp [ih]

/-- A program gives one outcome a step. -/
@[simp] theorem length_run (program : Program) (store : Store) :
    (run program store).1.length = program.length := by
  induction program generalizing store with
  | nil => rfl
  | cons step program ih => simp [ih]

end Program

end Profiles
