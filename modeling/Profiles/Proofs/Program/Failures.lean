import Profiles.Proofs.Program.Effects

/-!
# Failing steps

A step that fails leaves no trace. `Step.run` puts that into its definition, by giving the store back; what
stands behind it is that no step changes anything before the last of its checks. So the commands of a step,
made on the spot and never undone, come to the same (`Step.runInPlace_eq_run`).

These commands are `Step.inPlace`, the same steps made on a store that is changed on the spot. Each look-up and each
change is a command of its own, and what has been changed stays changed when a later command fails: nothing puts
a store back there. A step has its look-ups and its changes in the order in which they are stated for it.

For programs this means that a failing step may as well not be there. Any choice of failing steps can be
struck out of a program, and the others answer as before and leave the same store
(`Program.run_deleting_failures`).
-/

namespace Profiles

/-! ### Steps in place -/

/-- Commands on a store. Where one fails, the store stays as the commands before it have left it. -/
abbrev InPlace := ExceptT Failure (StateM Store)

namespace InPlace

/-- Something is looked up, which changes nothing. -/
def look {α : Type} (find : Store → Except Failure α) : InPlace α :=
  ExceptT.mk fun store => (find store, store)

/-- A record is put into a slot. -/
def put (slot : String) (record : Record) : InPlace Unit := modify (·.insert slot record)

/-- A slot is emptied. -/
def clear (slot : String) : InPlace Unit := modify (·.erase slot)

end InPlace

open InPlace in
/-- **The commands of a step.** -/
def Step.inPlace : Step → InPlace Answer
  | make target recipe => do
    put target recipe.record
    return .view recipe.record
  | clone source target => do
    let record ← look (·.fetch source)
    put target record
    return .view record
  | move source target => do
    let record ← look (·.fetch source)
    clear source
    put target record
    return .view record
  | drop source => do
    let record ← look (·.fetch source)
    clear source
    return .view record
  | bundle person group workspace target => do
    let person ← look (·.person person)
    let group ← look (·.group group)
    let workspace ← look (·.workspace workspace)
    put target (.fixture { person, group, workspace })
    return .view (.fixture { person, group, workspace })
  | extract source part target => do
    let fixture ← look (·.fixture source)
    match Part.ofName? part with
    | some part =>
      put target (fixture.part part)
      return .view (fixture.part part)
    | none => throw .badInput
  | swap fixture part => do
    let _ ← look (·.fetch fixture)
    let record ← look (·.fetch part)
    let held ← look (·.fixture fixture)
    match held.exchange? record with
    | some (held, taken) =>
      put fixture (.fixture held)
      put part taken
      return .exchanged (.fixture held) taken
    | none => throw (.wrongKind part)
  | assign source target => do
    let record ← look (·.fetch source)
    let old ← look (·.fetch target)
    if record.kind = old.kind then
      put target record
      return .view record
    else
      throw (.wrongKind target)
  | ask source query => do
    let record ← look (·.fetch source)
    look fun _ => record.answer query
  | eq a b => do
    let a ← look (·.fetch a)
    let b ← look (·.fetch b)
    look fun _ => a.compare b
  | dump => return .listing (← get).toList
  | incomplete checks => do
    look (·.verifyAll checks)
    throw .badInput

/-- A step is run in place: its outcome, and the store that its commands leave. -/
def Step.runInPlace (step : Step) (store : Store) : Outcome × Store := step.inPlace.run.run store

/-! ### Answers that carry an error -/

/-- An answer that says of what kind the error is. -/
def Outcome.CarriesError (outcome : Outcome) : Prop :=
  ∃ kind, outcome.toJson.field? "error" = some (.str kind)

theorem Failure.field?_error (failure : Failure) :
    failure.toJson.field? "error" = some (.str failure.kind) := by
  -- the name of a slot is told only if it is not empty
  have text (slot kind : String) : Json.field? (.obj (("error", .str kind)
      :: if slot = "" then [] else [("message", .str slot)])) "error" = some (.str kind) := by
    split <;> rfl
  cases failure with
  | badInput | kindsDiffer | exhausted calls => rfl
  | noSuchSlot slot | wrongKind slot => exact text slot _

theorem Answer.field?_error (answer : Answer) : answer.toJson.field? "error" = none := by
  -- a view begins with its kind, and no other answer has a member of that name
  cases answer with
  | view record => cases record <;> rfl
  | exchanged fixture part | text content | events calls | equal same | listing entries => rfl

theorem Outcome.carriesError_iff (outcome : Outcome) :
    outcome.CarriesError ↔ ∃ failure, outcome = .error failure := by
  cases outcome with
  | ok answer =>
    -- an answer and a failure are told apart by that member
    have shown : Outcome.toJson (.ok answer) = answer.toJson := rfl
    simp [CarriesError, shown, Answer.field?_error]
  | error failure =>
    have named := failure.field?_error
    exact ⟨fun _ => ⟨failure, rfl⟩, fun _ => ⟨failure.kind, named⟩⟩

/-! ### Checks come first -/

namespace Step

/-- Commands that come to the same as an attempt: they give its answer and leave its store, or they fail as
it does and leave the store as it was. -/
def Realizes (store : Store) (commands : InPlace Answer)
    (attempt : Except Failure (Answer × Store)) : Prop :=
  commands.run.run store =
    match attempt with
    | .ok (answer, store') => (.ok answer, store')
    | .error failure => (.error failure, store)

/-- A look-up in place either fails with nothing changed, or goes on with what it found. -/
theorem Realizes.look {α : Type} {store : Store} (find : Store → Except Failure α)
    {rest : α → InPlace Answer} {rest' : α → Except Failure (Answer × Store)}
    (h : ∀ a, Realizes store (rest a) (rest' a)) :
    Realizes store (InPlace.look find >>= rest) (find store >>= rest') := by
  unfold Realizes
  show (ExceptT.bindCont rest (find store)).run store = _
  cases find store with
  | ok a => exact h a
  | error failure => rfl

/-- An answer that is looked up last is given as it is. -/
theorem Realizes.answer (store : Store) (outcome : Outcome) :
    Realizes store (InPlace.look fun _ => outcome) (outcome >>= fun answer => .ok (answer, store)) := by
  cases outcome with
  | ok answer => rfl
  | error failure => rfl

/-- The commands of a step do what the step does. -/
theorem inPlace_realizes (step : Step) (store : Store) :
    Realizes store step.inPlace (step.perform store) := by
  cases step with
  | make target recipe => rfl
  -- behind the last look-up nothing can fail, so the changes of both sides are the same
  | clone source target | move source target | drop source => exact .look _ fun record => rfl
  | bundle person group workspace target =>
    exact .look _ fun p => .look _ fun g => .look _ fun w => rfl
  -- the name of the part is known or not before anything is written
  | extract source name target =>
    refine .look _ fun fixture => ?_
    cases Part.ofName? name with
    | none => rfl
    | some part => rfl
  -- the trade is made or refused before either slot is written
  | swap fixture part =>
    refine .look _ fun _ => .look _ fun given => .look _ fun held => ?_
    cases held.exchange? given with
    | none => rfl
    | some traded => rfl
  | assign source target =>
    refine .look _ fun record => .look _ fun old => ?_
    -- the kinds are compared before the slot is written
    by_cases kind : record.kind = old.kind
    · rw [if_pos kind, if_pos kind]
      rfl
    · rw [if_neg kind, if_neg kind]
      rfl
  -- the last look-up gives the answer itself
  | ask source query => exact .look _ fun record => .answer store (record.answer query)
  | eq a b => exact .look _ fun first => .look _ fun second => .answer store (first.compare second)
  | dump => rfl
  | incomplete checks => exact .look _ fun _ => rfl

/-- **No step changes anything before its last check.** -/
theorem runInPlace_eq_run (step : Step) (store : Store) : step.runInPlace store = step.run store :=
  step.inPlace_realizes store

theorem store_eq_of_failure {step : Step} {store : Store} {failure : Failure}
    (h : (step.run store).1 = .error failure) : (step.run store).2 = store := by
  rcases step.run_cases store with ⟨answer, store', -, run⟩ | ⟨failure', run⟩
  · rw [run] at h
    cases h
  · rw [run]

end Step

/-! ### Programs without some failing steps -/

/-- A list without its entries at the given places, counted from zero. -/
def deleting {α : Type} (places : Nat → Prop) [DecidablePred places] : List α → List α
  | [] => []
  | a :: rest =>
    if places 0 then deleting (fun n => places (n + 1)) rest
    else a :: deleting (fun n => places (n + 1)) rest

namespace Program

/-- Failing steps can be struck out: those that stay have their outcomes, and the store is the same. -/
theorem run_deleting (program : Program) (store : Store) (places : Nat → Prop) [DecidablePred places]
    (failing : ∀ place outcome, places place → (program.run store).1[place]? = some outcome →
      ∃ failure, outcome = .error failure) :
    run (deleting places program) store =
      (deleting places (program.run store).1, (program.run store).2) := by
  induction program generalizing store places with
  | nil => rfl
  | cons step program ih =>
    -- behind the first step each place is counted one lower
    have rest := ih (step.run store).2 (fun n => places (n + 1))
      fun place outcome struck there => failing (place + 1) outcome struck there
    rw [run_cons, deleting, deleting]
    by_cases struck : places 0
    · -- the first step is struck out, and the others begin on the store that it left, which is the old one
      obtain ⟨failure, failed⟩ := failing 0 _ struck rfl
      rw [if_pos struck, if_pos struck, ← rest, Step.store_eq_of_failure failed]
    -- a step that stays has its outcome and its store, and the others begin there
    · rw [if_neg struck, if_neg struck, run_cons, rest]

/-- **Failing steps leave no trace.** The commands of a step, made in place, leave what the step leaves, and
where the answer carries an error that is the store as it was. A program gives one outcome a step; without
any of its failing steps the others have the outcomes that they had, in their order, and the store in the end
is the same. -/
theorem run_deleting_failures (program : Program) (store : Store) :
    (∀ step : Step, step.runInPlace store = step.run store ∧
      ((step.run store).1.CarriesError → (step.run store).2 = store)) ∧
    (program.run store).1.length = program.length ∧
    ∀ (deleted : Nat → Prop) [DecidablePred deleted],
      (∀ place outcome, deleted place → (program.run store).1[place]? = some outcome →
        outcome.CarriesError) →
      run (deleting deleted program) store =
        (deleting deleted (program.run store).1, (program.run store).2) := by
  refine ⟨fun step => ⟨step.runInPlace_eq_run store, fun h => ?_⟩, program.length_run store, ?_⟩
  · obtain ⟨failure, failed⟩ := (Outcome.carriesError_iff _).mp h
    exact Step.store_eq_of_failure failed
  · intro deleted _ failing
    exact program.run_deleting store deleted fun place outcome struck there =>
      (Outcome.carriesError_iff outcome).mp (failing place outcome struck there)

/-- A trade with a slot that is empty yet and a bundle with a person for a group are struck out. -/
theorem run_deleting_failures_early_trade :
    let program : Program := [.make "p" (.leaf (.person "Ann" 7 "")), .swap "p" "q", .clone "p" "q",
      .bundle "p" "q" "w" "f", .move "p" "q"]
    let outcomes := (program.run ∅).1
    outcomes[1]? = some (.error (.noSuchSlot "q")) ∧ outcomes[3]? = some (.error (.wrongKind "q")) ∧
      run (deleting (fun n => n = 1 ∨ n = 3) program) ∅ =
        (deleting (fun n => n = 1 ∨ n = 3) outcomes, (program.run ∅).2) := by
  intro program outcomes
  have early : outcomes[1]? = some (.error (.noSuchSlot "q")) := rfl
  have person : outcomes[3]? = some (.error (.wrongKind "q")) := rfl
  refine ⟨early, person, (run_deleting_failures program ∅).2.2 _ ?_⟩
  rintro place outcome (rfl | rfl) there
  · obtain rfl := Option.some.inj (early.symm.trans there)
    exact ⟨_, Failure.field?_error _⟩
  · obtain rfl := Option.some.inj (person.symm.trans there)
    exact ⟨_, Failure.field?_error _⟩

end Program

end Profiles
