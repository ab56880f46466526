import Profiles.Program

/-!
# What a step does

`Step.Performs` says what a step can do to a store, with one rule for each kind of step that can succeed: what the
store has to hold, what is answered, and what is left. `Step.run_eq_ok_iff` states that these rules are all that a step
does when it succeeds, so a property of steps is proved rule by rule and no proof has to take the look-ups apart again.
An incomplete step has no rule.

A step that fails leaves the store as it was, so a run of a step either follows a rule or stays
(`Step.run_cases`). What no step changes is the same at the end of a program (`Program.unchanged_run`).

`Program.Performs` chains the rules: it says of a program that each of its steps succeeds, what they answer, and
what the last of them leaves.
-/

namespace Profiles

/-! ### Rules -/

namespace Step

/-- **What a step that succeeds answers and leaves behind.** -/
inductive Performs (store : Store) : Step → Answer → Store → Prop where
  | make (target : String) (recipe : Recipe) :
      Performs store (.make target recipe) (.view recipe.record) (store.insert target recipe.record)
  | clone {source : String} {record : Record} (target : String)
      (held : store[source]? = some record) :
      Performs store (.clone source target) (.view record) (store.insert target record)
  | move {source : String} {record : Record} (target : String)
      (held : store[source]? = some record) :
      Performs store (.move source target) (.view record)
        ((store.erase source).insert target record)
  | drop {source : String} {record : Record} (held : store[source]? = some record) :
      Performs store (.drop source) (.view record) (store.erase source)
  | bundle {person group workspace : String} {p : Person} {g : Group} {w : Workspace}
      (target : String) (first : store[person]? = some (.person p))
      (second : store[group]? = some (.group g))
      (third : store[workspace]? = some (.workspace w)) :
      Performs store (.bundle person group workspace target) (.view (.fixture ⟨p, g, w⟩))
        (store.insert target (.fixture ⟨p, g, w⟩))
  | extract {source name : String} {fixture : Fixture} {part : Part} (target : String)
      (held : store[source]? = some (.fixture fixture)) (named : Part.ofName? name = some part) :
      Performs store (.extract source name target) (.view (fixture.part part))
        (store.insert target (fixture.part part))
  | swap {fixture part : String} {old new : Fixture} {given taken : Record}
      (whole : store[fixture]? = some (.fixture old)) (piece : store[part]? = some given)
      (traded : old.exchange? given = some (new, taken)) :
      Performs store (.swap fixture part) (.exchanged (.fixture new) taken)
        ((store.insert fixture (.fixture new)).insert part taken)
  | assign {source target : String} {record old : Record} (held : store[source]? = some record)
      (replaced : store[target]? = some old) (kind : record.kind = old.kind) :
      Performs store (.assign source target) (.view record) (store.insert target record)
  | ask {source : String} {record : Record} {query : Query} {answer : Answer}
      (held : store[source]? = some record) (answered : record.answer query = .ok answer) :
      Performs store (.ask source query) answer store
  | eq {a b : String} {first second : Record} {answer : Answer}
      (left : store[a]? = some first) (right : store[b]? = some second)
      (answered : first.compare second = .ok answer) :
      Performs store (.eq a b) answer store
  | dump : Performs store .dump (.listing store.toList) store

variable {store store' : Store} {step : Step} {answer : Answer}

/-- A step that succeeds follows a rule. -/
theorem performs_of_perform (h : step.perform store = .ok (answer, store')) :
    Performs store step answer store' := by
  -- a step that can fail is a chain of look-ups, and each of those that succeed has found what a rule asks for
  cases step with
  | make target recipe =>
    obtain ⟨rfl, rfl⟩ := Prod.mk.inj (Except.ok.inj h)
    exact .make target recipe
  | clone source target =>
    obtain ⟨record, held, h⟩ := Except.bind_eq_ok_iff.mp h
    obtain ⟨rfl, rfl⟩ := Prod.mk.inj (Except.ok.inj h)
    exact .clone target (Store.fetch_eq_ok_iff.mp held)
  | move source target =>
    obtain ⟨record, held, h⟩ := Except.bind_eq_ok_iff.mp h
    obtain ⟨rfl, rfl⟩ := Prod.mk.inj (Except.ok.inj h)
    exact .move target (Store.fetch_eq_ok_iff.mp held)
  | drop source =>
    obtain ⟨record, held, h⟩ := Except.bind_eq_ok_iff.mp h
    obtain ⟨rfl, rfl⟩ := Prod.mk.inj (Except.ok.inj h)
    exact .drop (Store.fetch_eq_ok_iff.mp held)
  | bundle person group workspace target =>
    obtain ⟨p, first, h⟩ := Except.bind_eq_ok_iff.mp h
    obtain ⟨g, second, h⟩ := Except.bind_eq_ok_iff.mp h
    obtain ⟨w, third, h⟩ := Except.bind_eq_ok_iff.mp h
    obtain ⟨rfl, rfl⟩ := Prod.mk.inj (Except.ok.inj h)
    exact .bundle target (Store.person_eq_ok_iff.mp first) (Store.group_eq_ok_iff.mp second)
      (Store.workspace_eq_ok_iff.mp third)
  | extract source name target =>
    obtain ⟨fixture, held, h⟩ := Except.bind_eq_ok_iff.mp h
    -- the name of the part is looked at last
    cases named : Part.ofName? name with
    | none =>
      rw [named] at h
      cases h
    | some part =>
      rw [named] at h
      obtain ⟨rfl, rfl⟩ := Prod.mk.inj (Except.ok.inj h)
      exact .extract target (Store.fixture_eq_ok_iff.mp held) named
  | swap fixture part =>
    -- the fixture is looked up twice, the first time for its presence only
    obtain ⟨-, -, h⟩ := Except.bind_eq_ok_iff.mp h
    obtain ⟨given, piece, h⟩ := Except.bind_eq_ok_iff.mp h
    obtain ⟨old, whole, h⟩ := Except.bind_eq_ok_iff.mp h
    cases traded : old.exchange? given with
    | none =>
      rw [traded] at h
      cases h
    | some result =>
      rw [traded] at h
      obtain ⟨rfl, rfl⟩ := Prod.mk.inj (Except.ok.inj h)
      exact .swap (Store.fixture_eq_ok_iff.mp whole) (Store.fetch_eq_ok_iff.mp piece) traded
  | assign source target =>
    obtain ⟨record, held, h⟩ := Except.bind_eq_ok_iff.mp h
    obtain ⟨old, replaced, h⟩ := Except.bind_eq_ok_iff.mp h
    split at h
    · next kind =>
      obtain ⟨rfl, rfl⟩ := Prod.mk.inj (Except.ok.inj h)
      exact .assign (Store.fetch_eq_ok_iff.mp held) (Store.fetch_eq_ok_iff.mp replaced) kind
    · cases h
  | ask source query =>
    obtain ⟨record, held, h⟩ := Except.bind_eq_ok_iff.mp h
    -- the answer is that of the record, which may refuse the question
    obtain ⟨result, answered, h⟩ := Except.bind_eq_ok_iff.mp h
    obtain ⟨rfl, rfl⟩ := Prod.mk.inj (Except.ok.inj h)
    exact .ask (Store.fetch_eq_ok_iff.mp held) answered
  | eq a b =>
    obtain ⟨first, left, h⟩ := Except.bind_eq_ok_iff.mp h
    obtain ⟨second, right, h⟩ := Except.bind_eq_ok_iff.mp h
    obtain ⟨result, answered, h⟩ := Except.bind_eq_ok_iff.mp h
    obtain ⟨rfl, rfl⟩ := Prod.mk.inj (Except.ok.inj h)
    exact .eq (Store.fetch_eq_ok_iff.mp left) (Store.fetch_eq_ok_iff.mp right) answered
  | dump =>
    obtain ⟨rfl, rfl⟩ := Prod.mk.inj (Except.ok.inj h)
    exact .dump
  | incomplete checks =>
    -- whatever the checks find, there is nothing to do after them
    obtain ⟨-, -, h⟩ := Except.bind_eq_ok_iff.mp h
    cases h

/-- A step that follows a rule succeeds. -/
theorem Performs.perform_eq (h : Performs store step answer store') :
    step.perform store = .ok (answer, store') := by
  -- what each rule asks for makes the look-ups succeed, in their order
  cases h with
  | make target recipe => rfl
  | clone target held | move target held | drop held =>
    exact Except.bind_eq_ok_iff.mpr ⟨_, Store.fetch_eq_ok_iff.mpr held, rfl⟩
  | bundle target first second third =>
    refine Except.bind_eq_ok_iff.mpr ⟨_, Store.person_eq_ok_iff.mpr first, ?_⟩
    refine Except.bind_eq_ok_iff.mpr ⟨_, Store.group_eq_ok_iff.mpr second, ?_⟩
    exact Except.bind_eq_ok_iff.mpr ⟨_, Store.workspace_eq_ok_iff.mpr third, rfl⟩
  | extract target held named =>
    refine Except.bind_eq_ok_iff.mpr ⟨_, Store.fixture_eq_ok_iff.mpr held, ?_⟩
    rw [named]
    rfl
  -- the fixture is there for both of its look-ups
  | swap whole piece traded =>
    refine Except.bind_eq_ok_iff.mpr ⟨_, Store.fetch_eq_ok_iff.mpr whole, ?_⟩
    refine Except.bind_eq_ok_iff.mpr ⟨_, Store.fetch_eq_ok_iff.mpr piece, ?_⟩
    refine Except.bind_eq_ok_iff.mpr ⟨_, Store.fixture_eq_ok_iff.mpr whole, ?_⟩
    rw [traded]
    rfl
  | assign held replaced kind =>
    refine Except.bind_eq_ok_iff.mpr ⟨_, Store.fetch_eq_ok_iff.mpr held, ?_⟩
    refine Except.bind_eq_ok_iff.mpr ⟨_, Store.fetch_eq_ok_iff.mpr replaced, ?_⟩
    exact if_pos kind
  | ask held answered =>
    refine Except.bind_eq_ok_iff.mpr ⟨_, Store.fetch_eq_ok_iff.mpr held, ?_⟩
    exact Except.bind_eq_ok_iff.mpr ⟨_, answered, rfl⟩
  | eq left right answered =>
    refine Except.bind_eq_ok_iff.mpr ⟨_, Store.fetch_eq_ok_iff.mpr left, ?_⟩
    refine Except.bind_eq_ok_iff.mpr ⟨_, Store.fetch_eq_ok_iff.mpr right, ?_⟩
    exact Except.bind_eq_ok_iff.mpr ⟨_, answered, rfl⟩
  | dump => rfl

/-- A step follows a rule, or it fails and the store stays. -/
theorem run_cases (step : Step) (store : Store) :
    (∃ answer store', Performs store step answer store' ∧ step.run store = (.ok answer, store')) ∨
      ∃ failure, step.run store = (.error failure, store) := by
  cases h : step.perform store with
  | ok result => exact .inl ⟨result.1, result.2, performs_of_perform h, run_of_ok h⟩
  | error failure => exact .inr ⟨failure, run_of_error h⟩

/-- **The rules are what steps do.** A run that gives an answer has followed one. -/
theorem run_eq_ok_iff : step.run store = (.ok answer, store') ↔ Performs store step answer store' := by
  constructor
  · intro h
    -- the run that gives an answer is not one that failed
    rcases run_cases step store with ⟨answer, store', performs, run⟩ | ⟨failure, run⟩
    · obtain ⟨answered, rfl⟩ := Prod.mk.inj (run.symm.trans h)
      obtain rfl := Except.ok.inj answered
      exact performs
    · cases run.symm.trans h
  · intro h
    exact run_of_ok h.perform_eq

/-- A step that is answered has followed a rule. -/
theorem exists_performs (answered : (step.run store).1 = .ok answer) :
    ∃ store', Performs store step answer store' ∧ step.run store = (.ok answer, store') := by
  have run : step.run store = (.ok answer, (step.run store).2) := Prod.ext answered rfl
  exact ⟨_, run_eq_ok_iff.mp run, run⟩

end Step

namespace Program

/-- **A program all of whose steps succeed**, with their answers and the store that they leave. -/
inductive Performs : Store → Program → List Answer → Store → Prop where
  | nil (store : Store) : Performs store [] [] store
  | cons {store middle store' : Store} {step : Step} {program : Program} {answer : Answer}
      {answers : List Answer} (first : step.Performs store answer middle)
      (rest : Performs middle program answers store') :
      Performs store (step :: program) (answer :: answers) store'

namespace Performs

variable {store middle store' : Store} {program further : Program} {answers answers' : List Answer}

theorem append (first : Performs store program answers middle)
    (rest : Performs middle further answers' store') :
    Performs store (program ++ further) (answers ++ answers') store' := by
  induction first with
  | nil store => exact rest
  | cons step _ ih => exact .cons step (ih rest)

/-- Running such a program gives its answers and its store. -/
theorem run_eq (h : Performs store program answers store') :
    program.run store = (answers.map .ok, store') := by
  induction h with
  | nil store => rfl
  | cons first _ ih => rw [run_cons, Step.run_of_ok first.perform_eq, ih, List.map_cons]

end Performs

end Program

/-- **What no step of a program changes, a run does not change**, whatever is looked at in the store. -/
theorem Program.unchanged_run {α : Type} (look : Store → α) {program : Program}
    (unchanged : ∀ step ∈ program, ∀ store, look (step.run store).2 = look store) (store : Store) :
    look (program.run store).2 = look store := by
  induction program generalizing store with
  | nil => rfl
  | cons step program ih =>
    -- the first step changes nothing that is looked at, and nor do those behind it
    have first := unchanged step List.mem_cons_self store
    have rest := ih (fun other h => unchanged other (List.mem_cons_of_mem step h)) (step.run store).2
    rw [run_cons]
    exact rest.trans first

end Profiles
