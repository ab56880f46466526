import Profiles.Proofs.Program.Effects

/-!
# Independent steps

Two steps can change places when neither may change a slot that the other mentions: the store they leave is
the same, and each has the outcome that it has in the other order (`Program.run_pair_comm`).

No pair of kinds is looked at for this. A step leaves alone every slot that it may not change
(`Step.getElem?_run`), and it sees no more of a store than the slots that it mentions (`Step.run_congr`): on
two stores that agree there it has one outcome, success or failure, and the stores still agree there when it
is done. So the step that comes second finds what it would have found first, and each slot is written by one
of the two at most.
-/

namespace Profiles

/-! ### Stores that agree -/

namespace Store

/-- Two stores hold the same in every slot of a set. -/
def AgreeOn (slots : String → Prop) (store store' : Store) : Prop :=
  ∀ slot, slots slot → store[slot]? = store'[slot]?

namespace AgreeOn

variable {slots : String → Prop} {store store' : Store}

theorem eq_of_forall (agree : store.AgreeOn slots store') (all : ∀ slot, slots slot) : store = store' :=
  Std.ExtTreeMap.ext_getElem? fun slot => agree slot (all slot)

theorem insert (agree : store.AgreeOn slots store') (slot : String) (record : Record) :
    AgreeOn slots (store.insert slot record) (store'.insert slot record) := by
  intro other mentioned
  -- where `other` is the slot itself the new record is in both, elsewhere the stores agreed before
  rw [getElem?_insert, getElem?_insert, agree other mentioned]

theorem erase (agree : store.AgreeOn slots store') (slot : String) :
    AgreeOn slots (store.erase slot) (store'.erase slot) := by
  intro other mentioned
  rw [getElem?_erase, getElem?_erase, agree other mentioned]

theorem fetch (agree : store.AgreeOn slots store') (slot : String) (mentioned : slots slot) :
    store.fetch slot = store'.fetch slot := by
  rw [Store.fetch, Store.fetch, agree slot mentioned]

theorem person (agree : store.AgreeOn slots store') (slot : String) (mentioned : slots slot) :
    store.person slot = store'.person slot := by
  rw [Store.person, Store.person, agree.fetch slot mentioned]

theorem group (agree : store.AgreeOn slots store') (slot : String) (mentioned : slots slot) :
    store.group slot = store'.group slot := by
  rw [Store.group, Store.group, agree.fetch slot mentioned]

theorem workspace (agree : store.AgreeOn slots store') (slot : String) (mentioned : slots slot) :
    store.workspace slot = store'.workspace slot := by
  rw [Store.workspace, Store.workspace, agree.fetch slot mentioned]

theorem fixture (agree : store.AgreeOn slots store') (slot : String) (mentioned : slots slot) :
    store.fixture slot = store'.fixture slot := by
  rw [Store.fixture, Store.fixture, agree.fetch slot mentioned]

theorem verifyAll (agree : store.AgreeOn slots store') (checks : List Check)
    (mentioned : ∀ check ∈ checks, slots check.slot) :
    store.verifyAll checks = store'.verifyAll checks := by
  induction checks with
  | nil => rfl
  | cons check checks ih =>
    have first : store.verify check = store'.verify check := by
      rw [verify, verify, agree.fetch check.slot (mentioned check List.mem_cons_self)]
    have rest := ih fun check' h => mentioned check' (List.mem_cons_of_mem check h)
    rw [Store.verifyAll, Store.verifyAll, first, rest]

end AgreeOn

end Store

namespace Step

/-! ### What a step sees -/

/-- Two attempts at a step end alike: they fail for one reason, or they give one answer and leave stores that
agree. -/
inductive Alike (slots : String → Prop) :
    Except Failure (Answer × Store) → Except Failure (Answer × Store) → Prop where
  | failed (failure : Failure) : Alike slots (.error failure) (.error failure)
  | succeeded (answer : Answer) {store store' : Store} (agree : store.AgreeOn slots store') :
      Alike slots (.ok (answer, store)) (.ok (answer, store'))

variable {slots : String → Prop} {store store' : Store} {step : Step}

/-- What begins with one look-up ends alike when it goes on alike from whatever is found. -/
theorem Alike.bind {α : Type} (found : Except Failure α)
    {rest rest' : α → Except Failure (Answer × Store)} (h : ∀ a, Alike slots (rest a) (rest' a)) :
    Alike slots (found >>= rest) (found >>= rest') := by
  cases found with
  | ok a => exact h a
  | error failure => exact .failed failure

/-- **A step does not see the slots that it does not mention.** -/
theorem perform_alike (agree : store.AgreeOn step.Mentions store') :
    Alike step.Mentions (step.perform store) (step.perform store') := by
  -- each slot that is looked up is mentioned, and what is written is written on both sides
  cases step with
  | make target recipe => exact .succeeded _ (agree.insert target recipe.record)
  | clone source target =>
    rw [perform, perform, agree.fetch source (.inr (by simp [names]))]
    exact .bind _ fun record => .succeeded _ (agree.insert target record)
  | move source target =>
    rw [perform, perform, agree.fetch source (.inr (by simp [names]))]
    exact .bind _ fun record => .succeeded _ ((agree.erase source).insert target record)
  | drop source =>
    rw [perform, perform, agree.fetch source (.inr (by simp [names]))]
    exact .bind _ fun record => .succeeded _ (agree.erase source)
  | bundle person group workspace target =>
    rw [perform, perform, agree.person person (.inr (by simp [names])),
      agree.group group (.inr (by simp [names])), agree.workspace workspace (.inr (by simp [names]))]
    refine .bind _ fun p => .bind _ fun g => .bind _ fun w => ?_
    exact .succeeded _ (agree.insert target _)
  | extract source name target =>
    rw [perform, perform, agree.fixture source (.inr (by simp [names]))]
    refine .bind _ fun fixture => ?_
    -- the name is known on both sides or on neither
    cases Part.ofName? name with
    | none => exact .failed _
    | some part => exact .succeeded _ (agree.insert target _)
  | swap fixture part =>
    -- the fixture is looked up twice, first for its presence and then for its kind
    rw [perform, perform, agree.fetch fixture (.inr (by simp [names])),
      agree.fetch part (.inr (by simp [names])), agree.fixture fixture (.inr (by simp [names]))]
    refine .bind _ fun _ => .bind _ fun given => .bind _ fun held => ?_
    cases held.exchange? given with
    | none => exact .failed _
    | some traded => exact .succeeded _ ((agree.insert fixture _).insert part _)
  | assign source target =>
    rw [perform, perform, agree.fetch source (.inr (by simp [names])),
      agree.fetch target (.inr (by simp [names]))]
    refine .bind _ fun record => .bind _ fun old => ?_
    split
    · exact .succeeded _ (agree.insert target record)
    · exact .failed _
  | ask source query =>
    rw [perform, perform, agree.fetch source (.inr (by simp [names]))]
    exact .bind _ fun record => .bind _ fun answer => .succeeded answer agree
  | eq a b =>
    rw [perform, perform, agree.fetch a (.inr (by simp [names])),
      agree.fetch b (.inr (by simp [names]))]
    exact .bind _ fun first => .bind _ fun second => .bind _ fun answer => .succeeded answer agree
  | dump =>
    -- all slots are listed, so here the stores are one
    obtain rfl : store = store' := agree.eq_of_forall fun slot => .inl rfl
    exact .succeeded _ agree
  | incomplete checks =>
    -- an incomplete step mentions the slots that it checks
    have mentioned : ∀ check ∈ checks, (incomplete checks).Mentions check.slot :=
      fun check h => .inr (List.mem_map_of_mem h)
    rw [perform, perform, agree.verifyAll checks mentioned]
    exact .bind _ fun _ => .failed _

/-- A step has one outcome on stores that agree on what it mentions, and leaves them so. -/
theorem run_congr (agree : store.AgreeOn step.Mentions store') :
    (step.run store).1 = (step.run store').1 ∧
      (step.run store).2.AgreeOn step.Mentions (step.run store').2 := by
  have alike := perform_alike agree
  rw [run, run]
  generalize step.perform store = attempt at alike ⊢
  generalize step.perform store' = attempt' at alike ⊢
  -- the outcome is one, and what is left agrees, written or not
  cases alike with
  | failed failure => exact ⟨rfl, agree⟩
  | succeeded answer agree' => exact ⟨rfl, agree'⟩

/-! ### What a step changes -/

/-- A rule changes no slot but those that its step may change. -/
theorem Performs.getElem?_eq {answer : Answer} {slot : String}
    (h : Performs store step answer store') (untouched : slot ∉ step.writes) :
    store'[slot]? = store[slot]? := by
  -- what is written or emptied is on the list of the step
  cases h with
  | make target recipe | clone target held | bundle target first second third
  | extract target held named | assign held replaced kind =>
    have other := List.ne_of_not_mem_cons untouched
    rw [Store.getElem?_insert, if_neg other.symm]
  | move target held =>
    have notSource := List.ne_of_not_mem_cons untouched
    have notTarget := List.ne_of_not_mem_cons (List.not_mem_of_not_mem_cons untouched)
    rw [Store.getElem?_insert, if_neg notTarget.symm, Store.getElem?_erase, if_neg notSource.symm]
  | drop held =>
    have other := List.ne_of_not_mem_cons untouched
    rw [Store.getElem?_erase, if_neg other.symm]
  | swap whole piece traded =>
    have notFixture := List.ne_of_not_mem_cons untouched
    have notPart := List.ne_of_not_mem_cons (List.not_mem_of_not_mem_cons untouched)
    rw [Store.getElem?_insert, if_neg notPart.symm, Store.getElem?_insert, if_neg notFixture.symm]
  | ask held answered | eq left right answered | dump => rfl

/-- **A step leaves alone the slots that it may not change.** -/
theorem getElem?_run (step : Step) (store : Store) {slot : String} (untouched : slot ∉ step.writes) :
    (step.run store).2[slot]? = store[slot]? := by
  rcases step.run_cases store with ⟨answer, store', h, run⟩ | ⟨failure, run⟩
  · rw [run]
    exact h.getElem?_eq untouched
  · rw [run]

/-! ### Two steps -/

/-- Neither of two steps may change a slot that the other mentions. -/
structure Apart (first second : Step) : Prop where
  left : ∀ slot ∈ first.writes, ¬ second.Mentions slot
  right : ∀ slot ∈ second.writes, ¬ first.Mentions slot

namespace Apart

variable {first second : Step}

theorem symm (apart : first.Apart second) : second.Apart first := ⟨apart.right, apart.left⟩

/-- The first step leaves what the second mentions as it was. -/
theorem agreeOn_run (apart : first.Apart second) (store : Store) :
    (first.run store).2.AgreeOn second.Mentions store :=
  fun slot mentioned => first.getElem?_run store fun written => apart.left slot written mentioned

/-- The second step has its outcome whether the first was run or not. -/
theorem outcome_eq (apart : first.Apart second) (store : Store) :
    (second.run (first.run store).2).1 = (second.run store).1 :=
  (run_congr (apart.agreeOn_run store)).1

/-- A slot that the first step may change ends up alike in both orders. -/
theorem getElem?_run_run (apart : first.Apart second) (store : Store) {slot : String}
    (written : slot ∈ first.writes) :
    (second.run (first.run store).2).2[slot]? = (first.run (second.run store).2).2[slot]? := by
  have untouched : slot ∉ second.writes :=
    fun h => apart.left slot written (.inr (second.names_of_writes slot h))
  have mentioned : first.Mentions slot := .inr (first.names_of_writes slot written)
  rw [second.getElem?_run _ untouched]
  exact ((run_congr (apart.symm.agreeOn_run store)).2 slot mentioned).symm

/-- The store that two steps leave does not depend on their order. -/
theorem store_eq (apart : first.Apart second) (store : Store) :
    (second.run (first.run store).2).2 = (first.run (second.run store).2).2 := by
  refine Std.ExtTreeMap.ext_getElem? fun slot => ?_
  -- a slot is changed by one of the steps at most, since each mentions what it may change
  by_cases byFirst : slot ∈ first.writes
  · exact apart.getElem?_run_run store byFirst
  by_cases bySecond : slot ∈ second.writes
  · exact (apart.symm.getElem?_run_run store bySecond).symm
  -- what neither changes is what it was, in both orders
  · rw [second.getElem?_run _ bySecond, first.getElem?_run _ byFirst, first.getElem?_run _ byFirst,
      second.getElem?_run _ bySecond]

end Apart

end Step

/-- **Independent steps can change places.** Where neither of two steps may change a slot that the other
mentions, both orders leave one store, and each step has one outcome, be it an answer or a failure. -/
theorem Program.run_pair_comm {first second : Step} (apart : first.Apart second) (store : Store) :
    ∃ outcome outcome' store', Program.run [first, second] store = ([outcome, outcome'], store') ∧
      Program.run [second, first] store = ([outcome', outcome], store') := by
  refine ⟨(first.run store).1, (second.run store).1, (second.run (first.run store).2).2, ?_, ?_⟩
  -- the second step has the outcome that it would have as the first
  · rw [run_cons, run_cons, run_nil, apart.outcome_eq]
  · rw [run_cons, run_cons, run_nil, apart.symm.outcome_eq, apart.store_eq]

/-- A person that is cloned out of a slot and the trade of a fixture for another one are independent, though
the fixture was bundled from that slot. -/
theorem Program.run_pair_comm_clone_swap :
    let store := (Program.run [.make "p" (.leaf (.person "Ann" 7 "")), .make "g" (.leaf .group),
      .make "w" (.leaf (.workspace "x")), .bundle "p" "g" "w" "f",
      .make "q" (.leaf (.person "Bob" (-1) "")) ] ∅).2
    (Step.clone "p" "w").Apart (.swap "f" "q") ∧
      ∃ outcome outcome' store',
        Program.run [.clone "p" "w", .swap "f" "q"] store = ([outcome, outcome'], store') ∧
        Program.run [.swap "f" "q", .clone "p" "w"] store = ([outcome', outcome], store') :=
  ⟨⟨by decide, by decide⟩, run_pair_comm ⟨by decide, by decide⟩ _⟩

end Profiles
