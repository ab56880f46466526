import Mathlib.Data.Multiset.Bind
import Profiles.Proofs.Program.Effects

/-!
# Swaps

A swap trades a part of a fixture for a record of its kind in another slot. However often slots are swapped,
no person, group or workspace is lost or doubled, and every slot keeps its kind. And swaps can be undone: the
same ones again, last first, bring the store back (`Program.run_swaps`).

One step carries this. A swap that succeeds finds a fixture under one name and a leaf record under another, and
leaves a fixture and a leaf record of the same kind there, so that it succeeds again and trades both back. A
swap that fails has left the store as it was, and fails again.

What is counted are the leaf records of a whole store (`Store.leaves`), a fixture as its three parts.
-/

namespace Profiles

/-! ### Leaf records -/

/-- The leaf records of a record: itself, or the three parts of a fixture. -/
def Record.leaves : Record → Multiset Record
  | person p => {.person p}
  | group g => {.group g}
  | workspace w => {.workspace w}
  | fixture f => {.person f.person} + {.group f.group} + {.workspace f.workspace}

/-- All leaf records that a store holds, each as often as it is held. -/
def Store.leaves (store : Store) : Multiset Record :=
  (store.toList : Multiset (String × Record)).bind fun entry => entry.2.leaves

/-- The leaf records of a store are those of one slot and those of the others. -/
theorem Store.leaves_eq_add {store : Store} {slot : String} {record : Record}
    (held : store[slot]? = some record) :
    store.leaves = record.leaves + leaves (store.erase slot) := by
  have entries := Multiset.coe_eq_coe.mpr (toList_perm_cons_erase held)
  rw [leaves, entries, ← Multiset.cons_coe, Multiset.cons_bind, leaves]

namespace Fixture

variable {old new : Fixture} {given taken : Record}

/-- What is traded for a part is a leaf record. -/
theorem kind_ne_of_exchange (traded : old.exchange? given = some (new, taken)) :
    given.kind ≠ .fixture := by
  cases given with
  | person p | group g | workspace w => exact Kind.noConfusion
  | fixture f => cases traded

/-- **A trade goes both ways.** -/
theorem exchange?_back (traded : old.exchange? given = some (new, taken)) :
    new.exchange? taken = some (old, given) := by
  -- a fixture with one part replaced by itself is that fixture
  cases given with
  | person p | group g | workspace w =>
    obtain ⟨rfl, rfl⟩ := Prod.mk.inj (Option.some.inj traded)
    rfl
  | fixture f => cases traded

/-- A part is taken that is of the kind of the record given. -/
theorem kind_of_exchange (traded : old.exchange? given = some (new, taken)) :
    taken.kind = given.kind := by
  cases given with
  | person p | group g | workspace w =>
    obtain ⟨rfl, rfl⟩ := Prod.mk.inj (Option.some.inj traded)
    rfl
  | fixture f => cases traded

/-- **A trade loses no record and makes none.** -/
theorem leaves_of_exchange (traded : old.exchange? given = some (new, taken)) :
    (Record.fixture new).leaves + taken.leaves = (Record.fixture old).leaves + given.leaves := by
  -- on both sides stand four records, in another order
  cases given with
  | person p | group g | workspace w =>
    obtain ⟨rfl, rfl⟩ := Prod.mk.inj (Option.some.inj traded)
    simp only [Record.leaves]
    ac_rfl
  | fixture f => cases traded

end Fixture

/-! ### One swap -/

namespace Step

variable {store store' : Store} {fixture part : String} {answer : Answer}

/-- What a swap that succeeds has found and leaves: a trade between two slots, all others as they were. -/
structure Trades (fixture part : String) (store store' : Store) : Prop where
  apart : fixture ≠ part
  traded : ∃ (old new : Fixture) (given taken : Record), old.exchange? given = some (new, taken) ∧
    store[fixture]? = some (.fixture old) ∧ store[part]? = some given ∧
    store'[fixture]? = some (.fixture new) ∧ store'[part]? = some taken
  others : ∀ slot, slot ≠ fixture → slot ≠ part → store'[slot]? = store[slot]?

theorem Performs.trades (h : Performs store (.swap fixture part) answer store') :
    Trades fixture part store store' := by
  cases h with
  | @swap _ _ old new given taken whole piece traded =>
    have apart : fixture ≠ part := by
      rintro rfl
      -- the slot would hold a fixture, which is not traded
      obtain rfl := Option.some.inj (whole.symm.trans piece)
      exact Fixture.kind_ne_of_exchange traded rfl
    refine ⟨apart, ⟨old, new, given, taken, traded, whole, piece, ?_, ?_⟩, ?_⟩
    · rw [Store.getElem?_insert, if_neg apart.symm, Store.getElem?_insert, if_pos rfl]
    · rw [Store.getElem?_insert, if_pos rfl]
    · intro slot notFixture notPart
      rw [Store.getElem?_insert, if_neg notPart.symm, Store.getElem?_insert, if_neg notFixture.symm]

namespace Trades

/-- Trading is symmetric, so the way back is a trade between the same slots. -/
theorem symm (h : Trades fixture part store store') : Trades fixture part store' store := by
  obtain ⟨old, new, given, taken, traded, whole, piece, whole', piece'⟩ := h.traded
  refine ⟨h.apart, ⟨new, old, taken, given, Fixture.exchange?_back traded, whole', piece', whole, piece⟩,
    ?_⟩
  intro slot notFixture notPart
  exact (h.others slot notFixture notPart).symm

/-- A trade is what the swap of its slots comes to. -/
theorem run_eq (h : Trades fixture part store store') : ((swap fixture part).run store).2 = store' := by
  obtain ⟨old, new, given, taken, traded, whole, piece, whole', piece'⟩ := h.traded
  -- the trade is the one that the swap makes, so the stores are compared slot by slot
  rw [run_of_ok (Performs.swap whole piece traded).perform_eq]
  refine Std.ExtTreeMap.ext_getElem? ?_
  intro slot
  rw [Store.getElem?_insert, Store.getElem?_insert]
  by_cases atPart : part = slot
  · rw [if_pos atPart, ← atPart, piece']
  rw [if_neg atPart]
  by_cases atFixture : fixture = slot
  · rw [if_pos atFixture, ← atFixture, whole']
  · rw [if_neg atFixture, h.others slot (Ne.symm atFixture) (Ne.symm atPart)]

theorem kind_eq (h : Trades fixture part store store') (slot : String) :
    store'[slot]?.map Record.kind = store[slot]?.map Record.kind := by
  -- a fixture stays a fixture, a part is replaced by one of its kind
  obtain ⟨old, new, given, taken, traded, whole, piece, whole', piece'⟩ := h.traded
  by_cases atFixture : slot = fixture
  · rw [atFixture, whole, whole']
    rfl
  by_cases atPart : slot = part
  · rw [atPart, piece, piece', Option.map_some, Option.map_some, Fixture.kind_of_exchange traded]
  · rw [h.others slot atFixture atPart]

/-- What two slots hold between them stays the same, and so does what all others hold. -/
theorem leaves_eq (h : Trades fixture part store store') : store'.leaves = store.leaves := by
  obtain ⟨old, new, given, taken, traded, whole, piece, whole', piece'⟩ := h.traded
  -- the slot of the part is not touched when that of the fixture is emptied
  have kept {middle : Store} {record : Record} (there : middle[part]? = some record) :
      (middle.erase fixture)[part]? = some record := by
    rw [Store.getElem?_erase, if_neg h.apart, there]
  -- with both slots emptied the stores are one
  have rest : (store'.erase fixture).erase part = (store.erase fixture).erase part := by
    refine Std.ExtTreeMap.ext_getElem? ?_
    intro slot
    simp only [Store.getElem?_erase]
    split
    · rfl
    split
    · rfl
    · next notPart notFixture => exact h.others slot (Ne.symm notFixture) (Ne.symm notPart)
  calc store'.leaves
      = (Record.fixture new).leaves + (taken.leaves + Store.leaves ((store'.erase fixture).erase part)) := by
        rw [Store.leaves_eq_add whole', Store.leaves_eq_add (kept piece')]
    _ = (Record.fixture old).leaves + given.leaves + Store.leaves ((store.erase fixture).erase part) := by
        rw [rest, ← add_assoc, Fixture.leaves_of_exchange traded]
    _ = store.leaves := by
        rw [Store.leaves_eq_add whole, Store.leaves_eq_add (kept piece), add_assoc]

end Trades

/-- A step that is put as a swap. Where it does not name both slots there is nothing to trade. -/
inductive IsSwap : Step → Prop where
  | swap (fixture part : String) : IsSwap (.swap fixture part)
  | unnamed : IsSwap (.incomplete [])

theorem isSwap_ofJson {value : Json} (named : value.text? "do" = some "swap") :
    (ofJson value).IsSwap := by
  have reading : needed [] (value.text? "do") >>= read value = (do
      let fixture ← needed [] (value.text? "fixture")
      let part ← needed [] (value.text? "part")
      return swap fixture part) := by
    rw [named]
    rfl
  rw [ofJson, reading]
  cases value.text? "fixture" with
  | none => exact .unnamed
  | some fixture =>
    cases value.text? "part" with
    | none => exact .unnamed
    | some part => exact .swap fixture part

namespace IsSwap

variable {step : Step}

/-- **A swap trades or leaves the store**, and the same swap again takes it back. -/
theorem run_cases (h : step.IsSwap) (store : Store) :
    (step.run store).2 = store ∨
      ∃ fixture part, step = .swap fixture part ∧ Trades fixture part store (step.run store).2 := by
  -- a swap that succeeds is a trade, and a step that names no slot does not succeed
  rcases step.run_cases store with ⟨answer, store', performs, run⟩ | ⟨failure, run⟩
  · right
    rw [run]
    cases h with
    | swap fixture part => exact ⟨fixture, part, rfl, performs.trades⟩
    | unnamed => cases performs
  · left
    rw [run]

theorem leaves_run (h : step.IsSwap) (store : Store) : (step.run store).2.leaves = store.leaves := by
  rcases h.run_cases store with stays | ⟨fixture, part, -, trades⟩
  · rw [stays]
  · exact trades.leaves_eq

theorem kind_run (h : step.IsSwap) (store : Store) (slot : String) :
    (step.run store).2[slot]?.map Record.kind = store[slot]?.map Record.kind := by
  rcases h.run_cases store with stays | ⟨fixture, part, -, trades⟩
  · rw [stays]
  · exact trades.kind_eq slot

theorem run_run (h : step.IsSwap) (store : Store) : (step.run (step.run store).2).2 = store := by
  -- a swap that has failed fails again on the same store
  rcases h.run_cases store with stays | ⟨fixture, part, rfl, trades⟩
  · rw [stays, stays]
  · exact trades.symm.run_eq

end IsSwap

end Step

/-! ### Any number of swaps -/

namespace Program

variable {program : Program}

theorem leaves_run_of_isSwap (swaps : ∀ step ∈ program, step.IsSwap) (store : Store) :
    (run program store).2.leaves = store.leaves := by
  refine unchanged_run Store.leaves ?_ store
  intro step h before
  exact (swaps step h).leaves_run before

theorem kind_run_of_isSwap (swaps : ∀ step ∈ program, step.IsSwap) (store : Store) (slot : String) :
    (run program store).2[slot]?.map Record.kind = store[slot]?.map Record.kind := by
  refine unchanged_run (fun store => store[slot]?.map Record.kind) ?_ store
  intro step h before
  exact (swaps step h).kind_run before slot

/-- The swaps of a program, run again from the last to the first, take back what it has done. -/
theorem run_reverse_of_isSwap (swaps : ∀ step ∈ program, step.IsSwap) (store : Store) :
    (run program.reverse (run program store).2).2 = store := by
  induction program generalizing store with
  | nil => rfl
  | cons step program ih =>
    have rest := ih (fun other h => swaps other (List.mem_cons_of_mem step h)) (step.run store).2
    -- the other steps are taken back first, which leads to the store that the first step has left
    rw [List.reverse_cons, run_append, run_cons step program, rest]
    exact (swaps step List.mem_cons_self).run_run store

/-- **Swaps lose nothing and can be undone.** Whatever slots are swapped in a store, with success or not, the
leaf records of the whole store stay what they are, each as often as before; every slot keeps its kind, or
stays empty; and the same swaps in reverse order leave the store that was there in the beginning. -/
theorem run_swaps (store : Store) (steps : List Json)
    (swaps : ∀ step ∈ steps, step.text? "do" = some "swap") :
    let after := (run (steps.map Step.ofJson) store).2
    after.leaves = store.leaves ∧
      (∀ slot : String, after[slot]?.map Record.kind = store[slot]?.map Record.kind) ∧
      (run (steps.reverse.map Step.ofJson) after).2 = store := by
  intro after
  -- each of the values puts a swap or names too little for one
  have trades : ∀ step ∈ steps.map Step.ofJson, step.IsSwap := by
    intro step listed
    obtain ⟨value, given, rfl⟩ := List.mem_map.mp listed
    exact Step.isSwap_ofJson (swaps value given)
  refine ⟨leaves_run_of_isSwap trades store, kind_run_of_isSwap trades store, ?_⟩
  rw [List.map_reverse]
  exact run_reverse_of_isSwap trades store

/-- A person goes from one fixture through a slot into another. The swap with both names exchanged and the one
with an empty slot fail in between, the second time as well. -/
theorem run_swaps_person_passed_on :
    let store := (run [.make "f" (.fixture "Ann" 1 "" "x"), .make "h" (.fixture "Eve" 2 "" "y"),
      .make "p" (.leaf (.person "Bob" 3 ""))] ∅).2
    let swap (fixture part : String) : Json :=
      .obj [("do", .str "swap"), ("fixture", .str fixture), ("part", .str part)]
    let steps := [swap "f" "p", swap "p" "f", swap "h" "p", swap "f" ""]
    let after := (run (steps.map Step.ofJson) store).2
    (∀ step ∈ steps, step.text? "do" = some "swap") ∧
      after["h"]? = some (.fixture ⟨.new "Ann" 1 "", .new, .new "y"⟩) ∧
      after.leaves = store.leaves ∧
      (∀ slot : String, after[slot]?.map Record.kind = store[slot]?.map Record.kind) ∧
      (run (steps.reverse.map Step.ofJson) after).2 = store := by
  intro store swap steps after
  have swaps : ∀ step ∈ steps, step.text? "do" = some "swap" := by
    simp only [steps, List.forall_mem_cons]
    exact ⟨rfl, rfl, rfl, rfl, List.forall_mem_nil _⟩
  exact ⟨swaps, rfl, run_swaps store steps swaps⟩

end Program

end Profiles
