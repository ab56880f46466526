import Profiles.Proofs.Program.Bundles
import Profiles.Proofs.Program.Swaps

/-!
# The long form of a swap

A swap is one step, and the same can be done with steps of the other kinds and three spare slots
(`Program.longSwap`): the fixture is taken apart into them, it is bundled again over itself, with the new
record in the place of the part of its kind, the old part is moved to where the new record was, and the other
two spare slots are emptied.

`Program.run_longSwap` says that this succeeds wherever the swap does, when the spare slots were empty, and
leaves the same store. The run is followed in three pieces. What the first leaves is known from the taking
apart, the second writes three slots (`Program.performs_trade`), and what the last one leaves is told slot by
slot (`Program.performs_dropAll`). In the end the store is a trade of the one before (`Step.Trades`), and a
trade is what a swap comes to.
-/

namespace Profiles

open Function (update)

/-- A trade replaces one part, that of the kind of the record given, and takes out what was there. -/
theorem Fixture.exists_part_of_exchange {old new : Fixture} {given taken : Record}
    (traded : old.exchange? given = some (new, taken)) :
    ∃ part : Part, given.kind = part.kind ∧ taken = old.part part ∧
      new.part = update old.part part given := by
  -- the kind of the record that is given says which part is replaced
  cases given with
  | person p =>
    obtain ⟨rfl, rfl⟩ := Prod.mk.inj (Option.some.inj traded)
    refine ⟨.person, rfl, rfl, funext fun part => ?_⟩
    cases part <;> rfl
  | group g =>
    obtain ⟨rfl, rfl⟩ := Prod.mk.inj (Option.some.inj traded)
    refine ⟨.group, rfl, rfl, funext fun part => ?_⟩
    cases part <;> rfl
  | workspace w =>
    obtain ⟨rfl, rfl⟩ := Prod.mk.inj (Option.some.inj traded)
    refine ⟨.workspace, rfl, rfl, funext fun part => ?_⟩
    cases part <;> rfl
  | fixture f => cases traded

/-- A slot that holds nothing is not one that holds something. -/
theorem Store.ne_of_held {store : Store} {slot other : String} {record : Record}
    (free : store[slot]? = none) (held : store[other]? = some record) : slot ≠ other := by
  rintro rfl
  rw [free] at held
  cases held

namespace Program

/-- Slots are emptied, one after the other. -/
def dropAll (slots : List String) : Program := slots.map .drop

/-- The parts of a fixture other than the given one. -/
def otherParts (traded : Part) : List Part := Part.all.filter (· ≠ traded)

/-- **A swap, the long way**, with a spare slot for each part of the fixture. -/
def longSwap (fixture part : String) (traded : Part) (spare : Part → String) : Program :=
  unbundle fixture spare Part.all ++
    ([.bundleParts (update spare traded part) fixture, .move (spare traded) part] ++
      dropAll ((otherParts traded).map spare))

variable {store : Store} {fixture part : String} {old new : Fixture} {given : Record}
  {spare : Part → String} {traded : Part}

/-- **Slots that hold records can be emptied**, each once, and all others stay. -/
theorem performs_dropAll {slots : List String} (distinct : slots.Nodup)
    (held : ∀ slot ∈ slots, store[slot]?.isSome) :
    ∃ answers store', Performs store (dropAll slots) answers store' ∧
      ∀ slot : String, store'[slot]? = if slot ∈ slots then none else store[slot]? := by
  induction slots generalizing store with
  | nil => exact ⟨[], store, .nil store, fun slot => (if_neg List.not_mem_nil).symm⟩
  | cons first slots ih =>
    -- the first slot is not listed again, so the others still hold their records
    obtain ⟨fresh, distinct⟩ := List.nodup_cons.mp distinct
    obtain ⟨record, there⟩ := Option.isSome_iff_exists.mp (held first List.mem_cons_self)
    have still : ∀ slot ∈ slots, (store.erase first)[slot]?.isSome := by
      intro slot listed
      have other : first ≠ slot := fun same => fresh (same ▸ listed)
      rw [Store.getElem?_erase, if_neg other]
      exact held slot (List.mem_cons_of_mem first listed)
    obtain ⟨answers, store', rest, emptied⟩ := ih distinct still
    refine ⟨_, store', .cons (.drop there) rest, fun slot => ?_⟩
    rw [emptied slot, Store.getElem?_erase]
    by_cases same : first = slot
    · rw [if_pos same, ite_self, if_pos (same ▸ List.mem_cons_self)]
    · rw [if_neg same]
      -- a slot other than the first is listed where it is among the later ones
      simp only [List.mem_cons, Ne.symm same, false_or]

/-- **The fixture is bundled again with the new record**, whose slot gets the old part. -/
theorem performs_trade (filled : ∀ p, store[spare p]? = some (old.part p))
    (piece : store[part]? = some given) (replaced : new.part = update old.part traded given)
    (apart : spare traded ≠ fixture) :
    ∃ store', Performs store [.bundleParts (update spare traded part) fixture, .move (spare traded) part]
        [.view (.fixture new), .view (old.part traded)] store' ∧
      ∀ slot : String, store'[slot]? =
        if part = slot then some (old.part traded)
        else if spare traded = slot then none
        else if fixture = slot then some (.fixture new)
        else store[slot]? := by
  -- slot by slot the sources are replaced as the parts are
  have sources (p : Part) : store[update spare traded part p]? = some (new.part p) := by
    rw [replaced]
    -- the part that is traded comes from the slot of the new record, the others from their spare slots
    by_cases same : p = traded
    · rw [same, Function.update_self, Function.update_self, piece]
    · rw [Function.update_of_ne same, Function.update_of_ne same, filled p]
  have stays : (store.insert fixture (.fixture new))[spare traded]? = some (old.part traded) := by
    rw [Store.getElem?_insert, if_neg apart.symm, filled traded]
  refine ⟨_, .cons (Step.performs_bundleParts sources fixture) (.cons (.move part stays) (.nil _)),
    fun slot => ?_⟩
  -- three slots have been written, and each look-up passes the writes behind it
  rw [Store.getElem?_insert, Store.getElem?_erase, Store.getElem?_insert]

theorem mem_otherParts {p : Part} : p ∈ otherParts traded ↔ p ≠ traded := by
  rw [otherParts, List.mem_filter, decide_eq_true_iff]
  exact and_iff_right p.mem_all

/-- The spare slots that still hold a part are emptied, and then all of them are empty. -/
theorem performs_dropOthers (separate : spare.Injective) (gone : store[spare traded]? = none)
    (filled : ∀ p, p ≠ traded → store[spare p]? = some (old.part p)) :
    ∃ answers store', Performs store (dropAll ((otherParts traded).map spare)) answers store' ∧
      (∀ p, store'[spare p]? = none) ∧
      ∀ slot : String, (∀ p, spare p ≠ slot) → store'[slot]? = store[slot]? := by
  -- each part has a slot of its own, so none is listed twice
  have distinct : ((otherParts traded).map spare).Nodup := (Part.nodup_all.filter _).map separate
  have held : ∀ slot ∈ (otherParts traded).map spare, store[slot]?.isSome := by
    intro slot listed
    obtain ⟨p, other, rfl⟩ := List.mem_map.mp listed
    rw [filled p (mem_otherParts.mp other), Option.isSome_some]
  obtain ⟨answers, store', emptied, look⟩ := performs_dropAll distinct held
  refine ⟨answers, store', emptied, fun p => ?_, fun slot unspared => ?_⟩
  -- the slot of the part that was traded is empty, and the two others are on the list
  · rw [look]
    by_cases same : p = traded
    · rw [same, gone, ite_self]
    · rw [if_pos (List.mem_map_of_mem (mem_otherParts.mpr same))]
  · have unlisted : slot ∉ (otherParts traded).map spare := by
      intro listed
      obtain ⟨p, -, same⟩ := List.mem_map.mp listed
      exact unspared p same
    rw [look, if_neg unlisted]

/-- **The long way is a trade** between the two slots, and all its steps succeed. -/
theorem performs_longSwap (whole : store[fixture]? = some (.fixture old)) (piece : store[part]? = some given)
    (apart : fixture ≠ part) (exchanged : old.exchange? given = some (new, old.part traded))
    (replaced : new.part = update old.part traded given) (separate : spare.Injective)
    (free : ∀ p, store[spare p]? = none) :
    ∃ answers store', Performs store (longSwap fixture part traded spare) answers store' ∧
      Step.Trades fixture part store store' := by
  -- the spare slots were empty, and these two were not
  have notFixture (p : Part) : spare p ≠ fixture := Store.ne_of_held (free p) whole
  have notPart (p : Part) : spare p ≠ part := Store.ne_of_held (free p) piece
  -- the fixture stays in its slot while its parts go into the spare ones
  obtain ⟨opened, takenApart, filled⟩ := performs_unbundle separate notFixture whole Part.all
  have filled (p : Part) : opened[spare p]? = some (old.part p) := filled p p.mem_all
  have kept (slot : String) (unspared : ∀ p, spare p ≠ slot) : opened[slot]? = store[slot]? :=
    takenApart.getElem?_unbundle fun p _ => unspared p
  obtain ⟨settled, trade, look⟩ :=
    performs_trade filled ((kept part notPart).trans piece) replaced (notFixture traded)
  -- the part traded has left its spare slot, so the other two are what is to be dropped
  have gone : settled[spare traded]? = none := by
    rw [look, if_neg (notPart traded).symm, if_pos rfl]
  have remaining (p : Part) (other : p ≠ traded) : settled[spare p]? = some (old.part p) := by
    rw [look, if_neg (notPart p).symm, if_neg (separate.ne other.symm), if_neg (notFixture p).symm,
      filled p]
  obtain ⟨answers, store', emptied, clean, rest⟩ := performs_dropOthers separate gone remaining
  refine ⟨_, store', takenApart.append (trade.append emptied), apart,
    ⟨old, new, given, old.part traded, exchanged, whole, piece, ?_, ?_⟩, ?_⟩
  -- the fixture and the part are in no spare slot, so emptying those does not touch them
  · rw [rest fixture notFixture, look, if_neg apart.symm, if_neg (notFixture traded), if_pos rfl]
  · rw [rest part notPart, look, if_pos rfl]
  · intro slot offFixture offPart
    -- a spare slot is empty again, and any other has not been written
    by_cases spared : ∃ p, spare p = slot
    · obtain ⟨p, rfl⟩ := spared
      rw [clean p, free p]
    · have unspared (p : Part) : spare p ≠ slot := fun same => spared ⟨p, same⟩
      rw [rest slot unspared, look, if_neg offPart.symm, if_neg (unspared traded),
        if_neg offFixture.symm, kept slot unspared]

/-- **A swap is as good as its long form.** Where a swap succeeds, and there are three slots that hold nothing,
the fixture can be taken apart into them and bundled again with the other record instead of the part of its
kind. With the old part moved to where that record was and the other two spare slots emptied, each step has
succeeded and the store is what the swap leaves. The answer of the swap shows what the two slots hold then. -/
theorem run_longSwap {after : Store} {answer : Answer} (spare : Part → String)
    (swapped : (Step.swap fixture part).run store = (.ok answer, after)) (separate : spare.Injective)
    (free : ∀ p, store[spare p]? = none) :
    ∃ traded : Part, store[part]?.map Record.kind = some traded.kind ∧
      (∃ answers : List Answer,
        (longSwap fixture part traded spare).run store = (answers.map .ok, after)) ∧
      ∃ whole piece : Record, after[fixture]? = some whole ∧ after[part]? = some piece ∧
        answer.toJson = .obj [("fixture", whole.view), ("part", piece.view)] := by
  have performs := Step.run_eq_ok_iff.mp swapped
  have apart := performs.trades.apart
  cases performs with
  | @swap _ _ old new given taken whole piece exchanged =>
    obtain ⟨traded, kind, rfl, replaced⟩ := Fixture.exists_part_of_exchange exchanged
    obtain ⟨answers, store', long, trades⟩ :=
      performs_longSwap whole piece apart exchanged replaced separate free
    -- both ways come to the same trade
    have same := trades.run_eq
    rw [swapped] at same
    refine ⟨traded, ?_, ⟨answers, ?_⟩, .fixture new, old.part traded, ?_, ?_, rfl⟩
    · rw [piece, Option.map_some, kind]
    · rw [long.run_eq, ← same]
    · rw [Store.getElem?_insert, if_neg apart.symm, Store.getElem?_insert, if_pos rfl]
    · rw [Store.getElem?_insert, if_pos rfl]

/-- A workspace is traded, in one step and in seven. -/
theorem run_longSwap_workspace :
    let store := (run [.make "f" (.fixture "Ann" 1 "" "x"), .make "p" (.leaf (.workspace "y"))] ∅).2
    let after := ((Step.swap "f" "p").run store).2
    let whole : Record := .fixture ⟨.new "Ann" 1 "", .new, .new "y"⟩
    let piece : Record := .workspace (.new "x")
    ((Step.swap "f" "p").run store = (.ok (.exchanged whole piece), after) ∧ Part.name.Injective ∧
      ∀ p : Part, store[p.name]? = none) ∧
    ∃ answers : List Answer,
      run [.extract "f" "person" "person", .extract "f" "group" "group",
        .extract "f" "workspace" "workspace", .bundle "person" "group" "p" "f", .move "workspace" "p",
        .drop "person", .drop "group"] store = (answers.map .ok, after) := by
  intro store after whole piece
  have swapped : (Step.swap "f" "p").run store = (.ok (.exchanged whole piece), after) := rfl
  have free (p : Part) : store[p.name]? = none := by cases p <;> rfl
  obtain ⟨traded, kind, long, -⟩ := run_longSwap Part.name swapped Part.name_injective free
  refine ⟨⟨swapped, Part.name_injective, free⟩, ?_⟩
  cases traded with
  | person | group => cases kind
  | workspace => exact long

end Program

end Profiles
