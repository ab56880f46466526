import Mathlib.Logic.Function.Basic
import Profiles.Proofs.Program.Frame

/-!
# Bundles and their parts

A fixture is made of three slots by a bundle, and its parts are taken out into three slots by extracts. Each
undoes the other (`Program.bundle_unbundle`), and the slot that is written may be one of those that are read:
a bundle has looked at all three sources when it writes, so it may overwrite one of them.

Slots are given for the parts by one function, `sources` of a bundle and `slots` of its taking apart, so that
what is said of the three parts is said once. `Step.bundleParts` bundles what such a function names, and
`Program.unbundle` is one extract for each part on a list.

A bundle succeeds where the slots hold the parts of one fixture (`Step.performs_bundleParts`), and only there
(`Step.Performs.of_bundleParts`). What the extracts leave is read off part by part
(`Program.performs_unbundle`), by induction on the list: each puts its own part into its slot, and the
fixture stays in its own, so that the next one finds it.
-/

namespace Profiles

/-! ### The names of the parts -/

namespace Part

/-- The kind of record that the part is. -/
def kind : Part → Kind
  | person => .person
  | group => .group
  | workspace => .workspace

/-- A part goes by the name of its kind. -/
def name (part : Part) : String := part.kind.name

theorem ofName?_name (part : Part) : ofName? part.name = some part := by
  cases part <;> rfl

theorem name_injective : Function.Injective name := by
  -- the name is read back as the part, so two parts of one name are one
  intro part other same
  have named := ofName?_name part
  rw [same, ofName?_name] at named
  exact (Option.some.inj named).symm

/-- The parts, in the order in which a fixture has them. -/
def all : List Part := [person, group, workspace]

theorem mem_all (part : Part) : part ∈ all := by
  cases part <;> decide

theorem nodup_all : all.Nodup := by decide

end Part

/-! ### Bundling -/

namespace Step

/-- What the slots of the three parts hold is bundled. -/
def bundleParts (sources : Part → String) (target : String) : Step :=
  .bundle (sources .person) (sources .group) (sources .workspace) target

variable {store store' : Store} {sources : Part → String} {fixture : Fixture}

/-- **A bundle makes the fixture whose parts the slots hold.** -/
theorem performs_bundleParts (held : ∀ part, store[sources part]? = some (fixture.part part))
    (target : String) :
    Performs store (bundleParts sources target) (.view (.fixture fixture))
      (store.insert target (.fixture fixture)) :=
  .bundle target (held .person) (held .group) (held .workspace)

/-- A bundle that succeeds has found the parts of a fixture. -/
theorem Performs.of_bundleParts {target : String} {answer : Answer}
    (h : Performs store (bundleParts sources target) answer store') :
    ∃ fixture : Fixture, (∀ part, store[sources part]? = some (fixture.part part)) ∧
      answer = .view (.fixture fixture) ∧ store' = store.insert target (.fixture fixture) := by
  cases h with
  | @bundle _ _ _ p g w _ first second third =>
    refine ⟨⟨p, g, w⟩, fun part => ?_, rfl, rfl⟩
    cases part with
    | person => exact first
    | group => exact second
    | workspace => exact third

/-- A part of a fixture is extracted by its name. -/
theorem performs_extract {source : String} (held : store[source]? = some (.fixture fixture))
    (part : Part) (target : String) :
    Performs store (.extract source part.name target) (.view (fixture.part part))
      (store.insert target (fixture.part part)) :=
  .extract target held part.ofName?_name

end Step

/-! ### Taking apart -/

namespace Program

/-- Parts of the fixture in one slot are taken out, each into its own slot. -/
def unbundle (source : String) (slots : Part → String) (parts : List Part) : Program :=
  parts.map fun part => .extract source part.name (slots part)

variable {store : Store} {source : String} {slots : Part → String} {fixture : Fixture}
  {parts : List Part}

/-- Slots that none of the parts goes into are left alone. -/
theorem Performs.getElem?_unbundle {store' : Store} {slot : String} {answers : List Answer}
    (h : Performs store (unbundle source slots parts) answers store')
    (apart : ∀ part ∈ parts, slots part ≠ slot) : store'[slot]? = store[slot]? := by
  -- what is written are the slots of the parts, one by each extract
  have untouched : ∀ step ∈ unbundle source slots parts, slot ∉ step.writes := by
    intro step taken
    obtain ⟨part, listed, rfl⟩ := List.mem_map.mp taken
    exact List.not_mem_cons_of_ne_of_not_mem (apart part listed).symm List.not_mem_nil
  have kept := getElem?_run (unbundle source slots parts) store untouched
  rw [h.run_eq] at kept
  exact kept

/-- **Taking a fixture apart** succeeds where its own slot is none of those for the parts. It answers the
parts, and each is in its slot afterwards. -/
theorem performs_unbundle (separate : slots.Injective) (apart : ∀ part, slots part ≠ source)
    (held : store[source]? = some (.fixture fixture)) (parts : List Part) :
    ∃ store', Performs store (unbundle source slots parts)
        (parts.map fun part => .view (fixture.part part)) store' ∧
      ∀ part ∈ parts, store'[slots part]? = some (fixture.part part) := by
  induction parts generalizing store with
  | nil => exact ⟨store, .nil store, nofun⟩
  | cons first parts ih =>
    let middle := store.insert (slots first) (fixture.part first)
    -- the fixture is not overwritten by its own part
    have stays : middle[source]? = some (.fixture fixture) := by
      rw [Store.getElem?_insert, if_neg (apart first), held]
    obtain ⟨store', rest, filled⟩ := ih stays
    -- what is taken out later does not matter for the first part unless it goes into the same slot
    refine ⟨store', .cons (Step.performs_extract held first _) rest, fun part listed => ?_⟩
    by_cases later : part ∈ parts
    · exact filled part later
    -- the part is the first one and is not taken out again
    obtain rfl := (List.mem_cons.mp listed).resolve_right later
    have apart_later (other : Part) (among : other ∈ parts) : slots other ≠ slots part :=
      fun same => later (separate same ▸ among)
    rw [rest.getElem?_unbundle apart_later, Store.getElem?_insert, if_pos rfl]

/-! ### There and back -/

/-- The parts of a fixture, taken out in any order, make a fixture again. -/
theorem performs_unbundle_bundle (separate : slots.Injective) (apart : ∀ part, slots part ≠ source)
    (held : store[source]? = some (.fixture fixture)) (complete : parts.Perm Part.all)
    (target : String) :
    ∃ middle : Store, Performs store (unbundle source slots parts ++ [Step.bundleParts slots target])
      ((parts.map fun part => .view (fixture.part part)) ++ [.view (.fixture fixture)])
      (middle.insert target (.fixture fixture)) := by
  obtain ⟨middle, taken, filled⟩ := performs_unbundle separate apart held parts
  -- every part is on the list, in whatever order
  have all_filled (part : Part) : middle[slots part]? = some (fixture.part part) :=
    filled part (complete.mem_iff.mpr part.mem_all)
  exact ⟨middle, taken.append (.cons (Step.performs_bundleParts all_filled target) (.nil _))⟩

/-- **Bundling and taking apart undo each other.**

A bundle that succeeds has found the parts of one fixture in its sources. The sources still hold them, all but
the one that may have been the target; and whatever is done then without writing the target, each part can be
extracted from it.

And the three parts of a fixture, extracted in any order into three slots other than its own, are bundled to
an equal fixture in any slot. -/
theorem bundle_unbundle (store : Store) :
    (∀ (sources : Part → String) (target : String) (answer : Answer) (after : Store),
      (Step.bundleParts sources target).run store = (.ok answer, after) →
      ∃ fixture : Fixture, answer = .view (.fixture fixture) ∧
        (∀ part, store[sources part]? = some (fixture.part part)) ∧
        (∀ part, sources part ≠ target → after[sources part]? = some (fixture.part part)) ∧
        ∀ between : Program, (∀ step ∈ between, target ∉ step.writes) →
          ∀ (part : Part) (slot : String),
            let later := (between.run after).2
            (Step.extract target part.name slot).run later =
              (.ok (.view (fixture.part part)), later.insert slot (fixture.part part))) ∧
    (∀ (source target : String) (slots : Part → String) (parts : List Part) (fixture : Fixture),
      store[source]? = some (.fixture fixture) → slots.Injective → (∀ part, slots part ≠ source) →
      parts.Perm Part.all →
      ∃ after, (unbundle source slots parts ++ [Step.bundleParts slots target]).run store =
          ((parts.map fun part => .ok (.view (fixture.part part))) ++ [.ok (.view (.fixture fixture))],
            after) ∧
        after[target]? = some (.fixture fixture)) := by
  constructor
  · intro sources target answer after bundled
    obtain ⟨fixture, held, rfl, rfl⟩ := (Step.run_eq_ok_iff.mp bundled).of_bundleParts
    -- a target among the sources is the only source that is overwritten
    refine ⟨fixture, rfl, held, fun part apart => ?_, fun between untouched part slot => ?_⟩
    · rw [Store.getElem?_insert, if_neg apart.symm, held part]
    · have kept := getElem?_run between (store.insert target (.fixture fixture)) untouched
      rw [Store.getElem?_insert, if_pos rfl] at kept
      exact Step.run_eq_ok_iff.mpr (Step.performs_extract kept part slot)
  -- the parts are in their slots, so a bundle finds them
  · intro source target slots parts fixture held separate apart complete
    obtain ⟨middle, performs⟩ := performs_unbundle_bundle separate apart held complete target
    refine ⟨middle.insert target (.fixture fixture), ?_, ?_⟩
    · rw [performs.run_eq, List.map_append, List.map_map]
      rfl
    · rw [Store.getElem?_insert, if_pos rfl]

/-- A bundle over the group that it is made of. The person is dropped and the group taken out again before the
workspace is extracted. Of another fixture the parts are taken out last first and bundled over it. -/
theorem bundle_unbundle_over_source :
    let ann : Fixture := ⟨.new "Ann" 7 "", .new, .new "x"⟩
    let bob : Fixture := ⟨.new "Bob" (-1) "", .new, .new "y"⟩
    let store := (run [.make "person" (.leaf (.person "Ann" 7 "")), .make "group" (.leaf .group),
      .make "workspace" (.leaf (.workspace "x")), .make "f" (.fixture "Bob" (-1) "" "y")] ∅).2
    let after := store.insert "group" (.fixture ann)
    let between : Program := [.drop "person", .extract "group" "group" "g"]
    let later := (between.run after).2
    let backwards : List Part := [.workspace, .group, .person]
    ((Step.bundleParts Part.name "group").run store = (.ok (.view (.fixture ann)), after) ∧
      (∀ step ∈ between, "group" ∉ step.writes) ∧ after["person"]? = some (.person ann.person) ∧
      (Step.extract "group" "workspace" "w").run later =
        (.ok (.view (.workspace ann.workspace)), later.insert "w" (.workspace ann.workspace))) ∧
    (store["f"]? = some (.fixture bob) ∧ Part.name.Injective ∧ (∀ part : Part, part.name ≠ "f") ∧
      backwards.Perm Part.all ∧
      ∃ after, (unbundle "f" Part.name backwards ++ [Step.bundleParts Part.name "f"]).run store =
          ((backwards.map fun part => .ok (.view (bob.part part))) ++ [.ok (.view (.fixture bob))],
            after) ∧
        after["f"]? = some (.fixture bob)) := by
  intro ann bob store after between later backwards
  have bundled : (Step.bundleParts Part.name "group").run store = (.ok (.view (.fixture ann)), after) := rfl
  have untouched : ∀ step ∈ between, "group" ∉ step.writes := by decide
  have held : store["f"]? = some (.fixture bob) := rfl
  have apart (part : Part) : part.name ≠ "f" := by cases part <;> decide
  have complete : backwards.Perm Part.all := by decide
  obtain ⟨forth, back⟩ := bundle_unbundle store
  obtain ⟨fixture, answered, -, sources, parts⟩ := forth Part.name "group" _ after bundled
  -- the fixture that was bundled is the one that is answered
  obtain rfl : ann = fixture := Record.fixture.inj (Answer.view.inj answered)
  exact ⟨⟨bundled, untouched, sources .person (by decide), parts between untouched .workspace "w"⟩,
    held, Part.name_injective, apart, complete,
    back "f" "f" Part.name backwards bob held Part.name_injective apart complete⟩

end Program

end Profiles
