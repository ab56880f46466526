import Profiles.Proofs.Program.Effects
import Profiles.Proofs.Program.Reachable

/-!
# Dumps

A dump is a faithful image of a store that a program has reached: it lists each slot that holds a record, once,
in the order of the bytes of the names, with the view that the slot itself answers (`Program.dump_remade`).

The image is enough to make the store anew. A view shows all that a constructor was given, and what it does not
show of the arguments every constructor fills in alike; so from each entry a `make` step can be read
(`Json.remaking?`), and these steps lead from empty slots to the same store, in whatever order they are run. No
step undoes what another has done, since each puts into its slot the one record that is to be there
(`Store.run_remaking`).
-/

namespace Profiles

/-! ### From a view to an expression -/

namespace Json

/-- The constructor of a leaf record with the arguments that the view shows. -/
def remadeLeaf? (view : Json) : Option Json := do
  match ← view.text? "kind" with
  | "group" => return obj [("kind", str "group")]
  | "workspace" =>
    let slug ← view.field? "slug"
    return obj [("kind", str "workspace"), ("slug", slug)]
  | "person" =>
    let name ← view.field? "name"
    let age ← view.field? "age"
    let email ← view.field? "email"
    return obj [("kind", str "person"), ("name", name), ("age", age), ("email", email)]
  | _ => none

/-- **The expression that a view gives**: the constructor of its kind, with the arguments that are shown. -/
def remade? (view : Json) : Option Json := do
  if (← view.text? "kind") = "fixture" then
    let person ← (← view.field? "person").remadeLeaf?
    let group ← (← view.field? "group").remadeLeaf?
    let workspace ← (← view.field? "workspace").remadeLeaf?
    return obj [("kind", str "fixture"), ("person", person), ("group", group), ("workspace", workspace)]
  else view.remadeLeaf?

/-- The step that makes a record in a slot. -/
def makeStep (slot value : Json) : Json := obj [("do", str "make"), ("to", slot), ("value", value)]

/-- **The step that an entry of a dump gives**: in its slot the record of its view is made. -/
def remaking? : Json → Option Json
  | arr [slot, view] => return makeStep slot (← view.remade?)
  | _ => none

end Json

theorem Person.remadeLeaf?_view (person : Person) :
    person.view.remadeLeaf? = some (LeafRecipe.person person.name person.age person.email).toJson := rfl

theorem Group.remadeLeaf?_view (group : Group) :
    group.view.remadeLeaf? = some LeafRecipe.group.toJson := rfl

theorem Workspace.remadeLeaf?_view (workspace : Workspace) :
    workspace.view.remadeLeaf? = some (LeafRecipe.workspace workspace.slug).toJson := rfl

/-- **A view gives the expression of its record.** -/
theorem Record.remade?_view (record : Record) : record.view.remade? = some record.recipe.toJson := by
  cases record with
  -- the view of a leaf shows its fields under their names, which are those of the arguments
  | person p => exact p.remadeLeaf?_view
  | group g => exact g.remadeLeaf?_view
  | workspace w => exact w.remadeLeaf?_view
  | fixture f => rfl

theorem Step.ofJson_makeStep (slot : String) (recipe : Recipe) :
    ofJson (.makeStep (.str slot) recipe.toJson) = make slot recipe := by
  have target : (Json.makeStep (.str slot) recipe.toJson).text? "to" = some slot := rfl
  have built : ((Json.makeStep (.str slot) recipe.toJson).field? "value" >>= Recipe.ofJson?) = some recipe :=
    recipe.ofJson?_toJson
  have reading : needed [] ((Json.makeStep (.str slot) recipe.toJson).text? "do")
      >>= read (.makeStep (.str slot) recipe.toJson) = .ok (make slot recipe) := by
    show read (.makeStep (.str slot) recipe.toJson) "make" = _
    rw [read, target, built]
    rfl
  rw [ofJson, reading]

namespace Store

/-- The entry of a slot as a dump shows it: the name, and what the slot answers when it is looked at. -/
def entry (store : Store) (slot : String) : Json :=
  .arr [.str slot, ((Step.ask slot .get).run store).1.toJson]

variable {store : Store} {slot : String} {record : Record}

theorem entry_eq (held : store[slot]? = some record) : store.entry slot = .arr [.str slot, record.view] := by
  rw [entry, Step.run_ask held]
  rfl

/-- A dump lists the slots in order, each with its entry. -/
theorem toJson_dump (store : Store) : (Step.dump.run store).1.toJson = .arr (store.keys.map store.entry) := by
  have names : store.toList.map Prod.fst = store.keys := Std.ExtTreeMap.map_fst_toList_eq_keys
  show Json.arr (store.toList.map fun entry => .arr [.str entry.1, entry.2.view]) = _
  rw [← names, List.map_map]
  -- what is listed of a slot is what it holds, and that is what it answers
  refine congrArg Json.arr (List.map_congr_left ?_)
  intro entry listed
  exact (entry_eq (mem_toList_iff.mp listed)).symm

/-- From the entry of a slot the step can be read that puts the record there. -/
theorem remaking?_entry (standard : store.Standard) (held : store[slot]? = some record) :
    ∃ step, (store.entry slot).remaking? = some step ∧
      ∀ base : Store, ((Step.ofJson step).run base).2 = base.insert slot record := by
  refine ⟨.makeStep (.str slot) record.recipe.toJson, ?_, ?_⟩
  · rw [entry_eq held, Json.remaking?, record.remade?_view]
    rfl
  · intro base
    -- a standard record is what its recipe builds, so that is what comes into the slot
    rw [Step.ofJson_makeStep, Step.run_of_ok (Step.Performs.make slot record.recipe).perform_eq,
      (standard slot record held).record_recipe]

/-- **Slots are made anew from their entries**, one after the other: in the end each of them holds what it
holds in the store that was dumped, and all others what they held. -/
theorem run_remaking (standard : store.Standard) (slots : List String) (live : ∀ slot ∈ slots, slot ∈ store)
    (base : Store) :
    ∃ steps, (slots.map store.entry).mapM Json.remaking? = some steps ∧
      ∀ other : String, (Program.run (steps.map Step.ofJson) base).2[other]?
        = if other ∈ slots then store[other]? else base[other]? := by
  induction slots generalizing base with
  | nil => exact ⟨[], rfl, fun other => rfl⟩
  | cons slot slots ih =>
    obtain ⟨record, held⟩ : ∃ record, store[slot]? = some record :=
      ⟨_, Std.ExtTreeMap.getElem?_eq_some_getElem (live slot List.mem_cons_self)⟩
    obtain ⟨step, first, made⟩ := remaking?_entry standard held
    -- the rest is made on top of it
    obtain ⟨steps, rest, holds⟩ :=
      ih (fun other h => live other (List.mem_cons_of_mem slot h)) (base.insert slot record)
    refine ⟨step :: steps, ?_, ?_⟩
    · rw [List.map_cons, List.mapM_cons, first, rest]
      rfl
    · intro other
      rw [List.map_cons, Program.run_cons, made base, holds other, getElem?_insert]
      -- a slot that is listed twice is made twice, with the same record
      by_cases later : other ∈ slots
      · rw [if_pos later, if_pos (List.mem_cons_of_mem slot later)]
      rw [if_neg later]
      by_cases same : slot = other
      · subst same
        rw [if_pos rfl, if_pos List.mem_cons_self, held]
      · rw [if_neg same, if_neg]
        exact List.not_mem_cons_of_ne_of_not_mem (Ne.symm same) later

/-- All slots made anew from empty ones, in whatever order, are the store. -/
theorem run_remaking_of_perm (standard : store.Standard) {order : List String} (perm : order.Perm store.keys) :
    ∃ steps, (order.map store.entry).mapM Json.remaking? = some steps ∧
      (Program.run (steps.map Step.ofJson) ∅).2 = store := by
  -- an order of the names has each of them, and no other
  have listed (slot : String) : slot ∈ order ↔ slot ∈ store := perm.mem_iff.trans Std.ExtTreeMap.mem_keys
  obtain ⟨steps, read, holds⟩ := run_remaking standard order (fun slot h => (listed slot).mp h) ∅
  refine ⟨steps, read, Std.ExtTreeMap.ext_getElem? ?_⟩
  intro slot
  rw [holds slot]
  by_cases live : slot ∈ order
  · rw [if_pos live]
  · rw [if_neg live, getElem?_empty]
    exact (Std.ExtTreeMap.getElem?_eq_none fun held => live ((listed slot).mpr held)).symm

end Store

/-- **A dump is a faithful image of the store.** For every store that a program reaches, the dump has an entry
for each slot that holds a record and for no other, with the view that the slot answers; the names ascend
strictly by their bytes. And whatever the order in which the entries are taken, the steps that make each
listed slot by its constructor, with the arguments that its view shows, lead from empty slots to that store and
to that dump. -/
theorem Program.dump_remade (program : Program) :
    let store := (run program ∅).2
    let slots := store.keys
    (Step.dump.run store).1.toJson = .arr (slots.map store.entry) ∧
      (∀ slot, slots.count slot = if store[slot]?.isSome then 1 else 0) ∧
      (∀ slot ∈ slots, ∃ record : Record, store[slot]? = some record ∧
        store.entry slot = .arr [.str slot, record.view]) ∧
      slots.Pairwise (fun slot later => SlotName.utf8 slot < SlotName.utf8 later) ∧
      ∀ order : List String, order.Perm slots →
        ∃ steps, (order.map store.entry).mapM Json.remaking? = some steps ∧
          (run (steps.map Step.ofJson) ∅).2 = store ∧
          (Step.dump.run (run (steps.map Step.ofJson) ∅).2).1 = (Step.dump.run store).1 := by
  intro store slots
  -- the store has been reached from the empty one, so all of its records are standard
  have standard : store.Standard := program.standard_run Store.Standard.empty
  refine ⟨store.toJson_dump, store.count_keys, ?_, store.ascending_keys, ?_⟩
  · intro slot listed
    have held := Std.ExtTreeMap.getElem?_eq_some_getElem (Std.ExtTreeMap.mem_keys.mp listed)
    exact ⟨_, held, Store.entry_eq held⟩
  · intro order perm
    obtain ⟨steps, read, same⟩ := Store.run_remaking_of_perm standard perm
    exact ⟨steps, read, same, by rw [same]⟩

/-- A name outside the first plane comes after the last of it, and the empty name comes before all. The slots
are made anew from the last to the first. -/
theorem Program.dump_remade_astral_name :
    let store := (run [.make "😀" (.fixture "Ann" (-1) "" "x"), .make "p" (.leaf (.person "" 7 "")),
      .move "p" "\uffff", .make "" (.leaf .group)] ∅).2
    store.keys = ["", "\uffff", "😀"] ∧ ["😀", "\uffff", ""].Perm store.keys ∧
      ∃ steps, (["😀", "\uffff", ""].map store.entry).mapM Json.remaking? = some steps ∧
        (run (steps.map Step.ofJson) ∅).2 = store ∧
        (Step.dump.run (run (steps.map Step.ofJson) ∅).2).1 = (Step.dump.run store).1 := by
  intro store
  have keys : store.keys = ["", "\uffff", "😀"] := rfl
  have backwards : ["😀", "\uffff", ""].Perm store.keys := by
    rw [keys]
    exact List.reverse_perm ["", "\uffff", "😀"]
  exact ⟨keys, backwards, (dump_remade _).2.2.2.2 _ backwards⟩

end Profiles
