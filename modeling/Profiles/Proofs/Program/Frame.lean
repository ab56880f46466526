import Profiles.Proofs.Program.Independence

/-!
# What a run leaves alone

A slot that no step of a program writes holds in the end what it held in the beginning, a record or nothing
(`Program.getElem?_run`). How often it was copied from does not matter, nor what became of the copies: a
record that is cloned, bundled or taken out of a fixture is not seen through its source any more, and the
other way round.

What a step writes can be read off the JSON value that gives it (`Step.writes_ofJson`): each kind of step has
certain members for the slots that it may change, and a step that only looks has none. So the frame of a run
can be told from the program as it was put (`Program.run_frame`).
-/

namespace Profiles

/-! ### What a step writes, as it is put -/

namespace Step

/-- The members that name the slots which a step may change, by what the step is to do. -/
def writeMembers : String → List String
  | "make" | "clone" | "bundle" | "extract" | "assign" => ["to"]
  | "move" => ["from", "to"]
  | "drop" => ["from"]
  | "swap" => ["fixture", "part"]
  | _ => []

/-- What has been read needed something, which was there. -/
theorem needed_bind_eq_ok_iff {α : Type} {checks : List Check} {found : Option α}
    {rest : α → Reading Step} {step : Step} :
    (needed checks found >>= rest) = .ok step ↔ ∃ a, found = some a ∧ rest a = .ok step := by
  cases found with
  | none => simp [needed, bind, Except.bind]
  | some a => simp [needed, bind, Except.bind]

/-- A question is none of the steps that write. -/
theorem writeMembers_of_query {name : String} {ask : Json → Option Query}
    (h : Query.ofName? name = some ask) : writeMembers name = [] := by
  unfold Query.ofName? at h
  -- the four names of questions are none of those on the list
  split at h
  case h_5 => cases h
  all_goals rfl

/-- The slots that a step writes are those in the members for them, one by one. -/
theorem map_writeMembers_of_read {value : Json} {name : String} {step : Step}
    (h : read value name = .ok step) :
    (writeMembers name).map value.text? = step.writes.map some := by
  -- the word of the step decides which members are read, and the slots come from those
  unfold read at h
  split at h
  case h_1 => -- make
    obtain ⟨target, named, h⟩ := needed_bind_eq_ok_iff.mp h
    obtain ⟨recipe, -, h⟩ := needed_bind_eq_ok_iff.mp h
    obtain rfl := Except.ok.inj h
    exact congrArg (fun slot => [slot]) named
  case h_2 => -- clone
    obtain ⟨source, -, h⟩ := needed_bind_eq_ok_iff.mp h
    obtain ⟨target, named, h⟩ := needed_bind_eq_ok_iff.mp h
    obtain rfl := Except.ok.inj h
    exact congrArg (fun slot => [slot]) named
  case h_3 => -- move
    obtain ⟨source, emptied, h⟩ := needed_bind_eq_ok_iff.mp h
    obtain ⟨target, named, h⟩ := needed_bind_eq_ok_iff.mp h
    obtain rfl := Except.ok.inj h
    show [value.text? "from", value.text? "to"] = [some source, some target]
    rw [emptied, named]
  case h_4 => -- drop
    obtain ⟨source, emptied, h⟩ := needed_bind_eq_ok_iff.mp h
    obtain rfl := Except.ok.inj h
    exact congrArg (fun slot => [slot]) emptied
  case h_5 => -- bundle
    obtain ⟨person, -, h⟩ := needed_bind_eq_ok_iff.mp h
    obtain ⟨group, -, h⟩ := needed_bind_eq_ok_iff.mp h
    obtain ⟨workspace, -, h⟩ := needed_bind_eq_ok_iff.mp h
    obtain ⟨target, named, h⟩ := needed_bind_eq_ok_iff.mp h
    obtain rfl := Except.ok.inj h
    exact congrArg (fun slot => [slot]) named
  case h_6 => -- extract
    obtain ⟨source, -, h⟩ := needed_bind_eq_ok_iff.mp h
    obtain ⟨part, -, h⟩ := needed_bind_eq_ok_iff.mp h
    obtain ⟨target, named, h⟩ := needed_bind_eq_ok_iff.mp h
    obtain rfl := Except.ok.inj h
    exact congrArg (fun slot => [slot]) named
  case h_7 => -- swap
    obtain ⟨fixture, whole, h⟩ := needed_bind_eq_ok_iff.mp h
    obtain ⟨part, piece, h⟩ := needed_bind_eq_ok_iff.mp h
    obtain rfl := Except.ok.inj h
    show [value.text? "fixture", value.text? "part"] = [some fixture, some part]
    rw [whole, piece]
  case h_8 => -- assign
    obtain ⟨source, -, h⟩ := needed_bind_eq_ok_iff.mp h
    obtain ⟨target, named, h⟩ := needed_bind_eq_ok_iff.mp h
    obtain rfl := Except.ok.inj h
    exact congrArg (fun slot => [slot]) named
  case h_9 => -- eq
    obtain ⟨a, -, h⟩ := needed_bind_eq_ok_iff.mp h
    obtain ⟨b, -, h⟩ := needed_bind_eq_ok_iff.mp h
    obtain rfl := Except.ok.inj h
    rfl
  case h_10 => -- dump
    obtain rfl := Except.ok.inj h
    rfl
  case h_11 => -- a question
    obtain ⟨ask, known, h⟩ := needed_bind_eq_ok_iff.mp h
    obtain ⟨source, -, h⟩ := needed_bind_eq_ok_iff.mp h
    obtain ⟨query, -, h⟩ := needed_bind_eq_ok_iff.mp h
    obtain rfl := Except.ok.inj h
    rw [writeMembers_of_query known]
    rfl

end Step

namespace Json

/-- The members of a step that name the slots which it may change. -/
def writeMembers (value : Json) : List String :=
  match value.text? "do" with
  | some name => Step.writeMembers name
  | none => []

/-- Whether a JSON value, as a step, may change a slot. -/
def Writes (value : Json) (slot : String) : Prop :=
  ∃ member ∈ value.writeMembers, value.text? member = some slot

instance (value : Json) (slot : String) : Decidable (value.Writes slot) :=
  inferInstanceAs (Decidable (∃ member ∈ value.writeMembers, value.text? member = some slot))

theorem writeMembers_of_name {value : Json} {name : String} (named : value.text? "do" = some name) :
    value.writeMembers = Step.writeMembers name := by
  rw [writeMembers, named]

end Json

/-- A step writes no slot but those that its JSON value says. -/
theorem Step.writes_ofJson (value : Json) : ∀ slot ∈ (ofJson value).writes, value.Writes slot := by
  intro slot written
  unfold ofJson at written
  split at written
  · next step h =>
    obtain ⟨name, named, h⟩ := needed_bind_eq_ok_iff.mp h
    have members := map_writeMembers_of_read h
    -- what the step writes comes from a member that is on the list
    have mem : some slot ∈ (writeMembers name).map value.text? := by
      rw [members]
      exact List.mem_map_of_mem written
    obtain ⟨member, listed, held⟩ := List.mem_map.mp mem
    rw [← Json.writeMembers_of_name named] at listed
    exact ⟨member, listed, held⟩
  · -- an incomplete step makes checks only
    cases written

/-! ### Runs -/

/-- A step that writes no slot leaves the store. -/
theorem Step.store_run_of_writes {step : Step} (reads : step.writes = []) (store : Store) :
    (step.run store).2 = store := by
  refine Std.ExtTreeMap.ext_getElem? fun slot => step.getElem?_run store ?_
  rw [reads]
  exact List.not_mem_nil

namespace Program

/-- **A run leaves alone the slots that its steps do not write.** -/
theorem getElem?_run (program : Program) (store : Store) {slot : String}
    (untouched : ∀ step ∈ program, slot ∉ step.writes) :
    (program.run store).2[slot]? = store[slot]? := by
  refine unchanged_run (fun store => store[slot]?) ?_ store
  intro step h before
  exact step.getElem?_run before (untouched step h)

/-- **Slots are values.** Whatever steps are run, and whatever they make of the copies and parts of what a
slot holds, the slot holds in the end what it held before, a record or nothing, when it is in no member from
which one of the steps would write. A step that only looks writes nothing at all. -/
theorem run_frame (store : Store) (steps : List Json) :
    (∀ slot, (∀ step ∈ steps, ¬ step.Writes slot) →
      (run (steps.map Step.ofJson) store).2[slot]? = store[slot]?) ∧
    (∀ step : Json, ∀ name ∈ ["get", "debug", "json", "serde", "eq", "dump"],
      step.text? "do" = some name → ((Step.ofJson step).run store).2 = store) := by
  constructor
  · intro slot untouched
    -- a step that would write the slot has it in one of its members
    refine getElem?_run _ store fun step h written => ?_
    obtain ⟨value, listed, rfl⟩ := List.mem_map.mp h
    exact untouched value listed (Step.writes_ofJson value slot written)
  · intro step name looks named
    refine Step.store_run_of_writes (List.eq_nil_iff_forall_not_mem.mpr fun slot written => ?_) store
    obtain ⟨member, listed, -⟩ := Step.writes_ofJson step slot written
    -- the six words have no members to write from
    have none_written : ∀ name ∈ ["get", "debug", "json", "serde", "eq", "dump"],
        Step.writeMembers name = [] := by decide
    rw [Json.writeMembers_of_name named, none_written name looks] at listed
    cases listed

/-- A person that is cloned and bundled stays in its slot, while the clone is assigned another person, the
fixture trades its own away, and the rest is dropped. -/
theorem run_frame_copied_person :
    let store := (run [.make "p" (.leaf (.person "Ann" 7 "")), .make "g" (.leaf .group),
      .make "w" (.leaf (.workspace "x")), .make "q" (.leaf (.person "Bob" (-1) ""))] ∅).2
    let steps : List Json := [
      .obj [("do", .str "clone"), ("from", .str "p"), ("to", .str "c")],
      .obj [("do", .str "bundle"), ("person", .str "p"), ("group", .str "g"),
        ("workspace", .str "w"), ("to", .str "f")],
      .obj [("do", .str "assign"), ("from", .str "q"), ("to", .str "c")],
      .obj [("do", .str "swap"), ("fixture", .str "f"), ("part", .str "q")],
      .obj [("do", .str "drop"), ("from", .str "f")]]
    let dump : Json := .obj [("do", .str "dump")]
    ((∀ step ∈ steps, ¬ step.Writes "p") ∧
      (run (steps.map Step.ofJson) store).2["p"]? = store["p"]?) ∧
    ("dump" ∈ ["get", "debug", "json", "serde", "eq", "dump"] ∧ dump.text? "do" = some "dump" ∧
      ((Step.ofJson dump).run store).2 = store) :=
  ⟨⟨by decide, (run_frame _ _).1 "p" (by decide)⟩,
    ⟨by decide, by decide, (run_frame _ []).2 _ "dump" (by decide) (by decide)⟩⟩

end Program

end Profiles
