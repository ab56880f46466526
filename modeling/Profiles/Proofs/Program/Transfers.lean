import Profiles.Proofs.Program.Effects

/-!
# Three ways to hand on a record

A record gets from one slot into another by a clone, by a move, or by an assignment. The three differ in what
becomes of the source and in what they ask of the target: a move empties the source, and an assignment wants a
record of the same kind where it writes. In all else they agree (`Program.run_transfers`).

A move is a clone after which the source is dropped, whatever the target held before. Only where source and
target are one slot would the drop take away what was moved; there the move leaves the store as it is, since the
slot is emptied first and filled again. An assignment that succeeds is a clone, answer and store.
-/

namespace Profiles

/-! ### Writing and emptying slots -/

namespace Store

variable {store : Store} {slot other : String} {record : Record}

/-- What is put where it already is changes nothing. -/
theorem insert_of_held (held : store[slot]? = some record) : store.insert slot record = store := by
  apply Std.ExtTreeMap.ext_getElem?
  intro place
  rw [getElem?_insert]
  by_cases same : slot = place
  · rw [if_pos same, ← same, held]
  · rw [if_neg same]

/-- Emptying a slot before it is written makes no difference. -/
theorem insert_erase_self (store : Store) (slot : String) (record : Record) :
    Std.ExtTreeMap.insert (store.erase slot) slot record = store.insert slot record := by
  apply Std.ExtTreeMap.ext_getElem?
  intro place
  -- what was in the slot is overwritten anyway
  rw [getElem?_insert, getElem?_erase, getElem?_insert]
  by_cases same : slot = place
  · rw [if_pos same, if_pos same]
  · rw [if_neg same, if_neg same, if_neg same]

/-- Of two slots one can be emptied before the other is written, or after that. -/
theorem erase_insert_of_ne (apart : slot ≠ other) (store : Store) (record : Record) :
    Std.ExtTreeMap.erase (store.insert other record) slot =
      Std.ExtTreeMap.insert (store.erase slot) other record := by
  apply Std.ExtTreeMap.ext_getElem?
  intro place
  rw [getElem?_erase, getElem?_insert, getElem?_insert, getElem?_erase]
  by_cases emptied : slot = place
  · -- the emptied slot is not the one that is written
    rw [if_pos emptied, if_pos emptied, if_neg]
    rw [← emptied]
    exact apart.symm
  · rw [if_neg emptied, if_neg emptied]

end Store

/-! ### One transfer at a time -/

namespace Step

variable {store : Store} {a b : String} {record : Record}

/-- A move and a clone fail alike where there is nothing to hand on. -/
theorem run_move_of_vacant (vacant : store[a]? = none) :
    (move a b).run store = (clone a b).run store := by
  have missing : store.fetch a = .error (.noSuchSlot a) := Store.fetch_eq_error_iff.mpr ⟨vacant, rfl⟩
  rw [run, run, perform, perform, missing]
  rfl

/-- **A move answers what a clone answers.** -/
theorem outcome_move (store : Store) (a b : String) :
    ((move a b).run store).1 = ((clone a b).run store).1 := by
  cases held : store[a]? with
  | none => rw [run_move_of_vacant held]
  | some record =>
    rw [run_eq_ok_iff.mpr (.move b held), run_eq_ok_iff.mpr (.clone b held)]

/-- A slot that is moved onto itself stays. -/
theorem store_move_self (held : store[a]? = some record) : ((move a a).run store).2 = store := by
  rw [run_eq_ok_iff.mpr (.move a held)]
  calc Std.ExtTreeMap.insert (store.erase a) a record
      = store.insert a record := Store.insert_erase_self store a record
    _ = store := Store.insert_of_held held

/-- **A move onto another slot is a clone, after which the source is dropped.** -/
theorem performs_clone_drop (apart : a ≠ b) (held : store[a]? = some record) :
    Program.Performs store [.clone a b, .drop a] [.view record, .view record]
      ((move a b).run store).2 := by
  -- the source still holds the record when it is dropped
  have still : (store.insert b record)[a]? = some record := by
    rw [Store.getElem?_insert, if_neg apart.symm, held]
  rw [run_eq_ok_iff.mpr (.move b held), ← Store.erase_insert_of_ne apart]
  exact .cons (.clone b held) (.cons (.drop still) (.nil _))

/-- An assignment succeeds where both slots hold records of one kind, and nowhere else. -/
theorem assign_succeeds_iff :
    (∃ answer, ((assign a b).run store).1 = .ok answer) ↔
      ∃ record old : Record, store[a]? = some record ∧ store[b]? = some old ∧
        record.kind = old.kind := by
  constructor
  · rintro ⟨answer, answered⟩
    obtain ⟨store', performs, -⟩ := exists_performs answered
    cases performs with
    | assign held replaced kind => exact ⟨_, _, held, replaced, kind⟩
  · rintro ⟨record, old, held, replaced, kind⟩
    rw [run_eq_ok_iff.mpr (.assign held replaced kind)]
    exact ⟨_, rfl⟩

/-- **An assignment that succeeds is a clone.** -/
theorem run_assign (held : store[a]? = some record) {old : Record} (replaced : store[b]? = some old)
    (kind : record.kind = old.kind) : (assign a b).run store = (clone a b).run store := by
  rw [run_eq_ok_iff.mpr (.assign held replaced kind), run_eq_ok_iff.mpr (.clone b held)]

end Step

/-! ### All three -/

namespace Program

/-- **Move and assignment agree with the clone.** For all slots, whatever they hold or do not hold, a move answers
what a clone answers. A move that succeeds leaves what the clone leaves after a drop of the source, and where
source and target are one slot it leaves the store as it was. An assignment succeeds exactly where both slots
hold records of one kind; it is the clone then, and changes nothing where both are one slot. -/
theorem run_transfers (store : Store) (a b : String) :
    let cloned := (Step.clone a b).run store
    let moved := (Step.move a b).run store
    let assigned := (Step.assign a b).run store
    (moved.1 = cloned.1 ∧
      ∀ answer, moved.1 = .ok answer →
        (a ≠ b → run [.clone a b, .drop a] store = ([.ok answer, .ok answer], moved.2)) ∧
        (a = b → moved.2 = store)) ∧
    ((∃ answer, assigned.1 = .ok answer) ↔
      ∃ record old : Record, store[a]? = some record ∧ store[b]? = some old ∧
        record.kind = old.kind) ∧
    ∀ answer, assigned.1 = .ok answer → assigned = cloned ∧ (a = b → assigned.2 = store) := by
  intro cloned moved assigned
  refine ⟨⟨Step.outcome_move store a b, ?_⟩, Step.assign_succeeds_iff, ?_⟩
  -- a move that answers has followed its rule, so the source held a record
  · intro answer answered
    obtain ⟨store', performs, -⟩ := Step.exists_performs answered
    cases performs with
    | move target held =>
      constructor
      · intro apart
        exact (Step.performs_clone_drop apart held).run_eq
      · rintro rfl
        exact Step.store_move_self held
  -- an assignment that answers has found two records of one kind
  · intro answer answered
    obtain ⟨record, old, held, replaced, kind⟩ := Step.assign_succeeds_iff.mp ⟨answer, answered⟩
    have same : assigned = cloned := Step.run_assign held replaced kind
    refine ⟨same, ?_⟩
    rintro rfl
    rw [same]
    show ((Step.clone a a).run store).2 = store
    rw [Step.run_eq_ok_iff.mpr (.clone a held)]
    exact Store.insert_of_held held

/-- A person is moved over a fixture and onto itself, and assigned to a slot of its kind and to itself. -/
theorem run_transfers_over_fixture :
    let store := (run [.make "p" (.leaf (.person "Ann" 7 "")), .make "q" (.leaf (.person "Bob" (-1) "")),
      .make "f" .sample] ∅).2
    let ann : Answer := .view (.person (.new "Ann" 7 ""))
    (((Step.move "p" "f").run store).1 = .ok ann ∧
      run [.clone "p" "f", .drop "p"] store = ([.ok ann, .ok ann], ((Step.move "p" "f").run store).2)) ∧
    (((Step.move "p" "p").run store).1 = .ok ann ∧ ((Step.move "p" "p").run store).2 = store) ∧
    (((Step.assign "p" "q").run store).1 = .ok ann ∧
      (Step.assign "p" "q").run store = (Step.clone "p" "q").run store) ∧
    (((Step.assign "p" "p").run store).1 = .ok ann ∧ ((Step.assign "p" "p").run store).2 = store) ∧
    ¬ ∃ answer, ((Step.assign "p" "f").run store).1 = .ok answer := by
  intro store ann
  have moved (target : String) : ((Step.move "p" target).run store).1 = .ok ann := rfl
  have assigned : ((Step.assign "p" "q").run store).1 = .ok ann := rfl
  have kept : ((Step.assign "p" "p").run store).1 = .ok ann := rfl
  refine ⟨⟨moved "f", ((run_transfers store "p" "f").1.2 ann (moved "f")).1 (by decide)⟩,
    ⟨moved "p", ((run_transfers store "p" "p").1.2 ann (moved "p")).2 rfl⟩,
    ⟨assigned, ((run_transfers store "p" "q").2.2 ann assigned).1⟩,
    ⟨kept, ((run_transfers store "p" "p").2.2 ann kept).2 rfl⟩, ?_⟩
  -- the fixture is not of the kind of the person
  intro succeeds
  obtain ⟨record, old, held, replaced, kind⟩ := (run_transfers store "p" "f").2.1.mp succeeds
  obtain rfl : Record.person (.new "Ann" 7 "") = record := Option.some.inj held
  obtain rfl : Record.fixture .sample = old := Option.some.inj replaced
  cases kind

end Program

end Profiles
