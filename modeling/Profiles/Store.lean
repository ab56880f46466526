import Profiles.Query
import Std.Data.ExtTreeMap

/-!
# Stores

Records under names. A `Store` is a finite map from slot names to records, ordered by the names as their
UTF-8 bytes are, and two stores that hold the same records under the same names are equal. Records are
values, so what is put into one slot is never seen in another.

The look-ups here fail with the name that was asked for: `fetch` where nothing is there, `person`, `group`,
`workspace` and `fixture` also where a record of another kind is. A `Check` is what is asked of a slot before
anything is changed: that the slot holds a record, and that the record is of a given kind where one is given.
Checks are made in order, and the first that fails gives the failure.

A store is also the list of its entries, a name and a record for each slot that holds one. The names ascend
strictly by their bytes (`Store.ascending_keys`), so no slot is listed twice, and what is listed is what the
slots hold. One entry can be taken out: the list is that entry and the entries of the store without it, up to
their order (`Store.toList_perm_cons_erase`). A sum over a store is changed through this, slot by slot.
-/

namespace Profiles

/-! ### Names -/

namespace SlotName

/-- The bytes of a name in UTF-8. -/
def utf8 (name : String) : List UInt8 := name.toUTF8.data.toList

theorem utf8_injective {a b : String} (h : utf8 a = utf8 b) : a = b := by
  rw [← String.toByteArray_inj]
  exact ByteArray.ext (Array.toList_inj.mp h)

/-- The order of names: that of their bytes. -/
def order (a b : String) : Ordering := compare (utf8 a) (utf8 b)

/-- The order of names is one because that of lists of bytes is. -/
instance : Std.TransCmp order where
  eq_swap {a b} := by
    show compare (utf8 a) (utf8 b) = (compare (utf8 b) (utf8 a)).swap
    exact Std.OrientedCmp.eq_swap
  isLE_trans {a b c} hab hbc := by
    show (compare (utf8 a) (utf8 c)).isLE
    exact Std.TransCmp.isLE_trans hab hbc

/-- Only a name itself is level with a name, since no two names have the same bytes. -/
instance : Std.LawfulEqCmp order where
  compare_self {a} := by
    show compare (utf8 a) (utf8 a) = .eq
    exact Std.ReflCmp.compare_self
  eq_of_compare {a b} h := by
    have h : compare (utf8 a) (utf8 b) = .eq := h
    exact utf8_injective (Std.LawfulEqCmp.eq_of_compare h)

end SlotName

/-- Records under names. -/
abbrev Store := Std.ExtTreeMap String Record SlotName.order

namespace Store

/-- The record in a slot. -/
def fetch (store : Store) (slot : String) : Except Failure Record :=
  match store[slot]? with
  | some record => .ok record
  | none => .error (.noSuchSlot slot)

theorem fetch_eq_ok_iff {store : Store} {slot : String} {record : Record} :
    store.fetch slot = .ok record ↔ store[slot]? = some record := by
  unfold fetch
  cases store[slot]? <;> simp

theorem fetch_eq_error_iff {store : Store} {slot : String} {failure : Failure} :
    store.fetch slot = .error failure ↔ store[slot]? = none ∧ failure = .noSuchSlot slot := by
  unfold fetch
  cases store[slot]? <;> simp [eq_comm]

/-- The person in a slot. -/
def person (store : Store) (slot : String) : Except Failure Person := do
  match ← store.fetch slot with
  | .person p => return p
  | _ => throw (.wrongKind slot)

/-- The group in a slot. -/
def group (store : Store) (slot : String) : Except Failure Group := do
  match ← store.fetch slot with
  | .group g => return g
  | _ => throw (.wrongKind slot)

/-- The workspace in a slot. -/
def workspace (store : Store) (slot : String) : Except Failure Workspace := do
  match ← store.fetch slot with
  | .workspace w => return w
  | _ => throw (.wrongKind slot)

/-- The fixture in a slot. -/
def fixture (store : Store) (slot : String) : Except Failure Fixture := do
  match ← store.fetch slot with
  | .fixture f => return f
  | _ => throw (.wrongKind slot)

end Store

/-! ### Checks -/

/-- A condition on one slot. -/
structure Check where
  slot : String
  /-- The kind that the record must be of; any kind will do where none is given. -/
  kind : Option Kind
deriving DecidableEq

namespace Check

/-- The slot holds a record. -/
def present (slot : String) : Check where
  slot := slot
  kind := none

/-- The slot holds a record of the given kind. -/
def holds (slot : String) (kind : Kind) : Check where
  slot := slot
  kind := some kind

end Check

namespace Store

/-- One check is made. -/
def verify (store : Store) (check : Check) : Except Failure Unit := do
  let record ← store.fetch check.slot
  if check.kind.all (record.kind = ·) then return () else throw (.wrongKind check.slot)

/-- Checks are made in order, up to the first that fails. -/
def verifyAll (store : Store) : List Check → Except Failure Unit
  | [] => return ()
  | check :: checks => do
    store.verify check
    store.verifyAll checks

end Store

/-! ### What slots hold -/

/-- A computation in two parts succeeds when both do. -/
theorem Except.bind_eq_ok_iff {ε α β : Type} {first : Except ε α} {rest : α → Except ε β} {result : β} :
    (first >>= rest) = .ok result ↔ ∃ a, first = .ok a ∧ rest a = .ok result := by
  -- the second part is made on the value of the first, and not at all where the first has failed
  cases first with
  | ok a => simp [bind, Except.bind]
  | error reason => simp [bind, Except.bind]

namespace Store

variable {store : Store} {slot other : String} {record : Record}

theorem getElem?_empty (slot : String) : (∅ : Store)[slot]? = none := Std.ExtTreeMap.getElem?_empty

/-- What a slot holds after a record has been put into one. -/
theorem getElem?_insert (store : Store) (slot other : String) (record : Record) :
    (store.insert slot record)[other]? = if slot = other then some record else store[other]? := by
  rw [Std.ExtTreeMap.getElem?_insert]
  simp only [Std.LawfulEqCmp.compare_eq_iff_eq]

/-- What a slot holds after one has been emptied. -/
theorem getElem?_erase (store : Store) (slot other : String) :
    (store.erase slot)[other]? = if slot = other then none else store[other]? := by
  rw [Std.ExtTreeMap.getElem?_erase]
  simp only [Std.LawfulEqCmp.compare_eq_iff_eq]

/-- A look-up that takes records of one form finds one where the slot holds a record of that form. -/
theorem fetch_bind_eq_ok_iff {α : Type} {take : Record → Except Failure α} {taken : α}
    (only : ∀ held, take held = .ok taken ↔ held = record) :
    (store.fetch slot >>= take) = .ok taken ↔ store[slot]? = some record := by
  rw [Except.bind_eq_ok_iff]
  constructor
  -- what is there must be that record, since only it is taken
  · rintro ⟨held, there, fits⟩
    obtain rfl := (only held).mp fits
    exact fetch_eq_ok_iff.mp there
  · intro there
    exact ⟨record, fetch_eq_ok_iff.mpr there, (only record).mpr rfl⟩

theorem person_eq_ok_iff {p : Person} :
    store.person slot = .ok p ↔ store[slot]? = some (.person p) := by
  refine fetch_bind_eq_ok_iff fun held => ?_
  cases held <;> simp [throw, throwThe, pure, Except.pure]

theorem group_eq_ok_iff {g : Group} :
    store.group slot = .ok g ↔ store[slot]? = some (.group g) := by
  refine fetch_bind_eq_ok_iff fun held => ?_
  cases held <;> simp [throw, throwThe, pure, Except.pure]

theorem workspace_eq_ok_iff {w : Workspace} :
    store.workspace slot = .ok w ↔ store[slot]? = some (.workspace w) := by
  refine fetch_bind_eq_ok_iff fun held => ?_
  cases held <;> simp [throw, throwThe, pure, Except.pure]

theorem fixture_eq_ok_iff {f : Fixture} :
    store.fixture slot = .ok f ↔ store[slot]? = some (.fixture f) := by
  refine fetch_bind_eq_ok_iff fun held => ?_
  cases held <;> simp [throw, throwThe, pure, Except.pure]

end Store

/-! ### Entries -/

namespace SlotName

/-- Lists of bytes are compared as they are ordered: by the first byte that differs, and a list comes before
those that go on from it. -/
theorem compare_bytes_eq_lt_iff (bytes bytes' : List UInt8) :
    compare bytes bytes' = .lt ↔ bytes < bytes' := by
  induction bytes generalizing bytes' with
  | nil =>
    cases bytes' with
    | nil => exact ⟨nofun, nofun⟩
    | cons b' bytes' => exact ⟨fun _ => List.nil_lt_cons b' bytes', fun _ => rfl⟩
  | cons b bytes ih =>
    cases bytes' with
    | nil => exact ⟨nofun, nofun⟩
    | cons b' bytes' =>
      -- the first bytes decide where they differ, and the rest where they are the same
      rw [List.compare_cons_cons, Ordering.then_eq_lt, Std.compare_eq_lt, Std.compare_eq_iff_eq, ih,
        List.cons_lt_cons_iff]

/-- A name comes first when its bytes do. -/
theorem order_eq_lt_iff {a b : String} : order a b = .lt ↔ utf8 a < utf8 b :=
  compare_bytes_eq_lt_iff (utf8 a) (utf8 b)

end SlotName

namespace Store

variable {store : Store} {slot : String} {record : Record}

/-- **The names of a store ascend** by their bytes, from each to all later ones. -/
theorem ascending_keys (store : Store) :
    store.keys.Pairwise fun slot later => SlotName.utf8 slot < SlotName.utf8 later := by
  have ordered := Std.ExtTreeMap.ordered_keys (t := store)
  exact ordered.imp fun first => SlotName.order_eq_lt_iff.mp first

theorem nodup_keys (store : Store) : store.keys.Nodup := by
  -- a name comes before all later ones, and no name comes before itself
  refine store.ascending_keys.imp ?_
  intro slot later ascending same
  rw [same] at ascending
  exact List.lt_irrefl _ ascending

/-- **Each slot that holds a record is listed once**, and no other is. -/
theorem count_keys (store : Store) (slot : String) :
    store.keys.count slot = if store[slot]?.isSome then 1 else 0 := by
  have held : slot ∈ store.keys ↔ store[slot]?.isSome :=
    Std.ExtTreeMap.mem_keys.trans Std.ExtTreeMap.mem_iff_isSome_getElem?
  rw [store.nodup_keys.count]
  simp only [held]

theorem nodup_toList (store : Store) : store.toList.Nodup := by
  have names : store.toList.map Prod.fst = store.keys := Std.ExtTreeMap.map_fst_toList_eq_keys
  have nodup : (store.toList.map Prod.fst).Nodup := names ▸ store.nodup_keys
  -- two entries with different names are different, whatever records they hold
  refine (List.pairwise_map.mp nodup).imp ?_
  intro entry later different same
  exact different (congrArg Prod.fst same)

/-- The entry of a slot is in the list with what the slot holds. -/
theorem mem_toList_iff : (slot, record) ∈ store.toList ↔ store[slot]? = some record :=
  Std.ExtTreeMap.mem_toList_iff_getElem?_eq_some

/-- **One entry is taken out of a store.** -/
theorem toList_perm_cons_erase (held : store[slot]? = some record) :
    store.toList.Perm ((slot, record) :: (store.erase slot).toList) := by
  -- what is taken out is not there afterwards
  have emptied : (store.erase slot)[slot]? = none := by rw [getElem?_erase, if_pos rfl]
  have absent : (slot, record) ∉ (store.erase slot).toList := by
    intro listed
    rw [mem_toList_iff, emptied] at listed
    cases listed
  have nodup : ((slot, record) :: (store.erase slot).toList).Nodup :=
    List.nodup_cons.mpr ⟨absent, nodup_toList _⟩
  -- neither list has an entry twice, so it is enough that they have the same ones
  rw [List.perm_ext_iff_of_nodup store.nodup_toList nodup]
  rintro ⟨other, kept⟩
  rw [List.mem_cons, mem_toList_iff, mem_toList_iff]
  by_cases same : slot = other
  -- the entry itself, which is the head of the second list and not in its tail
  · subst same
    rw [held, emptied]
    simp [eq_comm]
  -- any other entry, which both stores hold alike
  · rw [getElem?_erase, if_neg same]
    simp [Ne.symm same]

end Store

end Profiles
