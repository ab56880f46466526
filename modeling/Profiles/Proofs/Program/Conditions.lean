import Profiles.Proofs.Program.Reachable
import Profiles.Proofs.Record.Calls

/-!
# What a step asks for

A step makes conditions on what slots hold, and sometimes on a name that it is given. `Step.conditions` lists
them in their order, each with the error that is answered where it fails. A step succeeds exactly where all its
conditions hold, and otherwise answers the error of the first that does not (`Step.answered_by_conditions`).

Several conditions may fail at once, and a name may stand in more than one place: a fixture can be traded for
itself, and one slot be given for two parts of a bundle. Nothing has to be said about such cases. `Makes` follows
an attempt along a list of conditions, one at a time, and what is done in two parts makes the conditions of the
first and then those of the second (`Makes.bind`); so each look-up is followed once, and every step is put
together from its look-ups.

`Json.Puts` says which JSON values put a step in full, with all members that it takes and of their types.
-/

namespace Profiles

/-! ### Conditions -/

/-- A condition on a store, and the error that is answered where it fails. -/
structure Condition where
  holds : Store → Bool
  /-- The word for the error. -/
  error : String
  /-- The slot that the error names, if it names one. -/
  slot : Option String

namespace Condition

/-- The slot holds a record. -/
def present (slot : String) : Condition where
  holds store := store[slot]?.isSome
  error := "no_such_slot"
  slot := some slot

/-- The slot holds a record of the kind. -/
def ofKind (slot : String) (kind : Kind) : Condition where
  holds store := store[slot]?.any (·.kind = kind)
  error := "wrong_kind"
  slot := some slot

/-- The slot holds a record that can be a part. -/
def leaf (slot : String) : Condition where
  holds store := store[slot]?.any (·.kind ≠ .fixture)
  error := "wrong_kind"
  slot := some slot

/-- The slots hold records of one kind. -/
def sameKind (a b : String) (named : Option String) : Condition where
  holds store := store[a]?.map Record.kind = store[b]?.map Record.kind
  error := "wrong_kind"
  slot := named

/-- The name is one of those that are known. -/
def known (names : List String) (name : String) : Condition where
  holds _ := names.contains name
  error := "bad_input"
  slot := none

/-- The message of an error, which is left out where it would be empty. -/
def message (condition : Condition) : List (String × Json) :=
  match condition.slot with
  | some slot => if slot = "" then [] else [("message", .str slot)]
  | none => []

/-- What is answered where the condition fails. -/
def report (condition : Condition) : Json :=
  .obj (("error", .str condition.error) :: condition.message)

end Condition

/-- **The conditions of a step**, in the order in which they are made. -/
def Step.conditions : Step → List Condition
  | clone source _ | move source _ | drop source => [.present source]
  | bundle person group workspace _ =>
    [.present person, .ofKind person .person, .present group, .ofKind group .group,
      .present workspace, .ofKind workspace .workspace]
  | extract source part _ =>
    [.present source, .ofKind source .fixture, .known ["person", "group", "workspace"] part]
  | swap fixture part =>
    [.present fixture, .present part, .ofKind fixture .fixture, .leaf part]
  | assign source target =>
    [.present source, .present target, .sameKind source target (some target)]
  -- a specification that is none of those supported is refused like the name of a part that is none
  | ask source (.debug spec) => [.present source, .known Format.supported spec]
  | ask source _ => [.present source]
  | eq a b => [.present a, .present b, .sameKind a b none]
  | make _ _ | dump | incomplete _ => []

/-! ### Attempts that make conditions -/

/-- **An attempt that makes conditions**, one after the other: it succeeds when it has come to their end, and
the first that does not hold is what it fails for. -/
inductive Makes {α : Type} (store : Store) : List Condition → Except Failure α → Prop where
  | done (result : α) : Makes store [] (.ok result)
  | next {condition : Condition} {conditions : List Condition} {attempt : Except Failure α}
      (holds : condition.holds store = true) (rest : Makes store conditions attempt) :
      Makes store (condition :: conditions) attempt
  | fails {condition : Condition} {failure : Failure} (conditions : List Condition)
      (broken : condition.holds store = false) (told : failure.toJson = condition.report) :
      Makes store (condition :: conditions) (.error failure)

namespace Makes

variable {α β : Type} {store : Store} {condition : Condition} {conditions further : List Condition}
  {attempt : Except Failure α}

/-- What is done in two parts makes the conditions of the first, and then those of the second. -/
theorem bind {rest : α → Except Failure β} (first : Makes store conditions attempt)
    (second : ∀ result, attempt = .ok result → Makes store further (rest result)) :
    Makes store (conditions ++ further) (attempt >>= rest) := by
  induction first with
  | done result => exact second result rfl
  | next holds _ ih => exact .next holds (ih second)
  -- a failure of the first part is one of the whole, and nothing more is asked for
  | fails conditions broken told => exact .fails _ broken told

/-- What is known to hold need not be asked for again. -/
theorem tail (made : Makes store (condition :: conditions) attempt)
    (holds : condition.holds store = true) : Makes store conditions attempt := by
  cases made with
  | next _ rest => exact rest
  | fails _ broken _ =>
    rw [holds] at broken
    cases broken

/-- **An attempt succeeds exactly where all its conditions hold.** -/
theorem succeeds_iff (made : Makes store conditions attempt) :
    (∃ result, attempt = .ok result) ↔ ∀ condition ∈ conditions, condition.holds store = true := by
  induction made with
  | done result => exact ⟨fun _ => nofun, fun _ => ⟨result, rfl⟩⟩
  | next holds _ ih =>
    rw [ih, List.forall_mem_cons]
    exact ⟨fun all => ⟨holds, all⟩, And.right⟩
  -- one that fails is among them, so they do not all hold
  | fails conditions broken told =>
    constructor
    · rintro ⟨result, impossible⟩
      cases impossible
    · intro all
      have holds := all _ List.mem_cons_self
      rw [broken] at holds
      cases holds

/-- **An attempt fails for the first condition that does not hold.** -/
theorem failure_of_find? (made : Makes store conditions attempt)
    (first : conditions.find? (fun condition => !condition.holds store) = some condition) :
    ∃ failure, attempt = .error failure ∧ failure.toJson = condition.report := by
  induction made with
  | done result => cases first
  -- this one holds, so the first that fails is further on
  | next holds _ ih =>
    rw [List.find?_cons_of_neg (by rw [holds]; decide)] at first
    exact ih first
  | fails conditions broken told =>
    rw [List.find?_cons_of_pos (by rw [broken]; rfl)] at first
    obtain rfl := Option.some.inj first
    exact ⟨_, rfl, told⟩

end Makes

/-! ### Look-ups -/

namespace Store

variable {store : Store} {slot : String} {record : Record}

theorem present_of_held (held : store[slot]? = some record) :
    (Condition.present slot).holds store = true := by
  show store[slot]?.isSome = true
  rw [held]
  rfl

theorem makes_fetch (store : Store) (slot : String) : Makes store [.present slot] (store.fetch slot) := by
  cases held : store[slot]? with
  | some record =>
    rw [fetch_eq_ok_iff.mpr held]
    exact .next (present_of_held held) (.done record)
  | none =>
    rw [fetch_eq_error_iff.mpr ⟨held, rfl⟩]
    refine .fails [] ?_ rfl
    show store[slot]?.isSome = false
    rw [held]
    rfl

/-- A look-up that takes records of one kind makes two conditions: the slot holds a record, and that is of the
kind. -/
theorem makes_fetch_bind {α : Type} {take : Record → Except Failure α} {kind : Kind}
    (takes : ∀ held, (held.kind = kind ∧ ∃ taken, take held = .ok taken) ∨
      (held.kind ≠ kind ∧ take held = .error (.wrongKind slot))) :
    Makes store [.present slot, .ofKind slot kind] (store.fetch slot >>= take) := by
  refine (store.makes_fetch slot).bind ?_
  intro held found
  have there := fetch_eq_ok_iff.mp found
  -- there is a record by now, so only its kind is in question
  rcases takes held with ⟨same, taken, fits⟩ | ⟨other, refused⟩
  · rw [fits]
    refine .next ?_ (.done taken)
    show store[slot]?.any _ = true
    rw [there, Option.any_some, decide_eq_true same]
  · rw [refused]
    refine .fails [] ?_ rfl
    show store[slot]?.any _ = false
    rw [there, Option.any_some, decide_eq_false other]

theorem makes_person (store : Store) (slot : String) :
    Makes store [.present slot, .ofKind slot .person] (store.person slot) := by
  apply makes_fetch_bind
  rintro (p | g | w | f)
  case person => exact .inl ⟨rfl, p, rfl⟩
  all_goals exact .inr ⟨nofun, rfl⟩

theorem makes_group (store : Store) (slot : String) :
    Makes store [.present slot, .ofKind slot .group] (store.group slot) := by
  apply makes_fetch_bind
  rintro (p | g | w | f)
  case group => exact .inl ⟨rfl, g, rfl⟩
  all_goals exact .inr ⟨nofun, rfl⟩

theorem makes_workspace (store : Store) (slot : String) :
    Makes store [.present slot, .ofKind slot .workspace] (store.workspace slot) := by
  apply makes_fetch_bind
  rintro (p | g | w | f)
  case workspace => exact .inl ⟨rfl, w, rfl⟩
  all_goals exact .inr ⟨nofun, rfl⟩

theorem makes_fixture (store : Store) (slot : String) :
    Makes store [.present slot, .ofKind slot .fixture] (store.fixture slot) := by
  apply makes_fetch_bind
  rintro (p | g | w | f)
  case fixture => exact .inl ⟨rfl, f, rfl⟩
  all_goals exact .inr ⟨nofun, rfl⟩

end Store

/-! ### Names -/

theorem Part.isSome_ofName? (name : String) :
    (ofName? name).isSome = ["person", "group", "workspace"].contains name := by
  unfold ofName?
  split
  case h_4 notPerson notGroup notWorkspace =>
    symm
    simpa using ⟨notPerson, notGroup, notWorkspace⟩
  all_goals rfl

theorem Format.isSome_ofSpec?_eq (spec : String) : (ofSpec? spec).isSome = supported.contains spec := by
  by_cases listed : spec ∈ supported
  · rw [isSome_ofSpec? spec listed, List.contains_iff_mem.mpr listed]
  · rw [ofSpec?, if_neg listed, Option.isSome_none, eq_comm, ← Bool.not_eq_true, List.contains_iff_mem]
    exact listed

/-- What is found under the known names, and under no others, makes the condition that the name is known. -/
theorem Makes.known {α β : Type} {store : Store} {names : List String} {name : String} {found : Option β}
    {attempt : Except Failure α} (complete : found.isSome = names.contains name)
    (succeeds : ∀ b, found = some b → ∃ result, attempt = .ok result)
    (refuses : found = none → attempt = .error .badInput) :
    Makes store [.known names name] attempt := by
  cases found with
  | some b =>
    obtain ⟨result, rfl⟩ := succeeds b rfl
    exact .next complete.symm (.done result)
  | none =>
    rw [refuses rfl]
    exact .fails [] complete.symm rfl

/-- Records of one kind are asked for, and both slots are known to hold one. -/
theorem Makes.sameKind {α : Type} {store : Store} {a b : String} {first second : Record}
    {named : Option String} {attempt : Except Failure α} (failure : Failure)
    (left : store[a]? = some first) (right : store[b]? = some second)
    (told : failure.toJson = (Condition.sameKind a b named).report)
    (succeeds : first.kind = second.kind → ∃ result, attempt = .ok result)
    (refuses : first.kind ≠ second.kind → attempt = .error failure) :
    Makes store [.sameKind a b named] attempt := by
  have compared : (Condition.sameKind a b named).holds store = decide (first.kind = second.kind) := by
    simp [Condition.sameKind, left, right]
  by_cases same : first.kind = second.kind
  · obtain ⟨result, rfl⟩ := succeeds same
    exact .next (compared.trans (decide_eq_true same)) (.done result)
  · rw [refuses same]
    exact .fails [] (compared.trans (decide_eq_false same)) told

/-! ### Steps -/

namespace Step

/-- A step in which nothing is missing, and whose telling no budget cuts short. -/
def Whole : Step → Prop
  | incomplete _ | ask _ (.calls (some _)) => False
  | _ => True

/-- **A step makes its conditions**, in their order and before anything else. -/
theorem Whole.makes_perform {step : Step} (whole : step.Whole) (store : Store) :
    Makes store step.conditions (step.perform store) := by
  cases step with
  | make target recipe => exact .done _
  -- what is copied, moved or dropped has to be there
  | clone source target | move source target | drop source =>
    exact (store.makes_fetch source).bind fun record _ => .done _
  -- one part after the other, each with its two conditions
  | bundle person group workspace target =>
    refine (store.makes_person person).bind fun p _ => ?_
    refine (store.makes_group group).bind fun g _ => ?_
    exact (store.makes_workspace workspace).bind fun w _ => .done _
  | extract source name target =>
    refine (store.makes_fixture source).bind ?_
    intro fixture _
    apply Makes.known (Part.isSome_ofName? name)
    · intro part named
      rw [named]
      exact ⟨_, rfl⟩
    · intro unknown
      rw [unknown]
      rfl
  | swap fixture part =>
    refine (store.makes_fetch fixture).bind ?_
    intro whole found
    refine (store.makes_fetch part).bind ?_
    intro given found'
    have there := Store.fetch_eq_ok_iff.mp found
    have piece := Store.fetch_eq_ok_iff.mp found'
    -- that the slot of the fixture holds a record is known by now, only its kind is left to ask for
    refine ((store.makes_fixture fixture).tail (Store.present_of_held there)).bind ?_
    intro held _
    cases given with
    | person p | group g | workspace w =>
      refine .next ?_ (.done _)
      show store[part]?.any _ = true
      rw [piece]
      rfl
    | fixture f =>
      refine .fails [] ?_ rfl
      show store[part]?.any _ = false
      rw [piece]
      rfl
  -- the kinds are compared when both slots are known to hold something
  | assign source target =>
    refine (store.makes_fetch source).bind ?_
    intro record found
    refine (store.makes_fetch target).bind ?_
    intro old found'
    have held := Store.fetch_eq_ok_iff.mp found
    have replaced := Store.fetch_eq_ok_iff.mp found'
    apply Makes.sameKind (.wrongKind target) held replaced rfl
    · intro kind
      rw [if_pos kind]
      exact ⟨_, rfl⟩
    · intro kind
      rw [if_neg kind]
      rfl
  | ask source query =>
    -- every question asks for a record first
    cases query with
    | get | json pretty => exact (store.makes_fetch source).bind fun record _ => .done _
    | calls budget =>
      cases budget with
      | some room => exact whole.elim
      | none =>
        refine (store.makes_fetch source).bind ?_
        intro record _
        rw [record.answer_calls_unlimited]
        exact .done _
    -- the one question that can be refused for what it asks
    | debug spec =>
      refine (store.makes_fetch source).bind ?_
      intro record _
      apply Makes.known (Format.isSome_ofSpec?_eq spec)
      · intro format read
        rw [Record.answer, read]
        exact ⟨_, rfl⟩
      · intro unknown
        rw [Record.answer, unknown]
        rfl
  | eq a b =>
    refine (store.makes_fetch a).bind ?_
    intro first found
    refine (store.makes_fetch b).bind ?_
    intro second found'
    have left := Store.fetch_eq_ok_iff.mp found
    have right := Store.fetch_eq_ok_iff.mp found'
    apply Makes.sameKind .kindsDiffer left right rfl
    · intro kind
      rw [Record.compare, if_pos kind]
      exact ⟨_, rfl⟩
    · intro kind
      rw [Record.compare, if_neg kind]
      rfl
  | dump => exact .done _
  | incomplete checks => exact whole.elim

/-- An error names no slot where a name is unknown, or where two records are compared. -/
theorem slot_eq_none_iff (step : Step) : ∀ condition ∈ step.conditions,
    (condition.slot = none ↔
      condition.error = "bad_input" ∨ condition.error = "wrong_kind" ∧ ∃ a b, step = .eq a b) := by
  cases step with
  -- only a question for the text can name something that is unknown
  | ask source query =>
    cases query <;> simp [conditions, Condition.present, Condition.known]
  | make | clone | move | drop | bundle | extract | swap | assign | eq | dump | incomplete =>
    simp [conditions, Condition.present, Condition.ofKind, Condition.leaf, Condition.sameKind,
      Condition.known]

end Step

/-- A message is left out where there is no slot to name, and where the name is empty. -/
theorem Condition.field?_message (condition : Condition) :
    condition.report.field? "message" = none ↔ condition.slot = none ∨ condition.slot = some "" := by
  unfold report message
  cases condition.slot with
  | none => exact ⟨fun _ => .inl rfl, fun _ => rfl⟩
  | some slot =>
    by_cases empty : slot = ""
    · subst empty
      exact ⟨fun _ => .inr rfl, fun _ => rfl⟩
    · have told : Json.field? (.obj [("error", .str condition.error), ("message", .str slot)]) "message"
          = some (.str slot) := rfl
      simp [empty, told]

/-! ### Steps as they are put -/

/-- **A JSON value that puts a step in full**: it says what is to be done, and each member that this takes is there
and of its type. -/
inductive Json.Puts (value : Json) : Step → Prop where
  | clone {a b : String} (name : value.text? "do" = some "clone")
      (source : value.text? "from" = some a) (target : value.text? "to" = some b) :
      Puts value (.clone a b)
  | move {a b : String} (name : value.text? "do" = some "move")
      (source : value.text? "from" = some a) (target : value.text? "to" = some b) :
      Puts value (.move a b)
  | drop {a : String} (name : value.text? "do" = some "drop")
      (source : value.text? "from" = some a) : Puts value (.drop a)
  | bundle {p g w b : String} (name : value.text? "do" = some "bundle")
      (person : value.text? "person" = some p) (group : value.text? "group" = some g)
      (workspace : value.text? "workspace" = some w) (target : value.text? "to" = some b) :
      Puts value (.bundle p g w b)
  | extract {a part b : String} (name : value.text? "do" = some "extract")
      (source : value.text? "from" = some a) (field : value.text? "field" = some part)
      (target : value.text? "to" = some b) : Puts value (.extract a part b)
  | swap {f p : String} (name : value.text? "do" = some "swap")
      (fixture : value.text? "fixture" = some f) (part : value.text? "part" = some p) :
      Puts value (.swap f p)
  | assign {a b : String} (name : value.text? "do" = some "assign")
      (source : value.text? "from" = some a) (target : value.text? "to" = some b) :
      Puts value (.assign a b)
  | get {a : String} (name : value.text? "do" = some "get")
      (source : value.text? "from" = some a) : Puts value (.ask a .get)
  | debug {a spec : String} (name : value.text? "do" = some "debug")
      (source : value.text? "from" = some a) (flags : value.text? "spec" = some spec) :
      Puts value (.ask a (.debug spec))
  | json {a : String} {pretty : Option Bool} (name : value.text? "do" = some "json")
      (source : value.text? "from" = some a) (layout : value.optional? "pretty" Json.bool? = some pretty) :
      Puts value (.ask a (.json (pretty.getD false)))
  | serde {a : String} (name : value.text? "do" = some "serde")
      (source : value.text? "from" = some a) (unlimited : value.field? "budget" = none) :
      Puts value (.ask a (.calls none))
  | eq {a b : String} (name : value.text? "do" = some "eq")
      (first : value.text? "a" = some a) (second : value.text? "b" = some b) : Puts value (.eq a b)

namespace Json.Puts

variable {value : Json} {step : Step}

theorem whole (put : value.Puts step) : step.Whole := by
  cases put <;> trivial

/-- A question is read from its particulars. -/
theorem ofJson_question {name source : String} {read : Json → Option Query} {query : Query}
    (known : name ∈ ["get", "json", "serde", "debug"]) (named : value.text? "do" = some name)
    (placed : value.text? "from" = some source) (question : Query.ofName? name = some read)
    (particulars : read value = some query) : Step.ofJson value = .ask source query := by
  rw [Step.ofJson_ask known named placed question, particulars]

/-- A step that is put in full is read as it is put. -/
theorem ofJson_eq (put : value.Puts step) : Step.ofJson value = step := by
  -- every reader asks for the word of the step first, and the word is there
  have reading {name : String} (named : value.text? "do" = some name)
      (read : Step.read value name = .ok step) : Step.ofJson value = step := by
    have whole : (Step.needed [] (value.text? "do") >>= Step.read value) = .ok step := by
      rw [named]
      exact read
    rw [Step.ofJson, whole]
  cases put with
  | clone name source target | move name source target | assign name source target =>
    apply reading name
    rw [Step.read, source, target]
    rfl
  | drop name source =>
    apply reading name
    rw [Step.read, source]
    rfl
  | bundle name person group workspace target =>
    apply reading name
    rw [Step.read, person, group, workspace, target]
    rfl
  | extract name source field target =>
    apply reading name
    rw [Step.read, source, field, target]
    rfl
  | swap name fixture part =>
    apply reading name
    rw [Step.read, fixture, part]
    rfl
  | eq name first second =>
    apply reading name
    rw [Step.read, first, second]
    rfl
  -- a question is read with its particulars, which differ from one to the next
  | get name source => exact ofJson_question (by decide) name source rfl rfl
  | debug name source flags =>
    apply ofJson_question (by decide) name source rfl
    show (do return Query.debug (← value.text? "spec")) = _
    rw [flags]
    rfl
  | json name source layout =>
    apply ofJson_question (by decide) name source rfl
    show (do return Query.json ((← value.optional? "pretty" Json.bool?).getD false)) = _
    rw [layout]
    rfl
  | serde name source unlimited =>
    have absent : value.optional? "budget" Json.word? = some none := by
      rw [Json.optional?, unlimited]
    apply ofJson_question (by decide) name source rfl
    show (do return Query.calls (← value.optional? "budget" Json.word?)) = _
    rw [absent]
    rfl

end Json.Puts

/-- **A step fails on its first failing condition.** For every store and every step that is put in full, there is
an answer exactly where all conditions of the step hold. Otherwise the error of the first that does not hold is
told, with the name of the slot for a message; and the message is left out exactly where that name is empty, the
error is bad input, or two records that are to be compared are of different kinds. -/
theorem Step.answered_by_conditions (store : Store) {value : Json} {step : Step} (put : value.Puts step) :
    let outcome := ((ofJson value).run store).1
    ((∃ answer, outcome = .ok answer) ↔
      ∀ condition ∈ step.conditions, condition.holds store = true) ∧
    ∀ condition, step.conditions.find? (fun condition => !condition.holds store) = some condition →
      outcome.toJson = condition.report ∧
      (outcome.toJson.field? "message" = none ↔
        condition.slot = some "" ∨ condition.error = "bad_input" ∨
          condition.error = "wrong_kind" ∧ ∃ a b, step = .eq a b) := by
  intro outcome
  have made := put.whole.makes_perform store
  -- the step is the one that was put, and what it answers is what it performs
  have run : outcome = (step.perform store).map Prod.fst := by
    show ((ofJson value).run store).1 = _
    rw [put.ofJson_eq, Step.run]
    cases step.perform store <;> rfl
  constructor
  · rw [← made.succeeds_iff, run]
    cases step.perform store with
    | ok result => exact ⟨fun _ => ⟨result, rfl⟩, fun _ => ⟨result.1, rfl⟩⟩
    | error failure =>
      constructor
      · rintro ⟨answer, impossible⟩
        cases impossible
      · rintro ⟨result, impossible⟩
        cases impossible
  · intro condition first
    -- what fails first is one of the conditions of this step
    obtain ⟨failure, failed, told⟩ := made.failure_of_find? first
    have answered : outcome.toJson = condition.report := by
      rw [run, failed]
      exact told
    have listed := List.mem_of_find?_eq_some first
    refine ⟨answered, ?_⟩
    rw [answered, condition.field?_message, step.slot_eq_none_iff condition listed, or_comm]

/-- A fixture is not traded for itself. A bundle that is given a person for its group tells so, though its workspace
is missing as well. An assignment over a record of another kind in the slot of the empty name has no message, nor
has a comparison of two kinds. A part that is known is taken out. -/
theorem Step.answered_by_conditions_traded_for_itself :
    let store := (Program.run [.make "f" (.fixture "Ann" 1 "" "x"), .make "p" (.leaf (.person "Bob" 2 "")),
      .make "" (.leaf .group)] ∅).2
    let swap : Json := .obj [("do", .str "swap"), ("fixture", .str "f"), ("part", .str "f")]
    let bundle : Json := .obj [("do", .str "bundle"), ("person", .str "p"), ("group", .str "p"),
      ("workspace", .str "w"), ("to", .str "f")]
    let assign : Json := .obj [("do", .str "assign"), ("from", .str "p"), ("to", .str "")]
    let eq : Json := .obj [("do", .str "eq"), ("a", .str "p"), ("b", .str "f")]
    let extract : Json := .obj [("do", .str "extract"), ("from", .str "f"), ("field", .str "group"),
      ("to", .str "p")]
    (swap.Puts (.swap "f" "f") ∧ ((ofJson swap).run store).1.toJson =
      .obj [("error", .str "wrong_kind"), ("message", .str "f")]) ∧
    (bundle.Puts (.bundle "p" "p" "w" "f") ∧ ((ofJson bundle).run store).1.toJson =
      .obj [("error", .str "wrong_kind"), ("message", .str "p")]) ∧
    (assign.Puts (.assign "p" "") ∧
      ((ofJson assign).run store).1.toJson = .obj [("error", .str "wrong_kind")]) ∧
    (eq.Puts (.eq "p" "f") ∧ ((ofJson eq).run store).1.toJson = .obj [("error", .str "wrong_kind")]) ∧
    (extract.Puts (.extract "f" "group" "p") ∧
      ∃ answer, ((ofJson extract).run store).1 = .ok answer) := by
  intro store swap bundle assign eq extract
  have traded : swap.Puts (.swap "f" "f") := .swap rfl rfl rfl
  have bundled : bundle.Puts (.bundle "p" "p" "w" "f") := .bundle rfl rfl rfl rfl rfl
  have assigned : assign.Puts (.assign "p" "") := .assign rfl rfl rfl
  have compared : eq.Puts (.eq "p" "f") := .eq rfl rfl rfl
  have extracted : extract.Puts (.extract "f" "group" "p") := .extract rfl rfl rfl rfl
  -- the first condition that fails is the one that is told of
  refine ⟨⟨traded, ?_⟩, ⟨bundled, ?_⟩, ⟨assigned, ?_⟩, ⟨compared, ?_⟩, extracted, ?_⟩
  · exact ((answered_by_conditions store traded).2 (.leaf "f") rfl).1
  · exact ((answered_by_conditions store bundled).2 (.ofKind "p" .group) rfl).1
  · exact ((answered_by_conditions store assigned).2 (.sameKind "p" "" (some "")) rfl).1
  · exact ((answered_by_conditions store compared).2 (.sameKind "p" "f" none) rfl).1
  · apply (answered_by_conditions store extracted).1.mpr
    simp only [conditions, List.forall_mem_cons]
    exact ⟨rfl, rfl, rfl, List.forall_mem_nil _⟩

end Profiles
