import Mathlib.Data.List.Forall2
import Profiles.Proofs.Record.Expressions

/-!
# What building a record logs

The sample tells that it has been loaded, and nothing else that is built tells anything, not even a fixture with the
same parts (`Json.answered_log`). Who hears of it is a matter of two things, the level and the target that a listener
asks for; and a listener who asks for more hears no less.

Two facts stand behind this. What a recipe logs for a subscriber is what it has to log, less what the subscriber does
not want (`Recipe.log_eq_filter`). And building neither looks at what has been logged earlier nor changes it
(`Recipe.run_build`), so records that are built one after the other log one after the other, and each is the record
that it is without anyone listening (`Recipe.run_mapM_build`).
-/

namespace Profiles

namespace Subscriber

variable {subscriber narrow wide : Subscriber} {event : LogEvent}

/-! ### Who hears what -/

/-- The names of the levels, from the one that lets nothing through to the one that lets everything through. -/
def levels : List String := ["off", "error", "warn", "info", "debug", "trace"]

/-- How many levels are let through. -/
def reach (subscriber : Subscriber) : Nat := subscriber.limit.elim 0 (·.rank + 1)

theorem admits_iff : subscriber.admits event = true ↔
    event.level.rank < subscriber.reach ∧ ∀ target, subscriber.target = some target → target = event.target := by
  obtain ⟨limit, target⟩ := subscriber
  -- whoever has no limit lets nothing through, and reaches as far as nobody
  have loud : limit.any (fun limit => event.level.rank ≤ limit.rank) = true ↔
      event.level.rank < reach ⟨limit, target⟩ := by
    cases limit with
    | none => exact iff_of_false nofun (Nat.not_lt_zero _)
    | some limit => exact decide_eq_true_iff.trans Nat.lt_succ_iff.symm
  have aimed : target.all (· = event.target) = true ↔ ∀ name, target = some name → name = event.target := by
    cases target <;> simp
  rw [admits, Bool.and_eq_true, loud, aimed]

/-- **Whoever asks for more hears no less**: for at least as many levels, and for any target or the same one. -/
theorem admits_mono (levels : narrow.reach ≤ wide.reach) (targets : wide.target = none ∨ wide.target = narrow.target)
    (heard : narrow.admits event = true) : wide.admits event = true := by
  obtain ⟨loud, aimed⟩ := admits_iff.mp heard
  refine admits_iff.mpr ⟨Nat.lt_of_lt_of_le loud levels, ?_⟩
  intro target asked
  -- the wide listener names no target, or the one that the narrow listener names
  rcases targets with any | same
  · rw [any] at asked
    cases asked
  · exact aimed target (same ▸ asked)

/-- The place of a level among the names is the number of levels that it lets through. -/
theorem exists_limit {level : String} {i : Nat} (place : levels[i]? = some level) :
    ∃ limit, limit? level = some limit ∧ ∀ target, reach ⟨limit, target⟩ = i := by
  -- there are six names, so the place is one of six
  rcases i with _ | _ | _ | _ | _ | _ | i
  case succ.succ.succ.succ.succ.succ => cases place
  all_goals
    obtain rfl := Option.some.inj place
    exact ⟨_, rfl, fun _ => rfl⟩

/-- A subscriber who wants to hear everything. -/
def attentive : Subscriber where
  limit := some .trace
  target := none

end Subscriber

namespace Recipe

variable {recipe : Recipe} {value : Json}

/-- **What is logged for a subscriber is what there is to log**, less what is not wanted. -/
theorem log_eq_filter (recipe : Recipe) (subscriber : Subscriber) :
    recipe.log subscriber = (recipe.log .attentive).filter subscriber.admits := by
  -- only the sample has anything to log, and that is wanted or it is not
  cases recipe with
  | leaf | fixture => rfl
  | sample =>
    have heard : Subscriber.attentive.admits Fixture.sample.loaded = true := by decide
    rw [log_sample, log_sample, if_pos heard, List.filter_singleton, cond_eq_ite]

theorem log_sublist {narrow wide : Subscriber} (recipe : Recipe) (levels : narrow.reach ≤ wide.reach)
    (targets : wide.target = none ∨ wide.target = narrow.target) :
    (recipe.log narrow).Sublist (recipe.log wide) := by
  rw [log_eq_filter, recipe.log_eq_filter wide]
  exact List.monotone_filter_right _ fun event heard => Subscriber.admits_mono levels targets heard

/-- **Records that are built one after the other** log one after the other. -/
theorem run_mapM_build (recipes : List Recipe) (subscriber : Subscriber) (earlier : List LogEvent) :
    ((recipes.mapM build).run subscriber).run earlier =
      (recipes.map record, earlier ++ (recipes.map (·.log subscriber)).flatten) := by
  -- the log grows from the first recipe to the last, so the rest begins with more of it
  induction recipes generalizing earlier with
  | nil => rw [List.mapM_nil, Logging.run_pure, List.map_nil, List.map_nil, List.flatten_nil, List.append_nil]
  | cons recipe recipes ih =>
    rw [List.mapM_cons, Logging.run_bind, run_build, Logging.run_bind, ih, Logging.run_pure, List.map_cons,
      List.map_cons, List.flatten_cons, List.append_assoc]

/-- The recipe of the sample is the one that is asked for by its name. -/
theorem eq_sample_iff (read : ofJson? value = some recipe) :
    recipe = .sample ↔ value.field? "kind" = some (.str "sample") := by
  obtain ⟨via, named, read⟩ := Option.bind_eq_some_iff.mp read
  obtain ⟨word, kind, read⟩ := Option.bind_eq_some_iff.mp read
  have kind := Json.text?_eq_some_iff.mp kind
  rw [kind, Option.some.injEq, Json.str.injEq]
  split at read
  case h_1 => -- a fixture, which is spelled out
    refine iff_of_false ?_ (by decide)
    rintro rfl
    -- behind the last part comes a fixture, and what has another part in one of the places is not read
    obtain ⟨person, -, read⟩ := Option.bind_eq_some_iff.mp read
    obtain ⟨first, -, read⟩ := Option.bind_eq_some_iff.mp read
    cases first with
    | group | workspace => cases read
    | person name age email =>
    obtain ⟨group, -, read⟩ := Option.bind_eq_some_iff.mp read
    obtain ⟨second, -, read⟩ := Option.bind_eq_some_iff.mp read
    cases second with
    | person | workspace => cases read
    | group =>
    obtain ⟨workspace, -, read⟩ := Option.bind_eq_some_iff.mp read
    obtain ⟨third, -, read⟩ := Option.bind_eq_some_iff.mp read
    cases third with
    | person | group | workspace => cases read
  case h_2 => exact iff_of_true (Option.some.inj read).symm rfl
  -- what is neither is a leaf, and the name is not that of the sample
  case h_3 notFixture notSample =>
    obtain ⟨leaf, -, read⟩ := Option.bind_eq_some_iff.mp read
    obtain rfl := Option.some.inj read
    exact iff_of_false nofun notSample

end Recipe

/-! ### Requests -/

namespace Json

variable {request value : Json} {values : List Json} {level : String} {target : Option String}

/-- **A request for what is logged** by building some expressions, at a level, and for a target if one is named. -/
structure AsksLog (request : Json) (level : String) (target : Option String) (values : List Json) : Prop where
  named : request.field? "op" = some (.str "log")
  level_eq : request.field? "level" = some (.str level)
  target_eq : request.field? "target" = target.map .str
  values_eq : request.field? "values" = some (.arr values)

/-- **What is told of an expression**: that it has been loaded, if it is the sample and the listener wants to know. -/
inductive Told (level : String) (target : Option String) (value : Json) : List Json → Prop where
  | loaded {f : Fixture} (sample : value.field? "kind" = some (.str "sample")) (built : value.Spells (.fixture f))
      (loud : level = "debug" ∨ level = "trace") (aimed : target = none ∨ target = some "sample_core::fixture") :
      Told level target value [.obj [("level", .str "DEBUG"), ("target", .str "sample_core::fixture"),
        ("fields", .arr [.arr [.str "message", .str "loaded sample fixture set"],
          .arr [.str "workspace", .str f.workspace.slug], .arr [.str "person", .str f.person.name]])]]
  | nothing (unheard : ¬ (value.field? "kind" = some (.str "sample") ∧ (level = "debug" ∨ level = "trace") ∧
      (target = none ∨ target = some "sample_core::fixture"))) : Told level target value []

/-- Who listens to the sample: at one of the last two levels, and for its target or for any. -/
theorem admits_loaded_iff {i : Nat} {limit : Option Level} (place : Subscriber.levels[i]? = some level)
    (reach : Subscriber.reach ⟨limit, target⟩ = i) :
    Subscriber.admits ⟨limit, target⟩ Fixture.sample.loaded = true ↔
      (level = "debug" ∨ level = "trace") ∧ (target = none ∨ target = some "sample_core::fixture") := by
  -- the fourth name is the first that lets everything up to the level of the event through
  have loud : 3 < i ↔ level = "debug" ∨ level = "trace" := by
    rcases i with _ | _ | _ | _ | _ | _ | i
    case succ.succ.succ.succ.succ.succ => cases place
    all_goals
      obtain rfl := Option.some.inj place
      decide
  rw [Subscriber.admits_iff, reach]
  refine and_congr loud ?_
  cases target with
  | none => simp
  | some name => simp [Fixture.loaded]

/-- What a recipe logs is what is told of its expression. -/
theorem told_log {recipe : Recipe} (read : Recipe.ofJson? value = some recipe) {i : Nat} {limit : Option Level}
    (place : Subscriber.levels[i]? = some level) (reach : Subscriber.reach ⟨limit, target⟩ = i) :
    Told level target value ((recipe.log ⟨limit, target⟩).map LogEvent.toJson) := by
  have wanted := admits_loaded_iff place reach
  -- whether the recipe is the sample can be read off the expression
  by_cases sample : recipe = .sample
  · have kind := (Recipe.eq_sample_iff read).mp sample
    subst sample
    rw [Recipe.log_sample]
    split
    · next heard =>
      obtain ⟨loud, aimed⟩ := wanted.mp heard
      exact .loaded kind (Recipe.spells_of_ofJson? read) loud aimed
    · next unheard => exact .nothing fun heard => unheard (wanted.mpr heard.2)
  -- everything else is quiet, and is not asked for by that name
  · have quiet : recipe.log ⟨limit, target⟩ = [] := by
      cases recipe with
      | leaf | fixture => rfl
      | sample => exact absurd rfl sample
    rw [quiet]
    exact .nothing fun heard => sample ((Recipe.eq_sample_iff read).mpr heard.1)

theorem optional?_str {name : String} {text : Option String} (given : value.field? name = text.map .str) :
    value.optional? name str? = some text := by
  rw [optional?, given]
  cases text <;> rfl

/-- Expressions that are all read are answered by what their recipes log, each by itself. -/
theorem answered_of_log {recipes : List Recipe} {limit : Option Level} (asks : request.AsksLog level target values)
    (known : Subscriber.limit? level = some limit) (read : values.mapM Recipe.ofJson? = some recipes) :
    request.answered =
      .arr ((recipes.map fun recipe => (recipe.log ⟨limit, target⟩).map LogEvent.toJson).map .arr) := by
  have asked : Request.ofJson? request = some (.log ⟨limit, target⟩ recipes) := by
    simp [Request.ofJson?, text?_eq_some_iff.mpr asks.named, Request.subscriber?, text?_eq_some_iff.mpr asks.level_eq,
      known, optional?_str asks.target_eq, Request.recipes?, asks.values_eq, arr?, read]
  rw [answered, asked, List.map_map]
  show Json.arr ((recipes.map (·.log ⟨limit, target⟩)).map fun logged => .arr (logged.map LogEvent.toJson)) = _
  rw [List.map_map]
  rfl

/-- **Only the sample logs, and logging changes nothing.** For some expressions that build records, a level and a target
or none, what is answered has a list for each expression, in their order: the one event of the sample, with the slug
and the name of the record that is built, at the last two levels and for its own target or any, and nothing otherwise.
A higher level takes no event away, and nor does leaving out the target. The records that are built, one after the
other and whatever has been logged earlier, are the same for every subscriber, and what they log is added one after
the other. If one of the expressions builds nothing, the answer is that the input is bad. -/
theorem answered_log (values : List Json) :
    (∀ records, List.Forall₂ Spells values records →
      (∀ level ∈ Subscriber.levels, ∀ (target : Option String) (request : Json), request.AsksLog level target values →
        ∃ told, request.answered = .arr (told.map .arr) ∧ List.Forall₂ (Told level target) values told) ∧
      (∀ (i j : Nat) (low high : String), i ≤ j → Subscriber.levels[i]? = some low →
        Subscriber.levels[j]? = some high → ∀ narrow wide : Option String, wide = none ∨ wide = narrow →
        ∀ request request' : Json, request.AsksLog low narrow values → request'.AsksLog high wide values →
          ∃ fewer more, request.answered = .arr (fewer.map .arr) ∧ request'.answered = .arr (more.map .arr) ∧
            List.Forall₂ List.Sublist fewer more) ∧
      ∃ recipes, values.mapM Recipe.ofJson? = some recipes ∧ ∀ subscriber earlier,
        ((recipes.mapM Recipe.build).run subscriber).run earlier =
          (records, earlier ++ (recipes.map (·.log subscriber)).flatten)) ∧
    ((∃ value ∈ values, ∀ record, ¬ value.Spells record) → ∀ request : Json,
      request.field? "op" = some (.str "log") → request.field? "values" = some (.arr values) →
      request.answered = .obj [("error", .str "bad_input")]) := by
  constructor
  · intro records spelled
    obtain ⟨recipes, read, rfl, reads⟩ := Request.mapM_ofJson?_of_spells spelled
    -- what is told depends on the recipes that have been read, and these on the expressions alone
    refine ⟨?_, ?_, recipes, read, fun subscriber earlier => Recipe.run_mapM_build recipes subscriber earlier⟩
    · intro level known target request asks
      obtain ⟨i, place⟩ := List.getElem?_of_mem known
      obtain ⟨limit, named, reach⟩ := Subscriber.exists_limit place
      refine ⟨_, answered_of_log asks named read, ?_⟩
      rw [List.forall₂_map_right_iff]
      exact reads.imp fun value recipe read => told_log read place (reach target)
    · intro i j low high le place place' narrow wide targets request request' asks asks'
      obtain ⟨limit, named, reach⟩ := Subscriber.exists_limit place
      obtain ⟨limit', named', reach'⟩ := Subscriber.exists_limit place'
      refine ⟨_, _, answered_of_log asks named read, answered_of_log asks' named' read, ?_⟩
      rw [List.forall₂_map_left_iff, List.forall₂_map_right_iff, List.forall₂_same]
      intro recipe _
      have levels : Subscriber.reach ⟨limit, narrow⟩ ≤ Subscriber.reach ⟨limit', wide⟩ := by
        rw [reach, reach']
        exact le
      exact (recipe.log_sublist levels targets).map LogEvent.toJson
  -- a list in which something is no expression is not read
  · rintro ⟨value, among, spellsNone⟩ request named given
    have refused := Recipe.ofJson?_eq_none_iff.mpr spellsNone
    exact answered_eq_bad_input
      (Request.ofJson?_eq_none (.listed named (by decide) given among) refused)

/-- The sample is told of, and a fixture with its parts that stands before it in the list is not, though they are equal.
A list with something in it that is no expression is refused, even where nothing would be told. -/
theorem answered_log_spelled_out :
    let sample : Json := .obj [("kind", .str "sample")]
    let fixture : Json := (Record.fixture .sample).recipe.toJson
    let request (level : String) (values : List Json) : Json :=
      .obj [("op", .str "log"), ("level", .str level), ("target", .str "sample_core::fixture"), ("values", .arr values)]
    (List.Forall₂ Spells [fixture, sample] [.fixture .sample, .fixture .sample] ∧
      (request "trace" [fixture, sample]).AsksLog "trace" (some "sample_core::fixture") [fixture, sample] ∧
      ∃ event, (request "trace" [fixture, sample]).answered = .arr [.arr [], .arr [event]]) ∧
    ((∀ record, ¬ Json.null.Spells record) ∧
      (request "off" [sample, .null]).answered = .obj [("error", .str "bad_input")]) := by
  intro sample fixture request
  have spelled : List.Forall₂ Spells [fixture, sample] [.fixture .sample, .fixture .sample] :=
    .cons (Recipe.built_iff_spells.mp ⟨_, rfl, rfl⟩) (.cons (Recipe.built_iff_spells.mp ⟨_, rfl, rfl⟩) .nil)
  have asks : (request "trace" [fixture, sample]).AsksLog "trace" (some "sample_core::fixture") [fixture, sample] :=
    ⟨rfl, rfl, rfl, rfl⟩
  have refused : ∀ record, ¬ Json.null.Spells record := Recipe.ofJson?_eq_none_iff.mp rfl
  refine ⟨⟨spelled, asks, ?_⟩, refused, ?_⟩
  · obtain ⟨told, answers, lists⟩ := ((answered_log _).1 _ spelled).1 "trace" (by decide) _ _ asks
    obtain _ | ⟨first, _ | ⟨second, ⟨⟩⟩⟩ := lists
    -- the kind of the first is another, and the second is wanted
    cases first with
    | loaded kind =>
      have other : "fixture" = "sample" := Json.str.inj (Option.some.inj kind)
      exact absurd other (by decide)
    | nothing =>
      cases second with
      | loaded => exact ⟨_, answers⟩
      | nothing unheard => exact absurd ⟨rfl, .inr rfl, .inr rfl⟩ unheard
  · exact (answered_log _).2 ⟨.null, List.mem_cons_of_mem _ List.mem_cons_self, refused⟩ _ rfl rfl

end Json

end Profiles
