import Mathlib.Data.List.Forall2
import Mathlib.Data.Multiset.Bind
import Mathlib.Logic.Relation
import Profiles.Proofs.Record.Expressions

/-!
# Threads do not interfere

Records are built side by side. A `Pool` is given recipes and starts a thread for each of them, one after the other. A
thread builds its record and then delivers it. What it logs while it builds goes to a log that all threads share. The
deliveries come in as the threads happen to finish, and each bears the number of its thread; the records are joined in
the order of the recipes, so a delivery may have to wait for those with smaller numbers. `Pool.Move` is one move,
whoever makes it. Any move may come next that someone can make, so between any two moves of one thread the others may
move as they like, and records may be joined before the last thread is started.

However the threads of a pool take turns, the records that are joined in the end are those that the recipes build when
each is alone, in the order of the recipes (`Json.answered_threads`). And there is always such an end: no pool comes to
a point from which it could not be completed.

What carries this is a law of conservation. A record is in one of four places: its recipe waits for a thread, a thread
owes it, it has been delivered, or it has been joined. Wherever it is, it has the number of its recipe: the place in
the list, the number of the thread, the number on the delivery, the place among the joined records. `Pool.whereabouts`
takes all of them together, and each move carries one record from a place to the next and leaves its number
(`Pool.Move.whereabouts_eq`). So nothing is lost, doubled or exchanged. A thread that builds a record works on the
log that it shares with the others, but what it builds does not depend on it (`Recipe.run_build`).

The pool goes on as long as it is not complete: a record that no thread owes any more has been delivered, so if the next
one has not been joined, it can be (`Pool.Tracks.exists_move`). It comes to an end because a record changes its place
three times, with one more move when it is built.
-/

namespace Profiles

/-! ### Pools -/

/-- A thread that builds one record. -/
inductive Thread where
  | ready (recipe : Recipe)
  | built (record : Record)
  | finished

/-- Threads, and who waits for them. -/
structure Pool where
  /-- The recipes for which there is no thread yet. -/
  waiting : List Recipe
  /-- The threads, in the order in which they were started. -/
  threads : List Thread
  /-- What all threads log to. -/
  log : List LogEvent
  /-- The deliveries that have not been joined, in the order in which they came, each with the number of its thread. -/
  deliveries : List (Record × Nat)
  /-- The records that have been joined. -/
  joined : List Record

namespace Pool

/-- No thread has been started, and something may have been logged earlier. -/
def start (recipes : List Recipe) (earlier : List LogEvent) : Pool where
  waiting := recipes
  threads := []
  log := earlier
  deliveries := []
  joined := []

/-- **One move**, with a subscriber for what is logged. -/
inductive Move (subscriber : Subscriber) : Pool → Pool → Prop
  | spawn {pool : Pool} {recipe : Recipe} {others : List Recipe} (next : pool.waiting = recipe :: others) :
    Move subscriber pool { pool with waiting := others, threads := pool.threads ++ [.ready recipe] }
  | build {pool : Pool} {recipe : Recipe} {record : Record} {log : List LogEvent} {before after : List Thread}
      (turn : pool.threads = before ++ .ready recipe :: after)
      (runs : (recipe.build.run subscriber).run pool.log = (record, log)) :
    Move subscriber pool { pool with threads := before ++ .built record :: after, log := log }
  | deliver {pool : Pool} {record : Record} {before after : List Thread}
      (turn : pool.threads = before ++ .built record :: after) :
    Move subscriber pool { pool with
      threads := before ++ .finished :: after
      deliveries := pool.deliveries ++ [(record, before.length)] }
  | join {pool : Pool} {record : Record} {before after : List (Record × Nat)}
      -- the number that is looked for is that of the next record
      (next : pool.deliveries = before ++ (record, pool.joined.length) :: after) :
    Move subscriber pool { pool with deliveries := before ++ after, joined := pool.joined ++ [record] }

/-- Every recipe has had its thread, and every thread has been joined. -/
structure IsComplete (pool : Pool) : Prop where
  started : pool.waiting = []
  joined_all : pool.joined.length = pool.threads.length

end Pool

open Relation (ReflTransGen)

namespace Thread

/-- The record that a thread has not delivered yet, built or not. -/
def owed : Thread → Option Record
  | ready recipe => some recipe.record
  | built record => some record
  | finished => none

/-- How many moves it takes until the record of a thread is joined, unless it has been delivered. -/
def toGo : Thread → Nat
  | ready _ => 3
  | built _ => 2
  | finished => 0

end Thread

namespace Pool

variable {subscriber : Subscriber} {records : List Record} {pool next : Pool}

/-! ### Where the records are -/

/-- The records that threads owe, each with the number of its thread, where the first thread has the given one. -/
def owed (first : Nat) (threads : List Thread) : List (Record × Nat) :=
  (threads.zipIdx first).filterMap fun entry => entry.1.owed.map (·, entry.2)

theorem owed_append (first : Nat) (threads others : List Thread) :
    owed first (threads ++ others) = owed first threads ++ owed (first + threads.length) others := by
  rw [owed, List.zipIdx_append, List.filterMap_append]
  rfl

theorem owed_cons (first : Nat) (thread : Thread) (threads : List Thread) :
    owed first (thread :: threads) = (thread.owed.map (·, first)).toList ++ owed (first + 1) threads := by
  rw [owed, List.zipIdx_cons, List.filterMap_cons]
  cases thread.owed <;> rfl

theorem owed_eq_nil {threads : List Thread} (finished : ∀ thread ∈ threads, thread.owed = none) (first : Nat) :
    owed first threads = [] := by
  induction threads generalizing first with
  | nil => rfl
  | cons thread threads ih =>
    obtain ⟨done, others⟩ := List.forall_mem_cons.mp finished
    rw [owed_cons, done, ih others]
    rfl

/-- What one thread owes, and what the others owe. -/
theorem coe_owed_split (before : List Thread) (thread : Thread) (after : List Thread) :
    (owed 0 (before ++ thread :: after) : Multiset (Record × Nat)) =
      (thread.owed.map (·, before.length)).toList + (owed 0 before + owed (before.length + 1) after) := by
  -- whose record it is does not matter, only that each is owed by one thread
  rw [owed_append, owed_cons, Nat.zero_add]
  simp only [← Multiset.coe_add]
  ac_rfl

/-- **Where the records are**, each with its number. -/
def whereabouts (pool : Pool) : Multiset (Record × Nat) :=
  ((pool.waiting.map Recipe.record).zipIdx pool.threads.length : Multiset (Record × Nat))
    + owed 0 pool.threads + pool.deliveries + pool.joined.zipIdx

/-- **A move carries a record on**, and leaves it its number. -/
theorem Move.whereabouts_eq (move : Move subscriber pool next) : next.whereabouts = pool.whereabouts := by
  unfold whereabouts
  cases move with
  | @spawn recipe others waits =>
    -- the number of the new thread is that of the recipe that waited first
    have owing : (owed 0 (pool.threads ++ [.ready recipe]) : Multiset (Record × Nat)) =
        owed 0 pool.threads + {(recipe.record, pool.threads.length)} := by
      rw [owed_append, owed_cons, Nat.zero_add, ← Multiset.coe_add]
      rfl
    rw [waits, List.map_cons, List.zipIdx_cons, ← Multiset.cons_coe, ← Multiset.singleton_add, owing,
      List.length_append, List.length_singleton]
    ac_rfl
  | @build recipe record log before after turn runs =>
    -- the thread owes the same record as before, whatever is in the log
    rw [recipe.run_build] at runs
    obtain ⟨rfl, rfl⟩ := Prod.mk.inj runs
    rw [turn, coe_owed_split, coe_owed_split, List.length_append, List.length_append]
    rfl
  | @deliver record before after turn =>
    -- what the thread no longer owes has come to the end of the deliveries
    rw [turn, coe_owed_split, coe_owed_split, List.length_append, List.length_append, ← Multiset.coe_add]
    show _ + ((0 : Multiset (Record × Nat)) + _) + (_ + {(record, before.length)}) + _ =
      _ + ({(record, before.length)} + _) + _ + _
    rw [Multiset.zero_add]
    ac_rfl
  | @join record before after found =>
    -- the place of the record among those that are joined is the number on its delivery
    have place : ((pool.joined ++ [record]).zipIdx : Multiset (Record × Nat)) =
        pool.joined.zipIdx + {(record, pool.joined.length)} := by
      rw [List.zipIdx_append, Nat.zero_add, ← Multiset.coe_add]
      rfl
    rw [found, place]
    simp only [← Multiset.coe_add, ← Multiset.cons_coe, ← Multiset.singleton_add]
    ac_rfl

/-- Every recipe waits for a thread or has one. -/
theorem Move.count_eq (move : Move subscriber pool next) :
    next.waiting.length + next.threads.length = pool.waiting.length + pool.threads.length := by
  cases move with
  | spawn waits =>
    -- one recipe less waits, and one thread more is there
    simp only [waits, List.length_append, List.length_cons, List.length_nil]
    omega
  | build turn | deliver turn => rw [turn, List.length_append, List.length_append]; rfl
  | join => rfl

/-! ### What all moves keep -/

/-- **The records of a pool are the given ones**, each under its number, and there is a thread for each of them or will
be. -/
structure Tracks (records : List Record) (pool : Pool) : Prop where
  whereabouts_eq : pool.whereabouts = records.zipIdx
  count_eq : pool.waiting.length + pool.threads.length = records.length

theorem tracks_start (recipes : List Recipe) (earlier : List LogEvent) :
    (start recipes earlier).Tracks (recipes.map Recipe.record) := by
  constructor
  · simp [whereabouts, start, owed]
  · simp [start]

namespace Tracks

theorem move (tracks : pool.Tracks records) (move : Move subscriber pool next) : next.Tracks records :=
  ⟨move.whereabouts_eq.trans tracks.whereabouts_eq, move.count_eq.trans tracks.count_eq⟩

theorem reaches (tracks : pool.Tracks records) (moves : ReflTransGen (Move subscriber) pool next) :
    next.Tracks records := by
  induction moves with
  | refl => exact tracks
  | tail _ last ih => exact ih.move last

/-- **What has been joined are the first of the records**, at any time. -/
theorem joined_prefix (tracks : pool.Tracks records) : pool.joined <+: records := by
  rw [List.prefix_iff_getElem?]
  intro i bound
  -- a joined record has its place for a number, and so has the record of that number
  have joined : (pool.joined.get ⟨i, bound⟩, i) ∈ pool.joined.zipIdx :=
    List.mk_mem_zipIdx_iff_getElem?.mpr (List.getElem?_eq_getElem bound)
  have somewhere : (pool.joined.get ⟨i, bound⟩, i) ∈ pool.whereabouts :=
    Multiset.mem_add.mpr (.inr (Multiset.mem_coe.mpr joined))
  rw [tracks.whereabouts_eq, Multiset.mem_coe] at somewhere
  exact List.mk_mem_zipIdx_iff_getElem?.mp somewhere

/-- In the end all of the records have been joined. -/
theorem joined_eq (tracks : pool.Tracks records) (complete : pool.IsComplete) : pool.joined = records := by
  -- the joined records are the first ones, and there are as many of them as records
  refine tracks.joined_prefix.eq_of_length ?_
  have count := tracks.count_eq
  rw [complete.started, List.length_nil, Nat.zero_add] at count
  exact complete.joined_all.trans count

/-- A record whose turn it is to be joined, and that no thread owes, has been delivered. -/
theorem exists_delivery (tracks : pool.Tracks records) (started : pool.waiting = [])
    (finished : ∀ thread ∈ pool.threads, thread.owed = none) (left : pool.joined.length < records.length) :
    ∃ record, (record, pool.joined.length) ∈ pool.deliveries := by
  refine ⟨records.get ⟨_, left⟩, ?_⟩
  -- the record has its number, so it is somewhere with that number
  have somewhere : (records.get ⟨_, left⟩, pool.joined.length) ∈ pool.whereabouts := by
    rw [tracks.whereabouts_eq, Multiset.mem_coe]
    exact List.mk_mem_zipIdx_iff_getElem?.mpr (List.getElem?_eq_getElem left)
  -- it is with no recipe and no thread any more
  rw [whereabouts, started, owed_eq_nil finished] at somewhere
  simp only [Multiset.mem_add, Multiset.mem_coe, List.map_nil, List.zipIdx_nil, List.not_mem_nil, false_or]
    at somewhere
  rcases somewhere with delivered | joined
  · exact delivered
  · -- the joined records have smaller numbers
    have place := List.mk_mem_zipIdx_iff_getElem?.mp joined
    rw [List.getElem?_eq_none (Nat.le_refl _)] at place
    cases place

/-- **Someone can move** as long as the pool is not complete. -/
theorem exists_move (tracks : pool.Tracks records) (subscriber : Subscriber) (incomplete : ¬ pool.IsComplete) :
    ∃ next, Move subscriber pool next := by
  cases started : pool.waiting with
  | cons recipe others => exact ⟨_, .spawn started⟩
  | nil =>
    by_cases finished : ∀ thread ∈ pool.threads, thread.owed = none
    · -- all threads have delivered, so the next record is among the deliveries
      have count := tracks.count_eq
      rw [started, List.length_nil, Nat.zero_add] at count
      have left : pool.joined.length < records.length := by
        refine Nat.lt_of_le_of_ne tracks.joined_prefix.length_le fun all => ?_
        exact incomplete ⟨started, all.trans count.symm⟩
      obtain ⟨record, delivered⟩ := tracks.exists_delivery started finished left
      obtain ⟨before, after, found⟩ := List.append_of_mem delivered
      exact ⟨_, .join found⟩
    · -- some thread has not, and it can go on
      push Not at finished
      obtain ⟨thread, among, owes⟩ := finished
      obtain ⟨before, after, turn⟩ := List.append_of_mem among
      cases thread with
      | ready recipe => exact ⟨_, .build turn rfl⟩
      | built record => exact ⟨_, .deliver turn⟩
      | finished => exact absurd rfl owes

end Tracks

/-! ### The end -/

/-- How many moves there will be yet. -/
def toGo (pool : Pool) : Nat :=
  4 * pool.waiting.length + (pool.threads.map Thread.toGo).sum + pool.deliveries.length

theorem Move.toGo_eq (move : Move subscriber pool next) : pool.toGo = next.toGo + 1 := by
  unfold toGo
  cases move with
  -- a waiting record counts for four moves, the first of which starts its thread
  | spawn waits =>
    simp only [waits, List.length_cons, List.map_append, List.sum_append, List.map_cons, List.map_nil,
      List.sum_cons, List.sum_nil, Thread.toGo]
    omega
  -- a built record has two to go, a delivered one is counted with the deliveries
  | build turn | deliver turn =>
    simp only [turn, List.map_append, List.sum_append, List.map_cons, List.sum_cons, Thread.toGo,
      List.length_append, List.length_singleton]
    omega
  | join found =>
    simp only [found, List.length_append, List.length_cons]
    omega

/-- **A pool can always be completed.** -/
theorem Tracks.exists_complete (tracks : pool.Tracks records) (subscriber : Subscriber) :
    ∃ last, ReflTransGen (Move subscriber) pool last ∧ last.IsComplete := by
  -- each move leaves fewer, so the induction is on how many there are
  induction left : pool.toGo using Nat.strongRecOn generalizing pool with
  | ind n ih =>
    by_cases complete : pool.IsComplete
    · exact ⟨pool, .refl, complete⟩
    · obtain ⟨next, move⟩ := tracks.exists_move subscriber complete
      have fewer : next.toGo < n := by
        rw [← left, move.toGo_eq]
        exact Nat.lt_succ_self _
      obtain ⟨last, moves, complete⟩ := ih next.toGo fewer (tracks.move move) rfl
      exact ⟨last, .head move moves, complete⟩

end Pool

/-! ### Requests -/

namespace Json

/-- A list of expressions that are all spelled is answered by what they build. -/
theorem answered_of_threads {request : Json} {values : List Json} {recipes : List Recipe}
    (named : request.field? "op" = some (.str "threads")) (given : request.field? "values" = some (.arr values))
    (read : values.mapM Recipe.ofJson? = some recipes) :
    request.answered = .arr ((recipes.map Recipe.record).map Record.view) := by
  have asked : Request.ofJson? request = some (.threads recipes) := by
    simp [Request.ofJson?, text?_eq_some_iff.mpr named, Request.recipes?, given, arr?, read]
  rw [answered, asked]
  rfl

/-- **Threads do not interfere.** A thread is started for each of some expressions that build records, the threads move
as they like, whoever listens to what they log and whatever has been logged earlier, and the records are joined. Then
there are as many records in the end as expressions, and each is the one that is shown for its expression alone. They
are what is answered to a request for the threads. From any point that the pool can reach, it can reach its end. -/
theorem answered_threads {values : List Json} {records : List Record}
    (spelled : List.Forall₂ Spells values records) :
    ∃ recipes, values.mapM Recipe.ofJson? = some recipes ∧
      ∀ subscriber earlier pool, ReflTransGen (Pool.Move subscriber) (.start recipes earlier) pool →
        (pool.IsComplete →
          pool.joined.length = values.length ∧
          (∀ (i : Nat) (value : Json), values[i]? = some value →
            ∃ record : Record, pool.joined[i]? = some record ∧ (showing value).answered = record.view) ∧
          ∀ request : Json, request.field? "op" = some (.str "threads") →
            request.field? "values" = some (.arr values) →
            request.answered = .arr (pool.joined.map Record.view)) ∧
        ∃ last, ReflTransGen (Pool.Move subscriber) pool last ∧ last.IsComplete := by
  obtain ⟨recipes, read, rfl, reads⟩ := Request.mapM_ofJson?_of_spells spelled
  refine ⟨recipes, read, ?_⟩
  intro subscriber earlier pool moves
  have tracks := (Pool.tracks_start recipes earlier).reaches moves
  refine ⟨fun complete => ?_, tracks.exists_complete subscriber⟩
  -- what is joined in the end does not depend on how the threads took turns
  rw [tracks.joined_eq complete]
  refine ⟨spelled.length_eq.symm, ?_, ?_⟩
  -- the recipe in that place is the one of the expression there
  · intro i value place
    obtain ⟨bound, rfl⟩ := List.getElem?_eq_some_iff.mp place
    have bound' := reads.length_eq ▸ bound
    refine ⟨(recipes.get ⟨i, bound'⟩).record, ?_, answered_showing (reads.get bound bound')⟩
    rw [List.getElem?_map, List.getElem?_eq_getElem bound']
    rfl
  · intro request named given
    exact answered_of_threads named given read

/-- The second of two threads delivers before the first one builds anything. Its record is still the second in the
end. -/
theorem answered_threads_out_of_order :
    let sample : Json := .obj [("kind", .str "sample")]
    let values : List Json := [sample, .aged "Ann" "" "-07"]
    let overtaken : Pool :=
      { waiting := [], threads := [.ready .sample, .finished], log := [],
        deliveries := [(.person (.new "Ann" (-7) ""), 1)], joined := [] }
    List.Forall₂ Spells values [.fixture .sample, .person (.new "Ann" (-7) "")] ∧
    ∃ recipes, values.mapM Recipe.ofJson? = some recipes ∧
      ReflTransGen (Pool.Move .silent) (.start recipes []) overtaken ∧
      ∃ last, ReflTransGen (Pool.Move .silent) overtaken last ∧ last.IsComplete ∧ last.joined.length = 2 ∧
        Json.answered (.obj [("op", .str "threads"), ("values", .arr values)]) =
          .arr (last.joined.map Record.view) := by
  intro sample values overtaken
  have spelled : List.Forall₂ Spells values [.fixture .sample, .person (.new "Ann" (-7) "")] :=
    .cons (Recipe.built_iff_spells.mp ⟨_, rfl, rfl⟩) (.cons (Recipe.built_iff_spells.mp ⟨_, rfl, rfl⟩) .nil)
  obtain ⟨recipes, read, joined⟩ := answered_threads spelled
  obtain rfl : [.sample, .leaf (.person "Ann" (-7) "")] = recipes := Option.some.inj read
  -- the states of the pool between its moves, up to the delivery that comes too early
  let started : Pool := .start [.sample, .leaf (.person "Ann" (-7) "")] []
  let spawned : Pool :=
    { started with waiting := [], threads := [.ready .sample, .ready (.leaf (.person "Ann" (-7) ""))] }
  let building : Pool :=
    { spawned with threads := [.ready .sample, .built (.person (.new "Ann" (-7) ""))] }
  have spawn : ReflTransGen (Pool.Move .silent) started spawned := .head (.spawn rfl) (.single (.spawn rfl))
  have build : Pool.Move .silent spawned building :=
    @Pool.Move.build _ spawned (.leaf (.person "Ann" (-7) "")) _ _ [.ready .sample] [] rfl rfl
  have deliver : Pool.Move .silent building overtaken :=
    @Pool.Move.deliver _ building _ [.ready .sample] [] rfl
  have moves : ReflTransGen (Pool.Move .silent) started overtaken := (spawn.tail build).tail deliver
  -- from there on it is completed somehow, which the theorem allows for
  obtain ⟨last, rest, complete⟩ := (joined .silent [] overtaken moves).2
  obtain ⟨length, -, answers⟩ := (joined .silent [] last (moves.trans rest)).1 complete
  exact ⟨spelled, _, read, moves, last, rest, complete, length, answers _ rfl rfl⟩

end Json

end Profiles
