import Spire.NodeCache.Cache
import Mathlib.Data.List.Nodup

/-! Refreshes of the node cache against a datastore that is updated meanwhile.

A refresh reads the datastore without the lock and stores what it read under
the lock. When two refreshes of one ID overlap around an update, the one that
read the older node can store last, with the later time: the cache goes back
to the older version while its refresh time moves on
(`overlapping_refreshes_regress`). The refresh time itself never goes back, in
any interleaving: every time the cache stores is a reading of a clock that only
advances (`refresh_time_never_regresses`).

The ghost versions mean what they say, in every interleaving: a node the cache
holds once a refresh stored it is the node the datastore held at the cached
version (`cached_node_at_cached_version`).

When the refreshes of each ID never overlap, the cache cannot go back. Every
refresh in flight then read a version no older than the cached one
(`Ordered`), so along a run the cached version of every ID only grows, and so
does the refresh time `FetchAttestedNode` reports
(`serial_refreshes_never_regress`). -/
namespace Spire.NodeCache

open System

variable {Node : Type} {s s' : System Node} {a : Action Node} {call : Nat} {r r' : Refresh Node}

/-! ## What each action does -/

theorem step_refreshWrite (stepped : s.step (.refreshWrite call) = some s') :
    ∃ r, s.inflight[call]? = some r ∧
      s' = { s with
        cache := s.cache.refreshAttestedNodeLocked r.id r.node s.clock
        cachedVersion := Function.update s.cachedVersion r.id r.version
        inflight := s.inflight.eraseIdx call } := by
  simp only [step] at stepped
  split at stepped <;> cases stepped
  exact ⟨_, ‹_›, rfl⟩

theorem Datastore.version_le_update (ds : Datastore Node) (id : String) (node : Node) (k : String) :
    ds.version k ≤ (ds.update id node).version k := by
  by_cases same : k = id
  · subst same; simp [Datastore.update]
  · simp [Datastore.update, same]

/-- An update rewrites no version the datastore has reached. -/
theorem Datastore.nodeAt_update_of_le {ds : Datastore Node} {id k : String} {node : Node} {v : Nat}
    (reached : v ≤ ds.version k) : (ds.update id node).nodeAt k v = ds.nodeAt k v := by
  by_cases same : k = id
  · subst same
    simp [Datastore.update, Function.update_noteq (show v ≠ ds.version k + 1 by omega)]
  · simp [Datastore.update, same]

theorem buildFromDatastore_ok {spiffeId : Node → String} {listed : List Node} {buildTime : Time} {c : Cache Node}
    (built : buildFromDatastore spiffeId (.ok listed : Except Unit (List Node)) buildTime = .ok c) :
    c.buildTime = buildTime ∧ c.nodeRefreshTime = fun _ => none := by
  cases built
  exact ⟨rfl, rfl⟩

/-- A refresh still in flight after the `call`-th one stored refreshes another
ID, when no two refreshes of one ID are in flight. -/
theorem id_ne_of_mem_eraseIdx {l : List (Refresh Node)} (once : (l.map Refresh.id).Nodup)
    (found : l[call]? = some r) (mem : r' ∈ l.eraseIdx call) : r'.id ≠ r.id := by
  obtain ⟨i, other, found'⟩ := List.mem_eraseIdx_iff_getElem?.mp mem
  intro same
  have atI : (l.map Refresh.id)[i]? = some r.id := by simp [found', same]
  have atCall : (l.map Refresh.id)[call]? = some r.id := by simp [found]
  have bound : ∀ j, (l.map Refresh.id)[j]? = some r.id → j < (l.map Refresh.id).length :=
    fun j at_ => (List.getElem?_eq_some_iff.mp at_).1
  rcases Nat.lt_or_gt_of_ne other with lt | gt
  · exact List.nodup_iff_getElem?_ne_getElem?.mp once i call lt (bound call atCall) (atI.trans atCall.symm)
  · exact List.nodup_iff_getElem?_ne_getElem?.mp once call i gt (bound i atI) (atCall.trans atI.symm)

/-! ## Two overlapping refreshes -/

/-- The datastore holds node `0` under `"a"`, at version 0. -/
def raceStore : Datastore Nat := ⟨fun _ _ => some 0, fun _ => 0⟩

/-- The cache built from `raceStore` at time 0. -/
def raceCache : Cache Nat := ⟨0, Function.update (fun _ => none) "a" (some (some 0)), fun _ => none⟩

theorem raceCache_built : buildFromDatastore (fun _ => "a") (.ok [0] : Except Unit (List Nat)) 0 = .ok raceCache :=
  rfl

/-- A refresh of `"a"` reads node 0; the datastore updates `"a"` to node 1; a
second refresh reads node 1 and stores it at time 1. -/
def raceBeforeFetch : List (Action Nat) :=
  [.refreshRead "a", .update "a" 1, .refreshRead "a", .tick 1, .refreshWrite 1]

/-- After `raceBeforeFetch`, `FetchAttestedNode("a")` returns node 1 of version
1; the first refresh then stores node 0 at time 2, and the cache returns node 0
of version 0 with the later time, while the datastore holds node 1. -/
theorem overlapping_refreshes_regress :
    ∃ s₁ s₂, Reachable s₁ ∧ s₁.run [.tick 1, .refreshWrite 0] = some s₂ ∧
      s₁.cache.fetchAttestedNode "a" = (some 1, 1) ∧ s₁.cachedVersion "a" = 1 ∧
      s₂.cache.fetchAttestedNode "a" = (some 0, 2) ∧ s₂.cachedVersion "a" = 0 ∧ s₂.ds.nodes "a" = some 1 := by
  have ran : (System.init raceCache raceStore).run raceBeforeFetch = some _ := rfl
  exact ⟨_, _, run_reachable (.init raceStore raceCache_built) ran, rfl, rfl, rfl, rfl, rfl, rfl⟩

/-! ## The clock, in every run -/

/-- Every time the cache holds is a reading of the clock so far. -/
structure Clocked (s : System Node) : Prop where
  buildLe : s.cache.buildTime ≤ s.clock
  refreshedLe : ∀ id t, s.cache.nodeRefreshTime id = some t → t ≤ s.clock

theorem clocked_init {spiffeId : Node → String} {listed : List Node} {buildTime : Time} {c : Cache Node}
    (ds : Datastore Node) (built : buildFromDatastore spiffeId (.ok listed : Except Unit (List Node)) buildTime = .ok c) :
    Clocked (System.init c ds) := by
  obtain ⟨-, none_refreshed⟩ := buildFromDatastore_ok built
  exact ⟨le_rfl, fun id t refreshed => by simp [System.init, none_refreshed] at refreshed⟩

theorem Clocked.step (clk : Clocked s) (stepped : s.step a = some s') : Clocked s' := by
  cases a with
  | update => cases stepped; exact ⟨clk.buildLe, clk.refreshedLe⟩
  | refreshRead => cases stepped; exact ⟨clk.buildLe, clk.refreshedLe⟩
  | refreshWrite call =>
    obtain ⟨r, -, rfl⟩ := step_refreshWrite stepped
    refine ⟨clk.buildLe, fun k t refreshed => ?_⟩
    by_cases same : k = r.id
    · subst same
      simp [Cache.refreshAttestedNodeLocked] at refreshed
      exact refreshed ▸ le_rfl
    · exact clk.refreshedLe k t (by simpa [Cache.refreshAttestedNodeLocked, same] using refreshed)
  | tick elapsed =>
    cases stepped
    have later : s.clock ≤ s.clock + elapsed := Int.le_add_of_nonneg_right (Int.ofNat_nonneg elapsed)
    exact ⟨clk.buildLe.trans later, fun id t refreshed => (clk.refreshedLe id t refreshed).trans later⟩

theorem Reachable.clocked (reach : Reachable s) : Clocked s := by
  induction reach with
  | init ds built => exact clocked_init ds built
  | step a _ stepped ih => exact ih.step stepped

/-- From `s` to `s'` no cached node disappears and no reported refresh time goes back. -/
def TimesKept (s s' : System Node) : Prop :=
  ∀ id, s.cache.nodes id ≠ none →
    s'.cache.nodes id ≠ none ∧ (s.cache.fetchAttestedNode id).2 ≤ (s'.cache.fetchAttestedNode id).2

theorem TimesKept.of_cache (cache : s'.cache = s.cache) : TimesKept s s' := fun _ present => by
  rw [cache]
  exact ⟨present, le_rfl⟩

theorem TimesKept.trans {s₁ s₂ s₃ : System Node} (first : TimesKept s₁ s₂) (second : TimesKept s₂ s₃) :
    TimesKept s₁ s₃ := fun id present =>
  have mid := first id present
  ⟨(second id mid.1).1, mid.2.trans (second id mid.1).2⟩

theorem fetchAttestedNode_time {c : Cache Node} {id : String} (present : c.nodes id ≠ none) :
    (c.fetchAttestedNode id).2 = (c.nodeRefreshTime id).getD c.buildTime := by
  unfold Cache.fetchAttestedNode
  split
  · contradiction
  · rfl

theorem Clocked.timesKept_step (clk : Clocked s) (stepped : s.step a = some s') : TimesKept s s' := by
  cases a with
  | update => cases stepped; exact .of_cache rfl
  | refreshRead => cases stepped; exact .of_cache rfl
  | tick => cases stepped; exact .of_cache rfl
  | refreshWrite call =>
    obtain ⟨r, -, rfl⟩ := step_refreshWrite stepped
    intro id present
    by_cases same : id = r.id
    · subst same
      have stored : (s.cache.refreshAttestedNodeLocked r.id r.node s.clock).nodes r.id ≠ none := by
        simp [Cache.refreshAttestedNodeLocked]
      refine ⟨stored, ?_⟩
      rw [fetchAttestedNode_time present, fetchAttestedNode_time stored]
      cases refreshed : s.cache.nodeRefreshTime r.id with
      | none => simpa [Cache.refreshAttestedNodeLocked] using clk.buildLe
      | some t => simpa [Cache.refreshAttestedNodeLocked] using clk.refreshedLe r.id t refreshed
    · exact ⟨by simpa [Cache.refreshAttestedNodeLocked, same] using present,
        by simp [Cache.refreshAttestedNodeLocked, Cache.fetchAttestedNode, same]⟩

/-- **Reported refresh times never go back.** In every interleaving of
refreshes and datastore updates, overlapping refreshes included, a cached node
stays cached and the refresh time `FetchAttestedNode` reports for it never
decreases. -/
theorem refresh_time_never_regresses (reach : Reachable s) (later : Follows s s') {id : String}
    (present : s.cache.nodes id ≠ none) :
    s'.cache.nodes id ≠ none ∧ (s.cache.fetchAttestedNode id).2 ≤ (s'.cache.fetchAttestedNode id).2 := by
  suffices TimesKept s s' from this id present
  induction later with
  | refl => exact .of_cache rfl
  | tail before moved ih =>
    obtain ⟨a, stepped⟩ := moved
    exact ih.trans ((reach.follows before).clocked.timesKept_step stepped)

/-- In the race of `raceBeforeFetch`, the first refresh's late store sends the
cached version back while the reported time still moves on. -/
theorem overlapping_refreshes_keep_times :
    ∃ s₁ s₂ : System Nat, Reachable s₁ ∧ Follows s₁ s₂ ∧ s₂.cachedVersion "a" < s₁.cachedVersion "a" ∧
      (s₂.cache.nodes "a" ≠ none ∧ (s₁.cache.fetchAttestedNode "a").2 ≤ (s₂.cache.fetchAttestedNode "a").2) := by
  obtain ⟨s₁, ran⟩ : ∃ s₁, (System.init raceCache raceStore).run raceBeforeFetch = some s₁ := ⟨_, rfl⟩
  obtain ⟨s₂, ran₂⟩ : ∃ s₂, s₁.run [.tick 1, .refreshWrite 0] = some s₂ := by
    simp only [raceBeforeFetch, System.init, run, step] at ran
    cases ran
    exact ⟨_, rfl⟩
  have reach := run_reachable (.init raceStore raceCache_built) ran
  have later := run_follows ran₂
  refine ⟨s₁, s₂, reach, later, ?_, refresh_time_never_regresses reach later ?_⟩ <;>
    simp only [raceBeforeFetch, System.init, run, step] at ran ran₂ <;> cases ran <;> cases ran₂ <;> decide

/-! ## The ghost versions, in every run -/

/-- What the ghost versions mean: each refresh in flight read the node the
datastore held at the version it read, each node a refresh stored is the node
the datastore held at its cached version, and these versions are ones the
datastore has reached. -/
structure VersionsTracked (s : System Node) : Prop where
  cachedLe : ∀ id, s.cachedVersion id ≤ s.ds.version id
  inflightRead : ∀ r ∈ s.inflight, r.version ≤ s.ds.version r.id ∧ r.node = s.ds.nodeAt r.id r.version
  cachedNode : ∀ id node, s.cache.nodes id = some node → s.cache.nodeRefreshTime id ≠ none →
    node = s.ds.nodeAt id (s.cachedVersion id)

theorem VersionsTracked.step (tracked : VersionsTracked s) (stepped : s.step a = some s') : VersionsTracked s' := by
  cases a with
  | update id node =>
    cases stepped
    refine ⟨fun k => (tracked.cachedLe k).trans (s.ds.version_le_update id node k), fun r mem => ?_,
      fun k node' cached refreshed => ?_⟩
    · obtain ⟨reached, read⟩ := tracked.inflightRead r mem
      exact ⟨reached.trans (s.ds.version_le_update id node r.id), by rw [Datastore.nodeAt_update_of_le reached, read]⟩
    · rw [Datastore.nodeAt_update_of_le (tracked.cachedLe k)]
      exact tracked.cachedNode k node' cached refreshed
  | refreshRead id =>
    cases stepped
    refine ⟨tracked.cachedLe, fun r mem => ?_, tracked.cachedNode⟩
    rcases List.mem_append.mp mem with old | new
    · exact tracked.inflightRead r old
    · rw [List.mem_singleton.mp new]
      exact ⟨le_rfl, rfl⟩
  | refreshWrite call =>
    obtain ⟨r, found, rfl⟩ := step_refreshWrite stepped
    obtain ⟨reached, read⟩ := tracked.inflightRead r (List.getElem?_mem found)
    refine ⟨fun k => ?_, fun r' mem => tracked.inflightRead r' (List.mem_of_mem_eraseIdx mem),
      fun k node cached refreshed => ?_⟩
    · by_cases same : k = r.id
      · subst same; simpa using reached
      · simpa [same] using tracked.cachedLe k
    · by_cases same : k = r.id
      · subst same
        simp only [Cache.refreshAttestedNodeLocked, Function.update_same, Option.some.injEq] at cached
        simpa [← cached] using read
      · simp only [Cache.refreshAttestedNodeLocked, Function.update_noteq same] at cached refreshed
        simpa [same] using tracked.cachedNode k node cached refreshed
  | tick => cases stepped; exact ⟨tracked.cachedLe, tracked.inflightRead, tracked.cachedNode⟩

/-- What a run whose refreshes of one ID never overlap keeps besides the clock:
each refresh in flight read a version between the cached one and the
datastore's, and at most one is in flight per ID. -/
structure Ordered (s : System Node) extends Clocked s : Prop where
  cachedLe : ∀ id, s.cachedVersion id ≤ s.ds.version id
  inflightFresh : ∀ r ∈ s.inflight, s.cachedVersion r.id ≤ r.version
  inflightLe : ∀ r ∈ s.inflight, r.version ≤ s.ds.version r.id
  inflightOnce : (s.inflight.map Refresh.id).Nodup

theorem ordered_init {spiffeId : Node → String} {listed : List Node} {buildTime : Time} {c : Cache Node}
    (ds : Datastore Node) (built : buildFromDatastore spiffeId (.ok listed : Except Unit (List Node)) buildTime = .ok c) :
    Ordered (System.init c ds) :=
  ⟨clocked_init ds built, fun _ => le_rfl, fun _ none_in => (nomatch none_in), fun _ none_in => (nomatch none_in), .nil⟩

theorem Ordered.step (ord : Ordered s) (serial : s.Serial a) (stepped : s.step a = some s') : Ordered s' := by
  have clk := ord.toClocked.step stepped
  cases a with
  | update id node =>
    cases stepped
    exact ⟨clk, fun k => (ord.cachedLe k).trans (s.ds.version_le_update id node k), ord.inflightFresh,
      fun r inflight => (ord.inflightLe r inflight).trans (s.ds.version_le_update id node r.id), ord.inflightOnce⟩
  | refreshRead id =>
    cases stepped
    refine ⟨clk, ord.cachedLe, fun r mem => ?_, fun r mem => ?_, ?_⟩
    · rcases List.mem_append.mp mem with old | new
      · exact ord.inflightFresh r old
      · rw [List.mem_singleton.mp new]; exact ord.cachedLe id
    · rcases List.mem_append.mp mem with old | new
      · exact ord.inflightLe r old
      · rw [List.mem_singleton.mp new]
    · simpa [List.nodup_append] using And.intro ord.inflightOnce serial
  | refreshWrite call =>
    obtain ⟨r, found, rfl⟩ := step_refreshWrite stepped
    refine ⟨clk, fun k => ?_, fun r' mem => ?_, fun r' mem => ord.inflightLe r' (List.mem_of_mem_eraseIdx mem), ?_⟩
    · by_cases same : k = r.id
      · subst same; simpa using ord.inflightLe r (List.getElem?_mem found)
      · simpa [same] using ord.cachedLe k
    · simpa [id_ne_of_mem_eraseIdx ord.inflightOnce found mem] using
        ord.inflightFresh r' (List.mem_of_mem_eraseIdx mem)
    · exact ord.inflightOnce.sublist ((List.eraseIdx_sublist _ call).map Refresh.id)
  | tick => cases stepped; exact ⟨clk, ord.cachedLe, ord.inflightFresh, ord.inflightLe, ord.inflightOnce⟩

theorem SerialReachable.ordered (reach : SerialReachable s) : Ordered s := by
  induction reach with
  | init ds built => exact ordered_init ds built
  | step a _ serial stepped ih => exact ih.step serial stepped

/-- A step from an `Ordered` state sends no cached version back. -/
theorem Ordered.version_step (ord : Ordered s) (stepped : s.step a = some s') (id : String) :
    s.cachedVersion id ≤ s'.cachedVersion id := by
  cases a with
  | update => cases stepped; exact le_rfl
  | refreshRead => cases stepped; exact le_rfl
  | tick => cases stepped; exact le_rfl
  | refreshWrite call =>
    obtain ⟨r, found, rfl⟩ := step_refreshWrite stepped
    by_cases same : id = r.id
    · subst same; simpa using ord.inflightFresh r (List.getElem?_mem found)
    · simp [same]

/-- From `s` to `s'` no cached version goes back, and `TimesKept`. -/
def NoRegress (s s' : System Node) : Prop := (∀ id, s.cachedVersion id ≤ s'.cachedVersion id) ∧ TimesKept s s'

theorem NoRegress.trans {s₁ s₂ s₃ : System Node} (first : NoRegress s₁ s₂) (second : NoRegress s₂ s₃) :
    NoRegress s₁ s₃ :=
  ⟨fun id => (first.1 id).trans (second.1 id), first.2.trans second.2⟩

/-- **Refreshes that never overlap never go back.** Along any run in which no
two refreshes of one ID are in flight at once, the datastore version of every
cached node only grows, a cached node stays cached, and the refresh time
`FetchAttestedNode` reports for it only grows. -/
theorem serial_refreshes_never_regress (reach : SerialReachable s) (later : SerialFollows s s') (id : String) :
    s.cachedVersion id ≤ s'.cachedVersion id ∧
      (s.cache.nodes id ≠ none →
        s'.cache.nodes id ≠ none ∧ (s.cache.fetchAttestedNode id).2 ≤ (s'.cache.fetchAttestedNode id).2) := by
  suffices NoRegress s s' from ⟨this.1 id, this.2 id⟩
  induction later with
  | refl => exact ⟨fun _ => le_rfl, .of_cache rfl⟩
  | tail before moved ih =>
    obtain ⟨a, -, stepped⟩ := moved
    have ord := (reach.follows before).ordered
    exact ih.trans ⟨ord.version_step stepped, ord.toClocked.timesKept_step stepped⟩

/-- After the datastore updates `"a"`, one refresh of it reads and stores node 1. -/
theorem serial_refresh_catches_up :
    ∃ s', SerialFollows (System.init raceCache raceStore) s' ∧ s'.cache.fetchAttestedNode "a" = (some 1, 1) ∧
      ((System.init raceCache raceStore).cachedVersion "a" ≤ s'.cachedVersion "a" ∧
        ((System.init raceCache raceStore).cache.nodes "a" ≠ none →
          s'.cache.nodes "a" ≠ none ∧
            ((System.init raceCache raceStore).cache.fetchAttestedNode "a").2 ≤ (s'.cache.fetchAttestedNode "a").2)) := by
  have later : SerialFollows (System.init raceCache raceStore) _ :=
    .tail (.tail (.tail (.single ⟨.update "a" 1, trivial, rfl⟩) ⟨.refreshRead "a", nofun, rfl⟩)
      ⟨.tick 1, trivial, rfl⟩) ⟨.refreshWrite 0, trivial, rfl⟩
  exact ⟨_, later, by decide, serial_refreshes_never_regress (.init raceStore raceCache_built) later "a"⟩

end Spire.NodeCache
