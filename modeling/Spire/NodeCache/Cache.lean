import Mathlib.Logic.Function.Basic
import Mathlib.Logic.Relation

/-! The node cache `nodecache.Cache`: attested nodes by SPIFFE ID, each with
the time it was last refreshed, behind one lock. `BuildFromDatastore` fills it
from one listing of the datastore. `RefreshAttestedNode` reads one node from
the datastore without the lock, then stores it with `time.Now()` under the
lock. `FetchAttestedNode` reads under the read lock.

`System` runs refreshes against a datastore that is updated meanwhile. A
refresh's two halves are separate steps, so updates and other refreshes can
come between them. A refresh whose read fails returns its error and changes
nothing, so it is no step at all. The clock is Go's monotonic clock: it only
advances. Ghost state rides along, read by no step: how many updates the
datastore has had for each ID (its version), the node it held at each version,
and the version that each cached node and each refresh in flight was read
at. -/
namespace Spire.NodeCache

/-- A `time.Time`, in nanoseconds from the zero `time.Time{}`. -/
abbrev Time := Int

/-- `nodecache.Cache`, without its datastore handle and its lock. -/
structure Cache (Node : Type) where
  /-- `buildTime time.Time` -/
  buildTime : Time
  /-- `nodes map[string]*common.AttestedNode`; an inner `none` is a stored `nil`. -/
  nodes : String → Option (Option Node)
  /-- `nodeRefreshTime map[string]time.Time` -/
  nodeRefreshTime : String → Option Time

variable {Node ε : Type}

/-- `BuildFromDatastore`, given the datastore's answer to `ListAttestedNodes`
and `time.Now()` as `buildTime`. -/
def buildFromDatastore (spiffeId : Node → String) (listed : Except ε (List Node)) (buildTime : Time) :
    Except ε (Cache Node) :=
  match listed with
  | .error err => .error err
  | .ok nodes =>
    .ok ⟨buildTime, nodes.foldl (fun m node => Function.update m (spiffeId node) (some (some node))) fun _ => none,
      fun _ => none⟩

namespace Cache

/-- `FetchAttestedNode(id)`; its error is always `nil`. -/
def fetchAttestedNode (c : Cache Node) (id : String) : Option Node × Time :=
  match c.nodes id with
  | none => (none, 0)
  | some node => (node, (c.nodeRefreshTime id).getD c.buildTime)

/-- `RefreshAttestedNode`'s second half, under the lock: store the node read
and the reading `now` of `time.Now()`. -/
def refreshAttestedNodeLocked (c : Cache Node) (id : String) (node : Option Node) (now : Time) : Cache Node :=
  { c with
    nodes := Function.update c.nodes id (some node)
    nodeRefreshTime := Function.update c.nodeRefreshTime id (some now) }

/-- `RefreshAttestedNode(id)` run alone, given the datastore's answer to
`FetchAttestedNode` and the reading `now`. -/
def refreshAttestedNode (c : Cache Node) (id : String) (read : Except ε (Option Node)) (now : Time) :
    Except ε (Option Node) × Cache Node :=
  match read with
  | .error err => (.error err, c)
  | .ok node => (.ok node, c.refreshAttestedNodeLocked id node now)

end Cache

/-! ## Refreshes interleaved with datastore updates -/

/-- The datastore, with the history of each ID. -/
structure Datastore (Node : Type) where
  /-- Ghost: the node stored under each ID at each of its versions; `none` is
  "not found". -/
  nodeAt : String → Nat → Option Node
  /-- Ghost: how many updates each ID has had. -/
  version : String → Nat

/-- The node stored under each ID, as `FetchAttestedNode` finds it: the one at
its current version. -/
def Datastore.nodes (ds : Datastore Node) (id : String) : Option Node := ds.nodeAt id (ds.version id)

/-- `UpdateAttestedNode`: a new node under `id`, at one more version. -/
def Datastore.update (ds : Datastore Node) (id : String) (node : Node) : Datastore Node :=
  ⟨Function.update ds.nodeAt id (Function.update (ds.nodeAt id) (ds.version id + 1) (some node)),
    Function.update ds.version id (ds.version id + 1)⟩

/-- A `RefreshAttestedNode` call that has read the datastore and waits for the lock. -/
structure Refresh (Node : Type) where
  /-- The ID it refreshes. -/
  id : String
  /-- The node it read. -/
  node : Option Node
  /-- Ghost: the version it read. -/
  version : Nat

/-- One node cache, its datastore, the clock and the refreshes in flight. -/
structure System (Node : Type) where
  /-- The cache. -/
  cache : Cache Node
  /-- Ghost: the datastore version each cached node was read at. -/
  cachedVersion : String → Nat
  /-- The datastore. -/
  ds : Datastore Node
  /-- What `time.Now()` reads. -/
  clock : Time
  /-- Refreshes between their two halves, in the order of their reads. -/
  inflight : List (Refresh Node)

/-- One atomic step of one goroutine. -/
inductive Action (Node : Type) where
  /-- the datastore updates `id` -/
  | update (id : String) (node : Node)
  /-- a refresh of `id` reads the datastore -/
  | refreshRead (id : String)
  /-- the `call`-th refresh in flight stores what it read -/
  | refreshWrite (call : Nat)
  /-- the clock advances -/
  | tick (elapsed : Nat)

namespace System

/-- The cache `BuildFromDatastore` built, before any other step; the nodes it
listed were read at the datastore's current versions. -/
def init (c : Cache Node) (ds : Datastore Node) : System Node := ⟨c, ds.version, ds, c.buildTime, []⟩

/-- What one action does; `none` when it is not enabled. -/
def step (s : System Node) : Action Node → Option (System Node)
  | .update id node => some { s with ds := s.ds.update id node }
  | .refreshRead id => some { s with inflight := s.inflight ++ [⟨id, s.ds.nodes id, s.ds.version id⟩] }
  | .refreshWrite call =>
    match s.inflight[call]? with
    | none => none
    | some r =>
      some { s with
        cache := s.cache.refreshAttestedNodeLocked r.id r.node s.clock
        cachedVersion := Function.update s.cachedVersion r.id r.version
        inflight := s.inflight.eraseIdx call }
  | .tick elapsed => some { s with clock := s.clock + elapsed }

/-- A schedule, run from `s`. -/
def run (s : System Node) : List (Action Node) → Option (System Node)
  | [] => some s
  | a :: rest => (s.step a).bind (run · rest)

/-- A refresh reads only when no other refresh of the same ID is in flight. -/
def Serial (s : System Node) : Action Node → Prop
  | .refreshRead id => ∀ r ∈ s.inflight, r.id ≠ id
  | _ => True

/-- One step of any goroutine leads from `s` to `s'`. -/
def Moves (s s' : System Node) : Prop := ∃ a, s.step a = some s'

/-- One step that keeps the refreshes of each ID apart. -/
def SerialMoves (s s' : System Node) : Prop := ∃ a, s.Serial a ∧ s.step a = some s'

end System

open System

/-- Every state some schedule reaches from a built cache. -/
inductive Reachable : System Node → Prop
  | init {spiffeId : Node → String} {listed : List Node} {buildTime : Time} {c : Cache Node} (ds : Datastore Node) :
      buildFromDatastore spiffeId (.ok listed : Except Unit (List Node)) buildTime = .ok c → Reachable (System.init c ds)
  | step {s s' : System Node} (a : Action Node) : Reachable s → s.step a = some s' → Reachable s'

/-- Every state a schedule whose refreshes of one ID never overlap reaches. -/
inductive SerialReachable : System Node → Prop
  | init {spiffeId : Node → String} {listed : List Node} {buildTime : Time} {c : Cache Node} (ds : Datastore Node) :
      buildFromDatastore spiffeId (.ok listed : Except Unit (List Node)) buildTime = .ok c → SerialReachable (System.init c ds)
  | step {s s' : System Node} (a : Action Node) : SerialReachable s → s.Serial a → s.step a = some s' →
      SerialReachable s'

/-- `s'` comes after `s` in some schedule. -/
abbrev Follows : System Node → System Node → Prop := Relation.ReflTransGen Moves

/-- `s'` comes after `s` in a schedule whose refreshes of one ID never overlap. -/
abbrev SerialFollows : System Node → System Node → Prop := Relation.ReflTransGen SerialMoves

variable {s s' : System Node}

theorem Reachable.follows (reach : Reachable s) (later : Follows s s') : Reachable s' := by
  induction later with
  | refl => exact reach
  | tail _ moved ih => obtain ⟨a, stepped⟩ := moved; exact .step a ih stepped

theorem run_follows {acts : List (Action Node)} (ran : s.run acts = some s') : Follows s s' := by
  induction acts generalizing s with
  | nil => cases ran; exact .refl
  | cons a rest ih =>
    simp only [run] at ran
    cases stepped : s.step a with
    | none => simp [stepped] at ran
    | some s₁ =>
      rw [stepped, Option.some_bind] at ran
      exact .head ⟨a, stepped⟩ (ih ran)

theorem run_reachable {acts : List (Action Node)} (reach : Reachable s) (ran : s.run acts = some s') :
    Reachable s' :=
  reach.follows (run_follows ran)

theorem SerialReachable.follows (reach : SerialReachable s) (later : SerialFollows s s') : SerialReachable s' := by
  induction later with
  | refl => exact reach
  | tail _ moved ih => obtain ⟨a, serial, stepped⟩ := moved; exact .step a ih serial stepped

end Spire.NodeCache
