import Mathlib.Algebra.Group.Int
import Mathlib.Logic.Function.Basic
import Mathlib.Order.Basic

/-! The generational cache `cache.Cache[Key, Value]`: two maps, `current` and
`previous`, behind one lock. `Get` looks in `current` under the read lock and,
on a miss, once more under the write lock; there it drops an expired entry,
looks in `previous` and promotes a live entry found there, and, when ten
seconds have passed since the last rotation, makes `current` the new
`previous`.

Every call of `clk.Now()` is an argument: `Readings` holds the five readings a
`Get` can make, one per call site, and nothing relates them, so the clock may
stand still, advance or go back between them. A `time.Time` is a count of
nanoseconds from the zero `time.Time{}`, January 1 of year 1; the zero
`valueWithExpiry` that a map lookup of an absent key yields expires there.

The locks are not modelled: each call is one atomic step. `Get`'s read-locked
half changes nothing, so the calls of any interleaving take effect in the order
of their write-locked sections. -/
namespace Spire.Generational

/-- A `time.Time`, in nanoseconds from the zero `time.Time{}`. -/
abbrev Time := Int

/-- `time.Second`, in nanoseconds. -/
def second : Int := 1000000000

/-- `t.Sub(u)`: the difference as a `time.Duration`, saturated to its `int64` range. -/
def Time.sub (t u : Time) : Int := max (-2 ^ 63) (min (2 ^ 63 - 1) (t - u))

/-- `valueWithExpiry[Value]`. -/
structure ValueWithExpiry (V : Type) where
  /-- `expiry time.Time` -/
  expiry : Time
  /-- `value *Value`; `none` is `nil`. -/
  value : Option V
  deriving DecidableEq, Repr

variable {K V : Type}

/-- The zero `valueWithExpiry`: what `m[key]` yields for an absent key. -/
def ValueWithExpiry.zero : ValueWithExpiry V := ⟨0, none⟩

/-- `IsExpired`: `clk.Now().After(v.expiry)`, at the reading `now`. -/
def ValueWithExpiry.isExpired (v : ValueWithExpiry V) (now : Time) : Bool := decide (v.expiry < now)

/-- `val, ok := m[key]`. -/
def lookup (m : K → Option (ValueWithExpiry V)) (key : K) : ValueWithExpiry V × Bool :=
  match m key with
  | some val => (val, true)
  | none => (.zero, false)

/-- `Cache[Key, Value]`, without its clock and its lock. -/
structure Cache (K V : Type) where
  /-- `previous map[Key]valueWithExpiry[Value]` -/
  previous : K → Option (ValueWithExpiry V)
  /-- `current map[Key]valueWithExpiry[Value]` -/
  current : K → Option (ValueWithExpiry V)
  /-- `lastGC time.Time`: when the generations last rotated. -/
  lastGC : Time

/-- The clock readings of one `Get`, by call site. Each is read only on the
path that reaches it. -/
structure Readings where
  /-- `val.IsExpired(c.clk)` under the read lock -/
  fast : Time
  /-- `val.IsExpired(c.clk)` in the first check under the write lock -/
  locked : Time
  /-- `val.IsExpired(c.clk)` in the `else if` -/
  expired : Time
  /-- `val.IsExpired(c.clk)` on the entry from `previous` -/
  previous : Time
  /-- `now := c.clk.Now()` before the rotation -/
  now : Time
  deriving DecidableEq, Repr

/-- One reading at every call site: a clock that stands still during the call. -/
def Readings.at (t : Time) : Readings := ⟨t, t, t, t, t⟩

/-- The readings at which `Get` can accept an entry. -/
def Readings.checks (r : Readings) : List Time := [r.fast, r.locked, r.previous]

variable [DecidableEq K]

/-- `NewCache(clk)`, with `clk.Now()` reading `now`. -/
def newCache (now : Time) : Cache K V := ⟨fun _ => none, fun _ => none, now⟩

namespace Cache

/-- The end of a `Get` that missed: when ten seconds have passed since the last
rotation, `current` becomes `previous` and a fresh map `current`; the result is
`nil, false`. -/
def collect (c : Cache K V) (now : Time) : (Option V × Bool) × Cache K V :=
  ((none, false),
    if 10 * second ≤ Time.sub now c.lastGC then { previous := c.current, current := fun _ => none, lastGC := now }
    else c)

/-- `Get`'s second half, under the write lock. -/
def getLocked (c : Cache K V) (key : K) (r : Readings) : (Option V × Bool) × Cache K V :=
  let (val, ok) := lookup c.current key
  if ok && !val.isExpired r.locked then ((val.value, ok), c)
  else if val.isExpired r.expired then { c with current := Function.update c.current key none }.collect r.now
  else
    let (val, ok) := lookup c.previous key
    if ok && !val.isExpired r.previous then
      ((val.value, ok),
        { c with current := Function.update c.current key (some val), previous := Function.update c.previous key none })
    else { c with previous := Function.update c.previous key none }.collect r.now

/-- `Get(key)`: the check under the read lock, then `getLocked`. -/
def get (c : Cache K V) (key : K) (r : Readings) : (Option V × Bool) × Cache K V :=
  let (val, ok) := lookup c.current key
  if ok && !val.isExpired r.fast then ((val.value, ok), c)
  else c.getLocked key r

/-- `Set(key, value, expiry)`. -/
def set (c : Cache K V) (key : K) (value : Option V) (expiry : Time) : Cache K V :=
  { c with previous := Function.update c.previous key none, current := Function.update c.current key (some ⟨expiry, value⟩) }

/-- `Delete(key)`. -/
def delete (c : Cache K V) (key : K) : Cache K V :=
  { c with current := Function.update c.current key none, previous := Function.update c.previous key none }

end Cache

/-- One call on the cache, with the clock readings it makes. -/
inductive Op (K V : Type) where
  | set (key : K) (value : Option V) (expiry : Time)
  | get (key : K) (readings : Readings)
  | delete (key : K)

/-- What one call does to the cache. -/
def Cache.apply (c : Cache K V) : Op K V → Cache K V
  | .set key value expiry => c.set key value expiry
  | .get key r => (c.get key r).2
  | .delete key => c.delete key

/-- A sequence of calls, in the order they take the lock. -/
def Cache.run (c : Cache K V) (ops : List (Op K V)) : Cache K V := ops.foldl Cache.apply c

/-! ## What the cache is for

A key maps to the entry of its latest `Set` when no `Delete` followed it. The
cache may forget such an entry, but it may not invent, revive or alter one. -/

/-- The written entries after one call. -/
def recordWrite (w : K → Option (ValueWithExpiry V)) : Op K V → K → Option (ValueWithExpiry V)
  | .set key value expiry => Function.update w key (some ⟨expiry, value⟩)
  | .get _ _ => w
  | .delete key => Function.update w key none

/-- The latest `Set` of each key with no `Delete` after it. -/
def latestWrite (ops : List (Op K V)) : K → Option (ValueWithExpiry V) :=
  ops.foldl recordWrite fun _ => none

@[simp] theorem run_nil (c : Cache K V) : c.run [] = c := rfl

@[simp] theorem run_cons (c : Cache K V) (op : Op K V) (ops : List (Op K V)) :
    c.run (op :: ops) = (c.apply op).run ops := rfl

end Spire.Generational
