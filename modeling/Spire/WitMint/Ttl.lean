import Mathlib.Algebra.Group.Int
import Mathlib.Logic.Basic

/-! The TTL that `spire-server wit mint` asks the server for. `mintCommand.Run`
passes the `-ttl` flag, a `time.Duration` that `flag.DurationVar` parses and
that may be negative, to `ttlToSeconds`, which rounds it to whole seconds with
`(ttl + time.Second - 1) / time.Second` and narrows the quotient to the
`int32` of `MintWITSVIDRequest.Ttl` with `util.CheckedCast[int32]`.

A `time.Duration` is an `int64`: the model keeps it as an integer with its
range, and Go's `+`, `-` and `/` on it as the integer operations wrapped back
into that range by two's complement (`Int.bmod` by `2^64`). Go's `/` truncates
toward zero (`Int.tdiv`). Of the generic `util.CheckedCast` the model keeps
what its callers rely on: it returns the value when the target type holds it,
and an error (`none`) otherwise. -/
namespace Spire.WitMint

/-- `time.Duration`: an `int64` count of nanoseconds, kept as an integer
together with its range. -/
structure Duration where
  /-- The nanoseconds. -/
  ns : Int
  lower : -2 ^ 63 ≤ ns
  upper : ns < 2 ^ 63

namespace Duration

/-- The `int64` that two's-complement arithmetic leaves for the integer `x`. -/
def wrap (x : Int) : Duration :=
  ⟨x.bmod (2 ^ 64), by have := Int.le_bmod (x := x) (m := 2 ^ 64) (by decide); omega,
    by have := Int.bmod_lt (x := x) (m := 2 ^ 64) (by decide); omega⟩

/-- Go's `+` on `time.Duration`, which wraps. -/
instance : Add Duration := ⟨fun a b => wrap (a.ns + b.ns)⟩

/-- Go's `-` on `time.Duration`, which wraps. -/
instance : Sub Duration := ⟨fun a b => wrap (a.ns - b.ns)⟩

/-- Go's `/` on `time.Duration` by a non-zero divisor: the quotient truncated
toward zero, which wraps only for `-2^63 / -1`. Go panics on a zero divisor;
the only divisor here is `time.Second`. -/
instance : Div Duration := ⟨fun a b => wrap (a.ns.tdiv b.ns)⟩

/-- An untyped integer constant converted to `time.Duration`. -/
instance : OfNat Duration n := ⟨wrap n⟩

@[simp] theorem add_ns (a b : Duration) : (a + b).ns = (a.ns + b.ns).bmod (2 ^ 64) := rfl

@[simp] theorem sub_ns (a b : Duration) : (a - b).ns = (a.ns - b.ns).bmod (2 ^ 64) := rfl

@[simp] theorem div_ns (a b : Duration) : (a / b).ns = (a.ns.tdiv b.ns).bmod (2 ^ 64) := rfl

@[simp] theorem one_ns : (1 : Duration).ns = 1 := rfl

end Duration

/-- `time.Second`. -/
def second : Duration := ⟨1000000000, by decide, by decide⟩

@[simp] theorem second_ns : second.ns = 1000000000 := rfl

/-- `util.CheckedCast[int32](v)`: the value when an `int32` holds it, and an
error (`none`) otherwise. -/
def checkedCast (v : Duration) : Option Int :=
  if -2 ^ 31 ≤ v.ns ∧ v.ns < 2 ^ 31 then some v.ns else none

/-- `ttlToSeconds(ttl)`: "the number of seconds in a duration, rounded up to
the nearest second". -/
def ttlToSeconds (ttl : Duration) : Option Int :=
  checkedCast ((ttl + second - 1) / second)

end Spire.WitMint
