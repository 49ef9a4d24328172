import Spire.WitMint.Ttl
import Mathlib.Data.Rat.Floor

/-! What `ttlToSeconds` returns, for every `time.Duration`.

The sum `ttl + time.Second - 1` wraps once, for the durations within a second
of the largest `int64` (`roundUpSum_ns_of_wraps`); the quotient then lies far
below the `int32` range, where `⌈ttl / 1 s⌉` lies far above it, so
`CheckedCast` reports an error as it should. Above `-1 s` the code returns
`⌈ttl / 1 s⌉` when an `int32` holds it and an error otherwise
(`ttlToSeconds_above_minus_second`).

At `-1 s` and below the sum is negative, and Go's `/` truncates it toward
zero, which already rounds it up: the added `time.Second - 1` rounds up a
second time. The result is `⌈ttl / 1 s⌉ + 1` unless `ttl` is one nanosecond
past a whole second (`ttlToSeconds_at_most_minus_second`): `-ttl -1s` asks for
a TTL of `0`, and `-ttl -2147483649s` for the `int32` `-2^31` where
`⌈ttl / 1 s⌉` has no `int32` (`negative_ttl_rounds_up_twice`). -/
namespace Spire.WitMint

/-- `⌈ttl / 1 s⌉`: the whole seconds the TTL rounds up to. -/
def secondsCeil (ttl : Duration) : Int := ⌈(ttl.ns : ℚ) / second.ns⌉

variable {ttl : Duration}

/-- `⌈ttl / 1 s⌉ = q` says that `ttl` lies in the second that ends at `q`. -/
theorem secondsCeil_eq_iff {q : Int} :
    secondsCeil ttl = q ↔ (q - 1) * 1000000000 < ttl.ns ∧ ttl.ns ≤ q * 1000000000 := by
  rw [secondsCeil, Int.ceil_eq_iff, second_ns, lt_div_iff₀ (by norm_num), div_le_iff₀ (by norm_num)]
  norm_cast

theorem secondsCeil_bounds (ttl : Duration) :
    (secondsCeil ttl - 1) * 1000000000 < ttl.ns ∧ ttl.ns ≤ secondsCeil ttl * 1000000000 :=
  secondsCeil_eq_iff.mp rfl

/-! ## The arithmetic of `(ttl + time.Second - 1) / time.Second` -/

private theorem bmod_of_range {x : Int} (lower : -2 ^ 63 ≤ x) (upper : x < 2 ^ 63) : x.bmod (2 ^ 64) = x := by
  rw [Int.bmod_def]
  split <;> omega

/-- The two wrapping operations of `ttl + time.Second - 1` wrap the integer sum once. -/
theorem roundUpSum_ns (ttl : Duration) : (ttl + second - 1).ns = (ttl.ns + 999999999).bmod (2 ^ 64) := by
  simp only [Duration.sub_ns, Duration.add_ns, Duration.one_ns, second_ns, Int.bmod_sub_bmod_congr]
  congr 1
  omega

theorem roundUpSum_ns_of_fits (fits : ttl.ns ≤ 2 ^ 63 - 1 - 999999999) :
    (ttl + second - 1).ns = ttl.ns + 999999999 := by
  rw [roundUpSum_ns, bmod_of_range (by have := ttl.lower; omega) (by omega)]

/-- Within a second of the largest `int64`, the sum wraps to a negative duration. -/
theorem roundUpSum_ns_of_wraps (wraps : 2 ^ 63 - 1 - 999999999 < ttl.ns) :
    (ttl + second - 1).ns = ttl.ns + 999999999 - 2 ^ 64 := by
  have upper := ttl.upper
  rw [roundUpSum_ns, Int.bmod_def]
  split <;> omega

/-- Go's `/` by `time.Second`: floor division of a non-negative dividend, and
of a negative one the negated floor of its negation. -/
theorem div_second_ns (x : Duration) :
    (x / second).ns = if 0 ≤ x.ns then x.ns / 1000000000 else -((-x.ns) / 1000000000) := by
  have lower := x.lower
  have upper := x.upper
  have truncated : x.ns.tdiv 1000000000 =
      if 0 ≤ x.ns then x.ns / 1000000000 else -((-x.ns) / 1000000000) := by
    split
    · exact Int.tdiv_eq_ediv ‹_› (by decide)
    · rw [← Int.neg_neg x.ns, Int.neg_tdiv, Int.tdiv_eq_ediv (by omega) (by decide), Int.neg_neg]
  rw [Duration.div_ns, second_ns, truncated, bmod_of_range] <;> split <;> omega

/-- The quotient of `ttlToSeconds` above `-1 s`, where the sum does not wrap. -/
theorem quotient_ns_of_above (above : -second.ns < ttl.ns) (fits : ttl.ns ≤ 2 ^ 63 - 1 - 999999999) :
    ((ttl + second - 1) / second).ns = (ttl.ns + 999999999) / 1000000000 := by
  rw [second_ns] at above
  rw [div_second_ns, roundUpSum_ns_of_fits fits, if_pos (by omega)]

/-- The quotient of `ttlToSeconds` where the sum wraps. -/
theorem quotient_ns_of_wraps (wraps : 2 ^ 63 - 1 - 999999999 < ttl.ns) :
    ((ttl + second - 1) / second).ns = -((2 ^ 64 - 999999999 - ttl.ns) / 1000000000) := by
  have upper := ttl.upper
  rw [div_second_ns, roundUpSum_ns_of_wraps wraps, if_neg (by omega)]
  congr 2
  omega

/-- The quotient of `ttlToSeconds` at `-1 s` and below, where the sum is negative. -/
theorem quotient_ns_of_below (below : ttl.ns ≤ -second.ns) :
    ((ttl + second - 1) / second).ns = -((-ttl.ns - 999999999) / 1000000000) := by
  rw [second_ns] at below
  rw [div_second_ns, roundUpSum_ns_of_fits (by omega), if_neg (by omega)]
  congr 2
  omega

/-! ## What `ttlToSeconds` returns -/

/-- **Above `-1 s`, `ttlToSeconds` rounds up.** For every duration above
`-1 s`, including those within a second of the largest `int64` where the sum
wraps, `ttlToSeconds` returns `⌈ttl / 1 s⌉` when an `int32` holds it and an
error otherwise. -/
theorem ttlToSeconds_above_minus_second (ttl : Duration) (above : -second.ns < ttl.ns) :
    ttlToSeconds ttl =
      if -2 ^ 31 ≤ secondsCeil ttl ∧ secondsCeil ttl < 2 ^ 31 then some (secondsCeil ttl) else none := by
  have ceil := secondsCeil_bounds ttl
  unfold ttlToSeconds checkedCast
  by_cases fits : ttl.ns ≤ 2 ^ 63 - 1 - 999999999
  · have rounded : ((ttl + second - 1) / second).ns = secondsCeil ttl := by
      rw [quotient_ns_of_above above fits]
      omega
    rw [rounded]
  · have upper := ttl.upper
    rw [quotient_ns_of_wraps (by omega), if_neg (by omega), if_neg (by omega)]

/-- The largest `time.Duration`. -/
def maxDuration : Duration := ⟨2 ^ 63 - 1, by decide, by decide⟩

/-- At the largest duration the sum wraps, and `ttlToSeconds` reports the error
that `⌈ttl / 1 s⌉`, beyond the `int32` range, calls for. -/
theorem max_duration_ttl_errors :
    (maxDuration + second - 1).ns < 0 ∧ secondsCeil maxDuration = 9223372037 ∧ ttlToSeconds maxDuration = none :=
  have ceil : secondsCeil maxDuration = 9223372037 := secondsCeil_eq_iff.mpr ⟨by decide, by decide⟩
  ⟨by decide, ceil, by rw [ttlToSeconds_above_minus_second maxDuration (by decide), ceil]; decide⟩

example : ttlToSeconds ⟨1, by decide, by decide⟩ = some 1 := by decide

/-- **At `-1 s` and below, `ttlToSeconds` rounds up twice.** It returns
`⌈ttl / 1 s⌉ + 1`, or `⌈ttl / 1 s⌉` when `ttl` is one nanosecond past a whole
second, if an `int32` holds it, and an error otherwise. -/
theorem ttlToSeconds_at_most_minus_second (ttl : Duration) (below : ttl.ns ≤ -second.ns) :
    ttlToSeconds ttl =
      let rounded := secondsCeil ttl + if ttl.ns % 1000000000 = 1 then 0 else 1
      if -2 ^ 31 ≤ rounded ∧ rounded < 2 ^ 31 then some rounded else none := by
  have ceil := secondsCeil_bounds ttl
  have rounded : ((ttl + second - 1) / second).ns =
      secondsCeil ttl + if ttl.ns % 1000000000 = 1 then 0 else 1 := by
    rw [quotient_ns_of_below below]
    rw [second_ns] at below
    split <;> omega
  unfold ttlToSeconds checkedCast
  rw [rounded]

/-- `-1.5 s`. -/
def minusOneAndAHalfSeconds : Duration := ⟨-1500000000, by decide, by decide⟩

/-- `-1.5 s` rounds up to `0`, where `⌈ttl / 1 s⌉` is `-1`. -/
theorem minus_one_and_a_half_seconds_round_to_zero :
    secondsCeil minusOneAndAHalfSeconds = -1 ∧ ttlToSeconds minusOneAndAHalfSeconds = some 0 :=
  have ceil : secondsCeil minusOneAndAHalfSeconds = -1 := secondsCeil_eq_iff.mpr ⟨by decide, by decide⟩
  ⟨ceil, by rw [ttlToSeconds_at_most_minus_second _ (by decide), ceil]; decide⟩

/-! ## The failing inputs -/

/-- `-ttl -1s`. -/
def minusOneSecond : Duration := ⟨-1000000000, by decide, by decide⟩

/-- `-ttl -2147483649s`: one second below the least `int32` count of seconds. -/
def belowInt32Seconds : Duration := ⟨-2147483649000000000, by decide, by decide⟩

/-- `-1 s` rounds up to `0` rather than `-1`, and `-2147483649 s` to the
`int32` `-2^31` rather than to an error. -/
theorem negative_ttl_rounds_up_twice :
    secondsCeil minusOneSecond = -1 ∧ ttlToSeconds minusOneSecond = some 0 ∧
      secondsCeil belowInt32Seconds = -2147483649 ∧ ttlToSeconds belowInt32Seconds = some (-2147483648) :=
  ⟨secondsCeil_eq_iff.mpr ⟨by decide, by decide⟩, by decide,
    secondsCeil_eq_iff.mpr ⟨by decide, by decide⟩, by decide⟩

end Spire.WitMint
