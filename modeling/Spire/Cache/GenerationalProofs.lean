import Spire.Cache.Generational

/-! What the generational cache keeps, over every sequence of calls and every
choice of clock readings.

`Stores c w` relates the cache to `w`, the latest write of each key: no key is
in both generations, and every stored entry is its key's latest write. Each
call keeps the relation (`Stores.apply`), so every run from `NewCache` does
(`run_stores_latest_writes`): `Get` answers a hit only with the value of the
key's latest `Set` with no `Delete` after it, and only at a reading by which
that entry had not expired. No property of the clock is needed.

The rotation is where the cache forgets. After it the moved entry's key is
absent from `current`, so `Get` under the write lock reads the zero entry,
which expired in year 1, and takes the branch that drops it instead of the one
that looks in `previous` (`getLocked_absent`). An entry in `previous` is never
returned by a `Get` that reads the clock after year 1, and a live entry is lost
at the first rotation after its `Set` (`live_entry_lost_after_one_rotation`). -/
namespace Spire.Generational

variable {K V : Type} [DecidableEq K]

/-- The cache stores nothing but the latest writes `w`, each key in one generation at most. -/
structure Stores (c : Cache K V) (w : K → Option (ValueWithExpiry V)) : Prop where
  disjoint : ∀ key, c.current key = none ∨ c.previous key = none
  current : ∀ key e, c.current key = some e → w key = some e
  previous : ∀ key e, c.previous key = some e → w key = some e

variable {c : Cache K V} {w : K → Option (ValueWithExpiry V)} {key : K} {r : Readings}
  {e : ValueWithExpiry V}

omit [DecidableEq K] in
theorem stores_newCache (now : Time) : Stores (newCache now : Cache K V) fun _ => none :=
  ⟨fun _ => .inl rfl, fun _ _ none_eq => (nomatch none_eq), fun _ _ none_eq => (nomatch none_eq)⟩

/-! ## Each call keeps `Stores` -/

/-- The frame of every update at one key: a cache that agrees with `c`, and
writes that agree with `w`, away from `key` keep `Stores` if they keep it at `key`. -/
theorem Stores.update (st : Stores c w) (key : K) {c' : Cache K V} {w' : K → Option (ValueWithExpiry V)}
    (off : ∀ k, k ≠ key → c'.current k = c.current k ∧ c'.previous k = c.previous k ∧ w' k = w k)
    (disjoint : c'.current key = none ∨ c'.previous key = none)
    (current : ∀ e, c'.current key = some e → w' key = some e)
    (previous : ∀ e, c'.previous key = some e → w' key = some e) : Stores c' w' := by
  refine ⟨fun k => ?_, fun k e => ?_, fun k e => ?_⟩ <;> by_cases same : k = key
  · subst same; exact disjoint
  · obtain ⟨inCurrent, inPrevious, -⟩ := off k same
    rw [inCurrent, inPrevious]; exact st.disjoint k
  · subst same; exact current e
  · obtain ⟨inCurrent, -, written⟩ := off k same
    rw [inCurrent, written]; exact st.current k e
  · subst same; exact previous e
  · obtain ⟨-, inPrevious, written⟩ := off k same
    rw [inPrevious, written]; exact st.previous k e

theorem Stores.erase_current (st : Stores c w) :
    Stores { c with current := Function.update c.current key none } w :=
  st.update key (fun k other => by simp [other]) (.inl (by simp)) (by simp) (st.previous key)

theorem Stores.erase_previous (st : Stores c w) :
    Stores { c with previous := Function.update c.previous key none } w :=
  st.update key (fun k other => by simp [other]) (.inr (by simp)) (st.current key) (by simp)

theorem Stores.promote (st : Stores c w) (found : c.previous key = some e) :
    Stores { c with
      current := Function.update c.current key (some e)
      previous := Function.update c.previous key none } w :=
  st.update key (fun k other => by simp [other]) (.inr (by simp))
    (fun e' promoted => by simpa [(by simpa using promoted : e = e')] using st.previous key e found) (by simp)

omit [DecidableEq K] in
theorem Stores.collect (st : Stores c w) (now : Time) : Stores (c.collect now).2 w := by
  unfold Cache.collect
  split
  · exact ⟨fun _ => .inl rfl, fun _ _ none_eq => (nomatch none_eq), st.current⟩
  · exact st

/-- What `getLocked` can do: return the entry in `current`, promote the one in
`previous`, or drop the key from one of them and collect. -/
theorem getLocked_cases (c : Cache K V) (key : K) (r : Readings) :
    (∃ e, c.current key = some e ∧ e.isExpired r.locked = false ∧ c.getLocked key r = ((e.value, true), c)) ∨
      (∃ e, c.previous key = some e ∧ e.isExpired r.previous = false ∧
        c.getLocked key r = ((e.value, true), { c with
          current := Function.update c.current key (some e)
          previous := Function.update c.previous key none })) ∨
      c.getLocked key r = { c with current := Function.update c.current key none }.collect r.now ∨
      c.getLocked key r = { c with previous := Function.update c.previous key none }.collect r.now := by
  generalize result : c.getLocked key r = res
  unfold Cache.getLocked at result
  cases current : c.current key <;> cases previous : c.previous key <;>
    simp only [lookup, current, previous, Bool.true_and, Bool.false_and, Bool.false_eq_true, if_false,
      Bool.not_eq_true'] at result <;>
    repeat' split at result
  -- each branch is one of the four outcomes
  all_goals subst result
  all_goals
    first
      | exact .inl ⟨_, rfl, ‹_›, rfl⟩
      | exact .inr (.inl ⟨_, rfl, ‹_›, rfl⟩)
      | exact .inr (.inr (.inl rfl))
      | exact .inr (.inr (.inr rfl))

/-- What `get` can do: return the entry in `current` at once, or go on under the write lock. -/
theorem get_cases (c : Cache K V) (key : K) (r : Readings) :
    (∃ e, c.current key = some e ∧ e.isExpired r.fast = false ∧ c.get key r = ((e.value, true), c)) ∨
      c.get key r = c.getLocked key r := by
  unfold Cache.get
  cases current : c.current key <;> simp only [lookup, current] <;> split_ifs <;> simp_all

theorem Stores.get (st : Stores c w) : Stores (c.get key r).2 w := by
  rcases get_cases c key r with ⟨e, -, -, same⟩ | same
  · rw [same]; exact st
  rw [same]
  rcases getLocked_cases c key r with ⟨e, -, -, same⟩ | ⟨e, found, -, same⟩ | same | same <;> rw [same]
  · exact st
  · exact st.promote found
  · exact st.erase_current.collect r.now
  · exact st.erase_previous.collect r.now

theorem Stores.set (st : Stores c w) (value : Option V) (expiry : Time) :
    Stores (c.set key value expiry) (Function.update w key (some ⟨expiry, value⟩)) :=
  st.update key (fun k other => by simp [Cache.set, other]) (.inr (by simp [Cache.set])) (by simp [Cache.set])
    (by simp [Cache.set])

theorem Stores.delete (st : Stores c w) : Stores (c.delete key) (Function.update w key none) :=
  st.update key (fun k other => by simp [Cache.delete, other]) (.inl (by simp [Cache.delete])) (by simp [Cache.delete])
    (by simp [Cache.delete])

theorem Stores.apply (st : Stores c w) : ∀ op : Op K V, Stores (c.apply op) (recordWrite w op)
  | .set _ value expiry => st.set value expiry
  | .get _ _ => st.get
  | .delete _ => st.delete

theorem Stores.run (st : Stores c w) (ops : List (Op K V)) : Stores (c.run ops) (ops.foldl recordWrite w) := by
  induction ops generalizing c w with
  | nil => exact st
  | cons op ops ih => exact ih (st.apply op)

/-! ## What a hit returns -/

/-- A hit returns a stored entry that had not expired at the reading of its check. -/
theorem Stores.get_hit (st : Stores c w) {value : Option V} (hit : (c.get key r).1 = (value, true)) :
    ∃ e, w key = some e ∧ e.value = value ∧ ∃ t ∈ r.checks, e.isExpired t = false := by
  rcases get_cases c key r with ⟨e, stored, live, same⟩ | same
  · rw [same] at hit
    cases hit
    exact ⟨e, st.current key e stored, rfl, r.fast, by simp [Readings.checks], live⟩
  rw [same] at hit
  rcases getLocked_cases c key r with ⟨e, stored, live, same⟩ | ⟨e, stored, live, same⟩ | same | same <;>
    rw [same] at hit
  · cases hit
    exact ⟨e, st.current key e stored, rfl, r.locked, by simp [Readings.checks], live⟩
  · cases hit
    exact ⟨e, st.previous key e stored, rfl, r.previous, by simp [Readings.checks], live⟩
  · simp [Cache.collect] at hit
  · simp [Cache.collect] at hit

/-- **The cache returns only latest writes.** After any sequence of calls from
`NewCache`, with any clock readings, no key is in both generations and each
stored entry is its key's latest `Set` with no `Delete` after it; so a hit of
`Get` returns that `Set`'s value, at a reading by which it had not expired. -/
theorem run_stores_latest_writes (now : Time) (ops : List (Op K V)) :
    Stores ((newCache now).run ops) (latestWrite ops) ∧
      ∀ key r value, (((newCache now).run ops).get key r).1 = (value, true) →
        ∃ e, latestWrite ops key = some e ∧ e.value = value ∧ ∃ t ∈ r.checks, e.isExpired t = false :=
  have st := (stores_newCache now).run ops
  ⟨st, fun _ _ _ hit => st.get_hit hit⟩

example : (((newCache 0 : Cache Nat Nat).set 1 (some 5) 100).get 1 (.at 50)).1 = (some 5, true) := by decide

/-! ## The rotation forgets -/

/-- Under the write lock, a key absent from `current` misses whenever the
clock reads after year 1, whatever `previous` holds. -/
theorem getLocked_absent (absent : c.current key = none) (positive : 0 < r.expired) :
    c.getLocked key r = { c with current := Function.update c.current key none }.collect r.now := by
  simp [Cache.getLocked, lookup, absent, ValueWithExpiry.isExpired, ValueWithExpiry.zero, positive]

/-- `Set(0, 7)` to expire at 60 s, on a cache created at 1 s; a `Get` of
another key at 11 s misses and rotates. -/
def lostEntryCalls : List (Op Nat Nat) := [.set 0 (some 7) (60 * second), .get 1 (.at (11 * second))]

/-- The entry of the latest `Set` of key 0 is live at 12 s and one rotation has
moved it to `previous`, yet `Get(0)` at 12 s misses. -/
theorem live_entry_lost_after_one_rotation :
    latestWrite lostEntryCalls 0 = some ⟨60 * second, some 7⟩ ∧
      ((newCache second).run lostEntryCalls).lastGC = 11 * second ∧
      ((newCache second).run lostEntryCalls).previous 0 = some ⟨60 * second, some 7⟩ ∧
      (((newCache second).run lostEntryCalls).get 0 (.at (12 * second))).1 = (none, false) := by
  decide

end Spire.Generational
