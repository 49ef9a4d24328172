import Spire.PeerTracker.RegistryProofs

/-! What a watcher's exit signal means, over every run.

A watcher handed out for a positive PID `P` holds the signal its `NewWatcher`
found or made under the registry lock. That signal stays `P`'s entry, open,
until the loop processes an exit event for `P`; the first such event closes it
and deletes the entry, and nothing else ever closes it (`Signalled`). This holds
whether the call made the entry or joined one that earlier watchers share, and
whatever batches the kernel delivers: repeated PIDs, PIDs never watched, other
filters. A watcher joining between the kernel's delivery of the exit and the
loop's processing of it is signalled by that processing, which comes after its
registry step.

So the signal is closed exactly when an exit event for `P` has been processed
since the call's registry step (`exit_signal_closed_iff`), and `IsAlive`
answers `nil` exactly when the watcher was not closed at its first read and no
such event had been processed by its `select`. -/
namespace Spire.PeerTracker

open System

/-- The loop has processed, since the handle's `NewWatcher` took the registry
lock, an `EVFILT_PROC` event with `NOTE_EXIT` set whose ident is the watcher's PID. -/
def ExitSince (s : System) (h : Handle) : Prop :=
  ∃ kevent ∈ s.processed.drop h.seen, isExitEvent kevent = true ∧ kevent.ident = identOf h.watcher.pid

/-- The signal of a handed-out watcher: still its PID's entry with no exit
processed since, or closed with one processed. -/
def Signalled (s : System) (h : Handle) : Prop :=
  (s.tracker.watchedPIDs h.watcher.pid = some h.watcher.done ∧ ¬ExitSince s h) ∨
    (s.tracker.closedChans h.watcher.done = true ∧ ExitSince s h)

/-- What holds of every watcher handed out. -/
structure HandlesWf (s : System) : Prop where
  seen : ∀ (i : Nat) (h : Handle), s.handles[i]? = some h → h.seen ≤ s.processed.length
  range : ∀ (i : Nat) (h : Handle), s.handles[i]? = some h → h.watcher.pid < 2 ^ 31
  signalled : ∀ (i : Nat) (h : Handle), s.handles[i]? = some h → 0 < h.watcher.pid → Signalled s h

variable {s s' : System} {a : Action} {h : Handle} {i : Nat}

private theorem getElem?_append_singleton {l : List Handle} {x y : Handle} (found : (l ++ [x])[i]? = some y) :
    l[i]? = some y ∨ (i = l.length ∧ x = y) := by
  rcases Nat.lt_or_ge i l.length with before | after
  · rw [List.getElem?_append_left before] at found
    exact .inl found
  · rw [List.getElem?_append_right after] at found
    cases offset : i - l.length with
    | zero => rw [offset] at found; cases found; exact .inr ⟨by omega, rfl⟩
    | succ n => rw [offset] at found; cases found

/-- For a PID an ident can carry, an exit event for it is one the loop reads as its exit. -/
theorem exitsIn_iff_exit_event {batch : List Kevent} {pid : Int} (nonneg : 0 ≤ pid) (bound : pid < 2 ^ 63) :
    exitsIn batch pid = true ↔ ∃ kevent ∈ batch, isExitEvent kevent = true ∧ kevent.ident = identOf pid := by
  simp only [exitsIn_eq_true, exitPid_eq_some]
  constructor
  · rintro ⟨kevent, member, exit, -, -, ident⟩
    exact ⟨kevent, member, exit, ident⟩
  · rintro ⟨kevent, member, exit, ident⟩
    exact ⟨kevent, member, exit, nonneg, bound, ident⟩

theorem exitSince_fresh (w : BsdWatcher) : ¬ExitSince s ⟨w, s.processed.length⟩ := by
  simp [ExitSince]

/-- Processing a batch adds to `ExitSince` exactly the exits it reports. -/
theorem exitSince_append (batch : List Kevent) (seen : h.seen ≤ s.processed.length)
    (positive : 0 < h.watcher.pid) (bound : h.watcher.pid < 2 ^ 31) :
    ExitSince { s with processed := s.processed ++ batch } h ↔
      ExitSince s h ∨ exitsIn batch h.watcher.pid = true := by
  rw [exitsIn_iff_exit_event (by omega) (by omega)]
  simp only [ExitSince, List.drop_append_of_le_length seen, List.mem_append]
  constructor
  · rintro ⟨kevent, old | new, exit⟩
    · exact .inl ⟨kevent, old, exit⟩
    · exact .inr ⟨kevent, new, exit⟩
  · rintro (⟨kevent, old, exit⟩ | ⟨kevent, new, exit⟩)
    · exact ⟨kevent, .inl old, exit⟩
    · exact ⟨kevent, .inr new, exit⟩

/-- A handle with its watcher's `closed` flag set to `c`: the only change a run
makes to a handle. -/
def Handle.withClosed (h : Handle) (c : Bool) : Handle :=
  { h with watcher := { h.watcher with closed := c } }

theorem HandlesWf.congr (hwf : HandlesWf s) (handles : s'.handles = s.handles)
    (processed : s'.processed = s.processed) (entries : s'.tracker.watchedPIDs = s.tracker.watchedPIDs)
    (chans : s'.tracker.closedChans = s.tracker.closedChans) : HandlesWf s' where
  seen i h found := processed ▸ hwf.seen i h (handles ▸ found)
  range i h found := hwf.range i h (handles ▸ found)
  signalled i h found positive := by
    have := hwf.signalled i h (handles ▸ found) positive
    simpa only [Signalled, ExitSince, entries, chans, processed] using this

theorem handlesWf_init : HandlesWf System.init where
  seen i h found := by simp [System.init] at found
  range i h found := by simp [System.init] at found
  signalled i h found := by simp [System.init] at found

/-- A locked `NewWatcher` step keeps every watcher's signal, and the watcher it
hands out holds its PID's entry. -/
theorem HandlesWf.newWatcherLocked (hwf : HandlesWf s) {info : CallerInfo} {answer : Except Errno Unit}
    (pending : List CallerInfo) :
    HandlesWf { s with
      tracker := (newWatcherLocked s.tracker info answer).2
      pending := pending
      handles := s.handOut (newWatcherLocked s.tracker info answer).1 } := by
  rcases newWatcherLocked_cases s.tracker info answer with
    ⟨done, entry, same⟩ | ⟨-, _, same⟩ | ⟨vacant, -, -, -, same⟩ <;> rw [same]
  · refine ⟨fun i h found => ?_, fun i h found => ?_, fun i h found positive => ?_⟩ <;>
      rcases getElem?_append_singleton found with old | ⟨-, rfl⟩
    · exact hwf.seen i h old
    · exact Nat.le_refl _
    · exact hwf.range i h old
    · exact info.upper
    · exact hwf.signalled i h old positive
    · exact .inl ⟨entry, exitSince_fresh _⟩
  · exact hwf.congr rfl rfl rfl rfl
  · refine ⟨fun i h found => ?_, fun i h found => ?_, fun i h found positive => ?_⟩ <;>
      rcases getElem?_append_singleton found with old | ⟨-, rfl⟩
    · exact hwf.seen i h old
    · exact Nat.le_refl _
    · exact hwf.range i h old
    · exact info.upper
    · rcases hwf.signalled i h old positive with ⟨entry, none⟩ | closed
      · refine .inl ⟨?_, none⟩
        have other : h.watcher.pid ≠ info.pid := fun same => by simp [same, vacant] at entry
        simpa [BsdTracker.register, Function.update_apply, other] using entry
      · exact .inr closed
    · exact .inl ⟨by simp [BsdTracker.register, newBSDWatcher], exitSince_fresh _⟩

/-- Processing a batch closes the signal of every watcher whose PID it reports,
and no other. -/
theorem HandlesWf.process (hwf : HandlesWf s) (batch : List Kevent) :
    HandlesWf { s with tracker := s.tracker.reaped batch, loop := .waiting,
                       processed := s.processed ++ batch } where
  seen i h found := Nat.le_trans (hwf.seen i h found) (by simp)
  range i h found := hwf.range i h found
  signalled i h found positive := by
    have seen := hwf.seen i h found
    have bound := hwf.range i h found
    have since := exitSince_append batch seen positive bound
    rcases hwf.signalled i h found positive with ⟨entry, none⟩ | ⟨closed, some⟩
    · by_cases reported : exitsIn batch h.watcher.pid = true
      · exact .inr ⟨reaped_closedChans.mpr (.inr ⟨_, reported, entry⟩), since.mpr (.inr reported)⟩
      · refine .inl ⟨by simp [reported, entry], fun after => ?_⟩
        rcases since.mp after with old | new
        · exact none old
        · exact reported new
    · exact .inr ⟨reaped_closedChans.mpr (.inl closed), since.mpr (.inl some)⟩

theorem handlesWf_step (wf : RegistryWf s.tracker) (hwf : HandlesWf s) (stepped : s.step a = some s') :
    HandlesWf s' := by
  cases a with
  | newWatcher info =>
    rcases step_newWatcher stepped with rfl | ⟨-, rfl⟩
    · exact hwf
    · exact hwf.congr rfl rfl rfl rfl
  | newWatcherLocked call answer =>
    obtain ⟨info, -, -, rfl⟩ := step_newWatcherLocked stepped
    exact hwf.newWatcherLocked _
  | closeWatcher j =>
    obtain ⟨-, rfl⟩ := step_closeWatcher stepped
    have reclosed : ∀ (i : Nat) (h : Handle),
        (s.handles.modify (fun h => { h with watcher := h.watcher.close }) j)[i]? = some h →
          ∃ h₀ c, s.handles[i]? = some h₀ ∧ h = h₀.withClosed c := by
      intro i h found
      simp only [List.getElem?_modify, Option.map_eq_map, Option.map_eq_some'] at found
      obtain ⟨h₀, old, rfl⟩ := found
      split_ifs
      · exact ⟨h₀, true, old, rfl⟩
      · exact ⟨h₀, h₀.watcher.closed, old, rfl⟩
    refine ⟨fun i h found => ?_, fun i h found => ?_, fun i h found => ?_⟩ <;>
      obtain ⟨h₀, c, old, rfl⟩ := reclosed i h found
    · exact hwf.seen i h₀ old
    · exact hwf.range i h₀ old
    · exact hwf.signalled i h₀ old
  | cancel => obtain ⟨-, rfl⟩ := step_cancel stepped; exact hwf.congr rfl rfl rfl rfl
  | closeKqueue => obtain ⟨-, rfl⟩ := step_closeKqueue stepped; exact hwf.congr rfl rfl rfl rfl
  | wait result => obtain ⟨-, rfl⟩ := step_wait stepped; exact hwf.congr rfl rfl rfl rfl
  | checkError => obtain ⟨_, -, rfl⟩ := step_checkError stepped; exact hwf.congr rfl rfl rfl rfl
  | process =>
    obtain ⟨batch, -, rfl⟩ := step_process_reaped wf stepped
    exact hwf.process batch

theorem Reachable.handlesWf (reach : Reachable s) : HandlesWf s := by
  induction reach with
  | init => exact handlesWf_init
  | step a prior stepped ih => exact handlesWf_step prior.registryWf ih stepped

/-- A step keeps every handle but for its `closed` flag. -/
theorem step_handle (stepped : s.step a = some s') (found : s.handles[i]? = some h) :
    ∃ c, s'.handles[i]? = some (h.withClosed c) := by
  have kept : s.handles[i]? = some (h.withClosed h.watcher.closed) := found
  have before : i < s.handles.length := (List.getElem?_eq_some_iff.mp found).1
  cases a with
  | newWatcher info => rcases step_newWatcher stepped with rfl | ⟨-, rfl⟩ <;> exact ⟨_, kept⟩
  | newWatcherLocked call answer =>
    obtain ⟨info, -, -, rfl⟩ := step_newWatcherLocked stepped
    refine ⟨h.watcher.closed, ?_⟩
    simp only [System.handOut]
    split
    · rw [List.getElem?_append_left before]; exact kept
    · exact kept
  | closeWatcher j =>
    obtain ⟨-, rfl⟩ := step_closeWatcher stepped
    simp only [List.getElem?_modify, found, Option.map_eq_map, Option.map_some']
    split_ifs
    · exact ⟨true, rfl⟩
    · exact ⟨h.watcher.closed, rfl⟩
  | cancel => obtain ⟨-, rfl⟩ := step_cancel stepped; exact ⟨_, kept⟩
  | closeKqueue => obtain ⟨-, rfl⟩ := step_closeKqueue stepped; exact ⟨_, kept⟩
  | wait result => obtain ⟨-, rfl⟩ := step_wait stepped; exact ⟨_, kept⟩
  | checkError => obtain ⟨_, -, rfl⟩ := step_checkError stepped; exact ⟨_, kept⟩
  | process =>
    obtain ⟨batch, -, -, ⟨_, _, rfl⟩ | ⟨_, _, rfl⟩⟩ := step_process stepped <;> exact ⟨_, kept⟩

theorem follows_handle (later : Follows s s') (found : s.handles[i]? = some h) :
    ∃ c, s'.handles[i]? = some (h.withClosed c) := by
  induction later with
  | refl => exact ⟨h.watcher.closed, found⟩
  | tail _ moved ih =>
    obtain ⟨c, found'⟩ := ih
    obtain ⟨a, stepped⟩ := moved
    obtain ⟨c', found''⟩ := step_handle stepped found'
    exact ⟨c', found''⟩

/-- **A watcher's exit signal, and `IsAlive`.** Take a watcher `NewWatcher`
handed out for a positive PID, as it is in a reachable state `s₁` where
`IsAlive` reads its `closed` flag, and any later state `s₂` where `IsAlive`
runs its `select`. Its exit signal is closed in `s₂` exactly when the loop has
processed an exit event for its PID since the call's registry step; so
`IsAlive` answers `nil` exactly when the flag was clear and no such event had
been processed. -/
theorem exit_signal_closed_iff {s₁ s₂ : System} (reach : Reachable s₁) (later : Follows s₁ s₂)
    (handed : s₁.handles[i]? = some h) (positive : 0 < h.watcher.pid) :
    (s₂.tracker.closedChans h.watcher.done = true ↔ ExitSince s₂ h) ∧
      (h.watcher.isAlive s₂.tracker.closedChans = .ok () ↔
        h.watcher.closed = false ∧ ¬ExitSince s₂ h) := by
  have reach₂ := reach.follows later
  obtain ⟨c, handed₂⟩ := follows_handle later handed
  have closedIff : s₂.tracker.closedChans h.watcher.done = true ↔ ExitSince s₂ h := by
    rcases reach₂.handlesWf.signalled i _ handed₂ positive with ⟨entry, none⟩ | ⟨closed, some⟩
    · have opened : s₂.tracker.closedChans h.watcher.done = false := reach₂.registryWf.opened _ _ entry
      simp only [opened, Bool.false_eq_true, false_iff]
      exact none
    · exact iff_of_true closed some
  refine ⟨closedIff, ?_⟩
  unfold BsdWatcher.isAlive
  cases h.watcher.closed <;> by_cases since : ExitSince s₂ h <;> simp [closedIff, since]

/-- The watcher of `watchingFive` after the kernel delivers PID 5's exit and
the loop processes it: its signal is closed, and `IsAlive` reports the exit. -/
theorem exit_signal_closed_iff_watchingFive :
    ∃ s₂, Follows watchingFive s₂ ∧ ExitSince s₂ ⟨⟨false, 0, 5⟩, 0⟩ ∧
      (s₂.tracker.closedChans 0 = true ↔ ExitSince s₂ ⟨⟨false, 0, 5⟩, 0⟩) ∧
      ((⟨false, 0, 5⟩ : BsdWatcher).isAlive s₂.tracker.closedChans = .ok () ↔
        (⟨false, 0, 5⟩ : BsdWatcher).closed = false ∧ ¬ExitSince s₂ ⟨⟨false, 0, 5⟩, 0⟩) := by
  obtain ⟨s₁, waited⟩ : ∃ s₁, watchingFive.step (.wait (.ok [exitKevent 5])) = some s₁ := ⟨_, rfl⟩
  obtain ⟨s₂, processed⟩ : ∃ s₂, s₁.step .process = some s₂ := by
    cases waited
    exact ⟨_, rfl⟩
  have later : Follows watchingFive s₂ := .tail (.single ⟨_, waited⟩) ⟨_, processed⟩
  have exited : ExitSince s₂ ⟨⟨false, 0, 5⟩, 0⟩ := by
    cases waited
    cases processed
    exact ⟨exitKevent 5, .head _, by decide, rfl⟩
  exact ⟨s₂, later, exited,
    exit_signal_closed_iff (i := 0) watchingFive_kernelReachable.reachable later rfl (by decide)⟩

end Spire.PeerTracker
