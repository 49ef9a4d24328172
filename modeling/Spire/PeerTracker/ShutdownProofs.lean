import Spire.PeerTracker.RegistryProofs

/-! Shutdown of the BSD tracker, over every interleaving of `Close`'s two steps
with the dispatch loop and the `NewWatcher` calls.

`Close` cancels the context and then closes the descriptor, holding the
registry lock throughout; so the context and the descriptor are always as far
along as `Close` is (`LifecycleWf`), and a closed descriptor comes with a
cancelled context. The loop's error check therefore returns on any error a
wait on the closed descriptor produced, retries `EINTR` without touching
anything, and reaches its fatal panic only on another error while the context
is live (`shutdown_sound`).

`NewWatcher` checks the context before taking the lock. A call that passes the
check and then waits for the lock while `Close` runs takes the lock after it.
For a PID without an entry its registration then fails on the closed
descriptor (`newWatcherLocked_after_close_vacant`). For a PID with an entry it
joins the entry and returns a watcher, whose signal the loop, which can no
longer receive anything, never closes: `IsAlive` on it answers `nil` forever
(`close_race_hands_out_unsignalled_watcher`). -/
namespace Spire.PeerTracker

open System

/-- Whether `Close` has cancelled the context, by how far it has got. -/
def CloseState.cancels : CloseState → Bool
  | .idle => false
  | _ => true

/-- Whether `Close` has closed the descriptor, by how far it has got. -/
def CloseState.closesKqueue : CloseState → Bool
  | .finished => true
  | _ => false

/-- The context and the descriptor are exactly as far along as `Close`. -/
structure LifecycleWf (s : System) : Prop where
  cancelled : s.tracker.cancelled = s.closing.cancels
  kqClosed : s.tracker.kq.closed = s.closing.closesKqueue

variable {s s' : System} {a : Action} {b : BsdTracker} {info : CallerInfo} {call : Nat}
  {answer : Except Errno Unit}

theorem newWatcherLocked_lifecycle :
    (newWatcherLocked b info answer).2.cancelled = b.cancelled ∧
      (newWatcherLocked b info answer).2.kq.closed = b.kq.closed := by
  rcases newWatcherLocked_cases b info answer with ⟨_, _, same⟩ | ⟨_, _, same⟩ | ⟨_, _, _, _, same⟩ <;>
    simp [same, BsdTracker.register]

theorem kqueueWait_closed (kq : Kqueue) (result : Except Errno (List Kevent)) :
    (kqueueWait kq result).2.closed = kq.closed := by
  unfold kqueueWait
  split <;> (try split) <;> rfl

theorem LifecycleWf.congr (life : LifecycleWf s) (cancelled : s'.tracker.cancelled = s.tracker.cancelled)
    (closed : s'.tracker.kq.closed = s.tracker.kq.closed) (closing : s'.closing = s.closing) :
    LifecycleWf s' :=
  ⟨by rw [cancelled, closing, life.cancelled], by rw [closed, closing, life.kqClosed]⟩

theorem lifecycleWf_step (wf : RegistryWf s.tracker) (life : LifecycleWf s)
    (stepped : s.step a = some s') : LifecycleWf s' := by
  cases a with
  | newWatcher info =>
    rcases step_newWatcher stepped with rfl | ⟨-, rfl⟩
    · exact life
    · exact life.congr rfl rfl rfl
  | newWatcherLocked call answer =>
    obtain ⟨info, -, -, rfl⟩ := step_newWatcherLocked stepped
    exact life.congr newWatcherLocked_lifecycle.1 newWatcherLocked_lifecycle.2 rfl
  | closeWatcher i => obtain ⟨-, rfl⟩ := step_closeWatcher stepped; exact life.congr rfl rfl rfl
  | cancel =>
    obtain ⟨idle, rfl⟩ := step_cancel stepped
    have open_ := life.kqClosed
    rw [idle] at open_
    exact ⟨rfl, open_⟩
  | closeKqueue =>
    obtain ⟨held, rfl⟩ := step_closeKqueue stepped
    have cancelled := life.cancelled
    rw [held] at cancelled
    exact ⟨cancelled, rfl⟩
  | wait result =>
    obtain ⟨-, rfl⟩ := step_wait stepped
    exact life.congr rfl (kqueueWait_closed _ _) rfl
  | checkError => obtain ⟨_, -, rfl⟩ := step_checkError stepped; exact life.congr rfl rfl rfl
  | process =>
    obtain ⟨batch, -, rfl⟩ := step_process_reaped wf stepped
    exact life.congr rfl rfl rfl

theorem Reachable.lifecycleWf (reach : Reachable s) : LifecycleWf s := by
  induction reach with
  | init => exact ⟨rfl, rfl⟩
  | step a prior stepped ih => exact lifecycleWf_step prior.registryWf ih stepped

/-- `Close` only moves forward. -/
theorem step_closing (stepped : s.step a = some s') :
    (s.closing.cancels = true → s'.closing.cancels = true) ∧
      (s.closing.closesKqueue = true → s'.closing.closesKqueue = true) := by
  cases a with
  | newWatcher info => rcases step_newWatcher stepped with rfl | ⟨-, rfl⟩ <;> exact ⟨id, id⟩
  | newWatcherLocked call answer => obtain ⟨info, -, -, rfl⟩ := step_newWatcherLocked stepped; exact ⟨id, id⟩
  | closeWatcher i => obtain ⟨-, rfl⟩ := step_closeWatcher stepped; exact ⟨id, id⟩
  | cancel => obtain ⟨idle, rfl⟩ := step_cancel stepped; simp [idle, CloseState.cancels, CloseState.closesKqueue]
  | closeKqueue => obtain ⟨-, rfl⟩ := step_closeKqueue stepped; simp [CloseState.cancels, CloseState.closesKqueue]
  | wait result => obtain ⟨-, rfl⟩ := step_wait stepped; exact ⟨id, id⟩
  | checkError => obtain ⟨_, -, rfl⟩ := step_checkError stepped; exact ⟨id, id⟩
  | process =>
    obtain ⟨batch, -, -, ⟨_, _, rfl⟩ | ⟨_, _, rfl⟩⟩ := step_process stepped <;> exact ⟨id, id⟩

/-- What holds of shutdown in every reachable state. -/
structure ShutdownSound (s : System) : Prop where
  /-- A closed descriptor comes with a cancelled context. -/
  closedCancelled : s.tracker.kq.closed = true → s.tracker.cancelled = true
  /-- Once cancelled, the context stays cancelled; once closed, the descriptor stays closed. -/
  stays : ∀ a s', s.step a = some s' →
    (s.tracker.cancelled = true → s'.tracker.cancelled = true) ∧
      (s.tracker.kq.closed = true → s'.tracker.kq.closed = true)
  /-- The loop's fatal panic comes only from its error check, on an error other
  than `EINTR`, while the context is not cancelled. -/
  panicsOnlyOnForeignError : ∀ a s' err, s.step a = some s' →
    s'.loop = .panicked (.unrecoverable err) → s.loop ≠ s'.loop →
      a = .checkError ∧ s.loop = .failed err ∧ err ≠ EINTR ∧ s.tracker.cancelled = false
  /-- An error checked while the descriptor is closed ends the loop normally. -/
  closedErrorReturns : ∀ err, s.loop = .failed err → s.tracker.kq.closed = true →
    s.step .checkError = some { s with loop := .returned }
  /-- An `EINTR` retry changes nothing but where the loop is. -/
  eintrRetries : s.loop = .failed EINTR → s.tracker.cancelled = false →
    s.step .checkError = some { s with loop := .waiting }

theorem step_loop_panics (wf : RegistryWf s.tracker) (stepped : s.step a = some s') {err : Errno}
    (panics : s'.loop = .panicked (.unrecoverable err)) (moved : s.loop ≠ s'.loop) :
    a = .checkError ∧ s.loop = .failed err ∧ err ≠ EINTR ∧ s.tracker.cancelled = false := by
  cases a with
  | checkError =>
    obtain ⟨err', failed, rfl⟩ := step_checkError stepped
    simp only [afterWaitError] at panics
    split_ifs at panics with cancelled eintr
    cases panics
    exact ⟨rfl, failed, eintr, by simpa using cancelled⟩
  | wait result =>
    obtain ⟨-, rfl⟩ := step_wait stepped
    simp only [kqueueWait] at panics
    split at panics
    · cases panics
    · split at panics <;> cases panics
  | process =>
    obtain ⟨batch, -, rfl⟩ := step_process_reaped wf stepped
    cases panics
  | newWatcher info => rcases step_newWatcher stepped with rfl | ⟨-, rfl⟩ <;> exact absurd rfl moved
  | newWatcherLocked call answer =>
    obtain ⟨info, -, -, rfl⟩ := step_newWatcherLocked stepped; exact absurd rfl moved
  | closeWatcher i => obtain ⟨-, rfl⟩ := step_closeWatcher stepped; exact absurd rfl moved
  | cancel => obtain ⟨-, rfl⟩ := step_cancel stepped; exact absurd rfl moved
  | closeKqueue => obtain ⟨-, rfl⟩ := step_closeKqueue stepped; exact absurd rfl moved

/-- **Shutdown over every interleaving.** Every reachable state is
`ShutdownSound`: the loop treats an error caused by `Close` as shutdown, and
panics only on an error it was not told to expect. -/
theorem shutdown_sound (reach : Reachable s) : ShutdownSound s := by
  have wf := reach.registryWf
  have life := reach.lifecycleWf
  have closedCancelled : s.tracker.kq.closed = true → s.tracker.cancelled = true := by
    rw [life.cancelled, life.kqClosed]
    cases s.closing <;> simp [CloseState.cancels, CloseState.closesKqueue]
  refine ⟨closedCancelled, fun a s' stepped => ?_, fun a s' err stepped panics moved =>
    step_loop_panics wf stepped panics moved, fun err failed closed => ?_, fun failed live => ?_⟩
  · have life' := lifecycleWf_step wf life stepped
    rw [life.cancelled, life.kqClosed, life'.cancelled, life'.kqClosed]
    exact step_closing stepped
  · simp [step, failed, afterWaitError, closedCancelled closed]
  · simp [step, failed, afterWaitError, live]

/-- After `Close` has run both its steps, the loop's wait on the closed
descriptor fails with `EBADF`, and its error check will return. -/
theorem shutdown_sound_after_close :
    ∃ s, System.init.run [.cancel, .closeKqueue, .wait (.ok [])] = some s ∧ s.loop = .failed EBADF ∧
      s.tracker.kq.closed = true ∧ ShutdownSound s :=
  ⟨_, rfl, rfl, rfl, shutdown_sound (@run_reachable System.init _ [.cancel, .closeKqueue, .wait (.ok [])] .init rfl)⟩

/-! ## `NewWatcher` against `Close` -/

/-- A locked `NewWatcher` step after `Close` cancelled the context, for a PID
without an entry, hands out nothing: the lock was free, so `Close` had also
closed the descriptor, and the registration fails. -/
theorem newWatcherLocked_after_close_vacant (life : LifecycleWf s) (cancelled : s.tracker.cancelled = true)
    (stepped : s.step (.newWatcherLocked call answer) = some s')
    (vacant : ∀ info, s.pending[call]? = some info → s.tracker.watchedPIDs info.pid = none) :
    s'.handles = s.handles := by
  obtain ⟨info, found, free, rfl⟩ := step_newWatcherLocked stepped
  have closed : s.tracker.kq.closed = true := by
    rw [life.cancelled] at cancelled
    rw [life.kqClosed]
    cases held : s.closing <;> simp_all [CloseState.cancels, CloseState.closesKqueue]
  rcases newWatcherLocked_cases s.tracker info answer with
    ⟨_, entry, _⟩ | ⟨_, _, same⟩ | ⟨_, open_, _, _, _⟩
  · simp [vacant info found] at entry
  · simp [same, System.handOut]
  · simp [closed] at open_

/-- `NewWatcher(5)` passes its check, `Close` runs, and the call's locked step
then hands out nothing. -/
theorem close_first_vacant_gets_nothing :
    ∃ s s', System.init.run [.newWatcher fiveCaller, .cancel, .closeKqueue] = some s ∧
      s.step (.newWatcherLocked 0 (.ok ())) = some s' ∧ s'.handles = s.handles := by
  obtain ⟨s, ran⟩ : ∃ s, System.init.run [.newWatcher fiveCaller, .cancel, .closeKqueue] = some s := ⟨_, rfl⟩
  obtain ⟨s', stepped⟩ : ∃ s', s.step (.newWatcherLocked 0 (.ok ())) = some s' := by
    simp only [run, step, System.init] at ran
    cases ran
    exact ⟨_, rfl⟩
  refine ⟨s, s', ran, stepped, newWatcherLocked_after_close_vacant (run_reachable .init ran).lifecycleWf ?_ stepped ?_⟩
  · simp only [run, step, System.init] at ran
    cases ran
    rfl
  · simp only [run, step, System.init] at ran
    cases ran
    intro info found
    cases found
    rfl

/-- The loop can close no signal any more: the descriptor is closed and the
loop holds no batch. -/
def Quiescent (s : System) : Prop := s.tracker.kq.closed = true ∧ s.inFlight = []

theorem step_quiescent (wf : RegistryWf s.tracker) (quiet : Quiescent s) (stepped : s.step a = some s') :
    Quiescent s' ∧ s'.tracker.closedChans = s.tracker.closedChans := by
  obtain ⟨closed, idle⟩ := quiet
  cases a with
  | newWatcher info => rcases step_newWatcher stepped with rfl | ⟨-, rfl⟩ <;> exact ⟨⟨closed, idle⟩, rfl⟩
  | newWatcherLocked call answer =>
    obtain ⟨info, -, -, rfl⟩ := step_newWatcherLocked stepped
    refine ⟨⟨newWatcherLocked_lifecycle.2.trans closed, idle⟩, ?_⟩
    rcases newWatcherLocked_cases s.tracker info answer with
      ⟨_, _, same⟩ | ⟨_, _, same⟩ | ⟨_, _, _, _, same⟩ <;> simp [same, BsdTracker.register]
  | closeWatcher i => obtain ⟨-, rfl⟩ := step_closeWatcher stepped; exact ⟨⟨closed, idle⟩, rfl⟩
  | cancel => obtain ⟨-, rfl⟩ := step_cancel stepped; exact ⟨⟨closed, idle⟩, rfl⟩
  | closeKqueue => obtain ⟨-, rfl⟩ := step_closeKqueue stepped; exact ⟨⟨rfl, idle⟩, rfl⟩
  | wait result =>
    obtain ⟨-, rfl⟩ := step_wait stepped
    refine ⟨⟨(kqueueWait_closed _ _).trans closed, ?_⟩, rfl⟩
    cases result <;> simp [System.inFlight, kqueueWait, closed]
  | checkError =>
    obtain ⟨err, failed, rfl⟩ := step_checkError stepped
    exact ⟨⟨closed, inFlight_of_not_received (afterWaitError_ne_received err)⟩, rfl⟩
  | process =>
    obtain ⟨batch, held, rfl⟩ := step_process_reaped wf stepped
    have empty : batch = [] := by simpa [System.inFlight, held] using idle
    subst empty
    rw [reaped_nil]
    exact ⟨⟨closed, rfl⟩, rfl⟩

/-- From a quiescent state no schedule closes another signal. -/
theorem follows_quiescent (reach : Reachable s) (quiet : Quiescent s) (later : Follows s s') :
    Quiescent s' ∧ s'.tracker.closedChans = s.tracker.closedChans := by
  induction later with
  | refl => exact ⟨quiet, rfl⟩
  | tail before moved ih =>
    obtain ⟨a, stepped⟩ := moved
    have next := step_quiescent (reach.follows before).registryWf ih.1 stepped
    exact ⟨next.1, next.2.trans ih.2⟩

/-- `NewWatcher(5)` runs to completion; a second `NewWatcher(5)` passes its
unlocked check; then `Close` runs both its steps. -/
def closeRace : List Action :=
  [.newWatcher fiveCaller, .newWatcherLocked 0 (.ok ()), .newWatcher fiveCaller, .cancel, .closeKqueue]

/-- **`Close` does not stop a `NewWatcher` already past its check.** After the
schedule `closeRace`, `Close` has returned; the second call's locked step then
joins PID 5's entry and hands out a second watcher on signal 0, and on every
continuation of the run `IsAlive` on it keeps answering `nil`. -/
theorem close_race_hands_out_unsignalled_watcher :
    ∃ s s', System.init.run closeRace = some s ∧ s.tracker.cancelled = true ∧
      s.step (.newWatcherLocked 0 (.ok ())) = some s' ∧
      s'.handles = [⟨⟨false, 0, 5⟩, 0⟩, ⟨⟨false, 0, 5⟩, 0⟩] ∧
      ∀ s'', Follows s' s'' → (⟨false, 0, 5⟩ : BsdWatcher).isAlive s''.tracker.closedChans = .ok () := by
  let s : System := ⟨((newTracker.register 5).cancel).closeKqueue, .waiting, .finished, [fiveCaller],
    [⟨⟨false, 0, 5⟩, 0⟩], []⟩
  let s' : System := { s with pending := [], handles := [⟨⟨false, 0, 5⟩, 0⟩, ⟨⟨false, 0, 5⟩, 0⟩] }
  have ran : System.init.run closeRace = some s := rfl
  have joined : s.step (.newWatcherLocked 0 (.ok ())) = some s' := rfl
  have reach : Reachable s' := .step _ (run_reachable .init ran) joined
  refine ⟨s, s', ran, rfl, joined, rfl, fun s'' later => ?_⟩
  have frozen := (follows_quiescent reach ⟨rfl, rfl⟩ later).2
  simp [BsdWatcher.isAlive, frozen, s', s, BsdTracker.closeKqueue, BsdTracker.cancel, BsdTracker.register,
    newTracker]

end Spire.PeerTracker
