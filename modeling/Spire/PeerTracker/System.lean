import Spire.PeerTracker.Tracker
import Mathlib.Logic.Relation

/-! The peer tracker as its goroutines run it. A `System` is one tracker with
its dispatch goroutine, its `Close` call, the `NewWatcher` calls that have
passed their unlocked checks and wait for the registry lock, and every watcher
handed out. An `Action` is one atomic step of one of them: a critical section,
or a read or wait outside the lock. `System.step` says what the step does, and
is `none` when the step is not enabled: its goroutine is elsewhere, or it needs
the registry lock while `Close` holds it.

The kernel is a party too. Its answers, to a registration and to a wait, are
arguments of the actions, so a run chooses them freely; `KernelReachable`
restricts the waits to what a kqueue can deliver: the exit of an armed
registration, each at most once.

Two pieces of history ride along, read by no step: the kevents the loop has
processed, in order, and for each watcher how many of them had been processed
when its `NewWatcher` took the registry lock. -/
namespace Spire.PeerTracker

/-- A watcher `NewWatcher` handed out. -/
structure Handle where
  /-- The watcher. -/
  watcher : BsdWatcher
  /-- How many kevents the loop had processed when the call's locked step ran. -/
  seen : Nat

/-- How far `Tracker.Close` has got. It holds the registry lock from its first
step to its second. -/
inductive CloseState where
  /-- not called -/
  | idle
  /-- the context is cancelled and the lock held -/
  | cancelled
  /-- the descriptor is closed and the lock released -/
  | finished
  deriving DecidableEq

/-- One tracker and every goroutine that uses it. -/
structure System where
  /-- The tracker, its channels and its kqueue. -/
  tracker : BsdTracker
  /-- The dispatch goroutine. -/
  loop : Loop
  /-- The `Close` call. -/
  closing : CloseState
  /-- `NewWatcher` calls past their unlocked checks, waiting for the lock. -/
  pending : List CallerInfo
  /-- Every watcher handed out, in order. -/
  handles : List Handle
  /-- Every kevent the loop has processed, in order. -/
  processed : List Kevent

/-- One atomic step of one goroutine, with the kernel's answer where it gives one. -/
inductive Action where
  /-- a `NewWatcher` call makes its checks before the lock -/
  | newWatcher (info : CallerInfo)
  /-- the `call`-th waiting `NewWatcher` runs under the lock -/
  | newWatcherLocked (call : Nat) (answer : Except Errno Unit)
  /-- `Close` on the `handle`-th watcher -/
  | closeWatcher (handle : Nat)
  /-- `Tracker.Close` takes the lock and cancels the context -/
  | cancel
  /-- `Tracker.Close` closes the descriptor and releases the lock -/
  | closeKqueue
  /-- the loop's wait returns -/
  | wait (result : Except Errno (List Kevent))
  /-- the loop handles the error its wait returned -/
  | checkError
  /-- the loop processes its batch under the lock -/
  | process

namespace System

/-- A fresh tracker: `newTracker` has returned and its goroutine is about to wait. -/
def init : System := ⟨newTracker, .waiting, .idle, [], [], []⟩

/-- The watchers after a locked `NewWatcher` step: one more if it succeeded. -/
def handOut (s : System) : Except NewWatcherError BsdWatcher → List Handle
  | .ok watcher => s.handles ++ [⟨watcher, s.processed.length⟩]
  | .error _ => s.handles

/-- What one action does. -/
def step (s : System) : Action → Option System
  | .newWatcher info =>
    match newWatcherPrecheck s.tracker info with
    | .error _ => some s
    | .ok () => some { s with pending := s.pending ++ [info] }
  | .newWatcherLocked call answer =>
    match s.pending[call]? with
    | none => none
    | some info =>
      if s.closing = .cancelled then none
      else
        some { s with
          tracker := (newWatcherLocked s.tracker info answer).2
          pending := s.pending.eraseIdx call
          handles := s.handOut (newWatcherLocked s.tracker info answer).1 }
  | .closeWatcher i =>
    if i < s.handles.length then
      some { s with handles := s.handles.modify (fun h => { h with watcher := h.watcher.close }) i }
    else none
  | .cancel =>
    if s.closing = .idle then some { s with tracker := s.tracker.cancel, closing := .cancelled }
    else none
  | .closeKqueue =>
    if s.closing = .cancelled then
      some { s with tracker := s.tracker.closeKqueue, closing := .finished }
    else none
  | .wait result =>
    if s.loop = .waiting then
      some { s with
        loop := (kqueueWait s.tracker.kq result).1
        tracker := { s.tracker with kq := (kqueueWait s.tracker.kq result).2 } }
    else none
  | .checkError =>
    match s.loop with
    | .failed err => some { s with loop := afterWaitError s.tracker err }
    | _ => none
  | .process =>
    match s.loop with
    | .received batch =>
      if s.closing = .cancelled then none
      else
        match receiveBatch s.tracker batch with
        | .ok tracker => some { s with tracker, loop := .waiting, processed := s.processed ++ batch }
        | .error reason => some { s with loop := .panicked reason }
    | _ => none

/-- A schedule, run from `s`. -/
def run (s : System) : List Action → Option System
  | [] => some s
  | a :: rest => (s.step a).bind (run · rest)

/-- One step of any goroutine leads from `s` to `s'`. -/
def Moves (s s' : System) : Prop := ∃ a, s.step a = some s'

/-- What a kqueue can answer a wait with: errors, or exits of armed
registrations, none delivered twice. -/
def Delivers (kq : Kqueue) : Except Errno (List Kevent) → Prop
  | .error _ => True
  | .ok batch =>
    (∀ kevent ∈ batch, isExitEvent kevent = true ∧ kevent.ident ∈ kq.armed) ∧
      (batch.map Kevent.ident).Nodup

/-- An action whose kernel answer a kqueue can give. -/
def Faithful (s : System) : Action → Prop
  | .wait result => Delivers s.tracker.kq result
  | _ => True

end System

open System

/-- Every state some schedule reaches, the kernel answering anything. -/
inductive Reachable : System → Prop
  | init : Reachable System.init
  | step {s s' : System} (a : Action) : Reachable s → s.step a = some s' → Reachable s'

/-- Every state some schedule reaches, the kernel answering as a kqueue does. -/
inductive KernelReachable : System → Prop
  | init : KernelReachable System.init
  | step {s s' : System} (a : Action) :
      KernelReachable s → s.Faithful a → s.step a = some s' → KernelReachable s'

/-- `s'` comes after `s` in some schedule. -/
abbrev Follows : System → System → Prop := Relation.ReflTransGen Moves

variable {s s' : System} {a : Action}

theorem KernelReachable.reachable (reach : KernelReachable s) : Reachable s := by
  induction reach with
  | init => exact .init
  | step a _ _ stepped ih => exact .step a ih stepped

theorem Reachable.follows (reach : Reachable s) (later : Follows s s') : Reachable s' := by
  induction later with
  | refl => exact reach
  | tail _ moved ih => obtain ⟨a, stepped⟩ := moved; exact .step a ih stepped

theorem run_reachable {acts : List Action} (reach : Reachable s) (ran : s.run acts = some s') :
    Reachable s' := by
  induction acts generalizing s with
  | nil => cases ran; exact reach
  | cons a rest ih =>
    simp only [run] at ran
    cases stepped : s.step a with
    | none => simp [stepped] at ran
    | some s₁ =>
      rw [stepped, Option.some_bind] at ran
      exact ih (.step a reach stepped) ran

/-! ## What each action does -/

variable {info : CallerInfo} {call i : Nat} {answer : Except Errno Unit}
  {result : Except Errno (List Kevent)}

theorem step_newWatcher (stepped : s.step (.newWatcher info) = some s') :
    s' = s ∨ newWatcherPrecheck s.tracker info = .ok () ∧ s' = { s with pending := s.pending ++ [info] } := by
  simp only [step] at stepped
  split at stepped <;> cases stepped
  · exact .inl rfl
  · exact .inr ⟨‹_›, rfl⟩

theorem step_newWatcherLocked (stepped : s.step (.newWatcherLocked call answer) = some s') :
    ∃ info, s.pending[call]? = some info ∧ s.closing ≠ .cancelled ∧
      s' = { s with
        tracker := (newWatcherLocked s.tracker info answer).2
        pending := s.pending.eraseIdx call
        handles := s.handOut (newWatcherLocked s.tracker info answer).1 } := by
  simp only [step] at stepped
  split at stepped
  · cases stepped
  · split at stepped
    · cases stepped
    · cases stepped
      exact ⟨_, ‹_›, ‹_›, rfl⟩

theorem step_closeWatcher (stepped : s.step (.closeWatcher i) = some s') :
    i < s.handles.length ∧
      s' = { s with handles := s.handles.modify (fun h => { h with watcher := h.watcher.close }) i } := by
  simp only [step] at stepped
  split at stepped <;> cases stepped
  exact ⟨‹_›, rfl⟩

theorem step_cancel (stepped : s.step .cancel = some s') :
    s.closing = .idle ∧ s' = { s with tracker := s.tracker.cancel, closing := .cancelled } := by
  simp only [step] at stepped
  split at stepped <;> cases stepped
  exact ⟨‹_›, rfl⟩

theorem step_closeKqueue (stepped : s.step .closeKqueue = some s') :
    s.closing = .cancelled ∧ s' = { s with tracker := s.tracker.closeKqueue, closing := .finished } := by
  simp only [step] at stepped
  split at stepped <;> cases stepped
  exact ⟨‹_›, rfl⟩

theorem step_wait (stepped : s.step (.wait result) = some s') :
    s.loop = .waiting ∧ s' = { s with
      loop := (kqueueWait s.tracker.kq result).1
      tracker := { s.tracker with kq := (kqueueWait s.tracker.kq result).2 } } := by
  simp only [step] at stepped
  split at stepped <;> cases stepped
  exact ⟨‹_›, rfl⟩

theorem step_checkError (stepped : s.step .checkError = some s') :
    ∃ err, s.loop = .failed err ∧ s' = { s with loop := afterWaitError s.tracker err } := by
  simp only [step] at stepped
  split at stepped <;> cases stepped
  exact ⟨_, ‹_›, rfl⟩

theorem step_process (stepped : s.step .process = some s') :
    ∃ batch, s.loop = .received batch ∧ s.closing ≠ .cancelled ∧
      ((∃ tracker, receiveBatch s.tracker batch = .ok tracker ∧
          s' = { s with tracker, loop := .waiting, processed := s.processed ++ batch }) ∨
        ∃ reason, receiveBatch s.tracker batch = .error reason ∧
          s' = { s with loop := .panicked reason }) := by
  simp only [step] at stepped
  split at stepped
  · split at stepped
    · cases stepped
    · split at stepped <;> cases stepped
      · exact ⟨_, ‹_›, ‹_›, .inl ⟨_, ‹_›, rfl⟩⟩
      · exact ⟨_, ‹_›, ‹_›, .inr ⟨_, ‹_›, rfl⟩⟩
  · cases stepped

end Spire.PeerTracker
