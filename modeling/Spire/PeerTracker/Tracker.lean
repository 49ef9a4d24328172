import Spire.PeerTracker.Kevent

/-! `bsdTracker` and `bsdWatcher`, the kqueue backend of the peer tracker, one
Go function or one critical section per definition. The channels the tracker
makes are named by allocation order and live in the tracker, so that closing
one is visible to every watcher holding it; the kernel's side of `kqfd` is the
list of one-shot registrations still armed.

`NewWatcher` is split where the code releases control: `newWatcherPrecheck` is
what it does before taking the registry lock, `newWatcherLocked` what it does
under it. The dispatch goroutine is split the same way: the blocking wait
(`kqueueWait`), the error path after it (`afterWaitError`), and the batch it
processes under the lock (`receiveBatch`). `System` interleaves these pieces.

`receiveBatch_eq_reaped` is the one fact about the batch loop the rest of the
development uses: while every registered signal is open and no two PIDs share
one (`RegistryOk`), the loop never panics and its result is `reaped`, the
registry without the PIDs the batch reports, their signals closed. -/
namespace Spire.PeerTracker

/-- A `chan struct{}`, named by the order `make` allocated it in. -/
abbrev Chan := Nat

/-- The kernel object `kqfd` names. -/
structure Kqueue where
  /-- `unix.Close(kqfd)` has run. -/
  closed : Bool
  /-- The one-shot `EVFILT_PROC` registrations not yet delivered, by ident. A
  kqueue keys registrations by ident and filter, so `EV_ADD` of an armed ident
  modifies it instead of adding a second one. -/
  armed : List UInt64
  deriving DecidableEq

/-- `bsdTracker`, with the channels it has made and the kqueue it holds. -/
@[ext] structure BsdTracker where
  /-- `ctx.Err() != nil`: `closer` has run. -/
  cancelled : Bool
  /-- `kqfd`. -/
  kq : Kqueue
  /-- `watchedPIDs map[int]chan struct{}`. -/
  watchedPIDs : Int → Option Chan
  /-- Whether `close` has been applied to each channel. -/
  closedChans : Chan → Bool
  /-- The channel the next `make(chan struct{})` allocates. -/
  nextChan : Chan

/-- `newTracker` once `unix.Kqueue()` has succeeded. -/
def newTracker : BsdTracker where
  cancelled := false
  kq := ⟨false, []⟩
  watchedPIDs := fun _ => none
  closedChans := fun _ => false
  nextChan := 0

/-- `bsdWatcher`. -/
structure BsdWatcher where
  /-- `closed bool`, set by `Close`. -/
  closed : Bool
  /-- `done <-chan struct{}`, the exit signal it shares. -/
  done : Chan
  /-- `pid int32`. -/
  pid : Int
  deriving DecidableEq

/-- `newBSDWatcher`. -/
def newBSDWatcher (info : CallerInfo) (done : Chan) : BsdWatcher := ⟨false, done, info.pid⟩

/-- The errors `NewWatcher` returns, one per failure path. -/
inductive NewWatcherError where
  /-- `could not resolve caller information` -/
  | unresolvedCaller
  /-- `tracker has been closed` -/
  | trackerClosed
  /-- `could not create watcher: %w`, wrapping the registration's error -/
  | couldNotCreateWatcher (err : Errno)
  deriving DecidableEq

/-! ## Registration -/

/-- `bsdTracker.addKeventForWatcher`: one `EV_ADD | EV_RECEIPT | EV_ONESHOT`
change for `EVFILT_PROC` with `NOTE_EXIT` on the PID's ident. A closed
descriptor refuses it with `EBADF`. The kernel reads the ident as a `pid_t`, and
no process has a negative PID: it refuses a negative PID's ident with `ESRCH`,
which `kevent(2)` returns for a process that does not exist. Whether it accepts
any other PID is `answer`. -/
def addKeventForWatcher (b : BsdTracker) (pid : Int) (answer : Except Errno Unit) :
    Except Errno BsdTracker :=
  if b.kq.closed then .error EBADF
  else if pid < 0 then .error ESRCH
  else match answer with
    | .error err => .error err
    | .ok () => .ok { b with kq := { b.kq with armed := b.kq.armed.insert (identOf pid) } }

/-- What `NewWatcher` checks before it takes the registry lock. -/
def newWatcherPrecheck (b : BsdTracker) (info : CallerInfo) : Except NewWatcherError Unit :=
  if info.pid = 0 then .error .unresolvedCaller
  else if b.cancelled then .error .trackerClosed
  else .ok ()

/-- What `NewWatcher` does under the registry lock: join the PID's exit signal,
or register with the kernel and make a new one. -/
def newWatcherLocked (b : BsdTracker) (info : CallerInfo) (answer : Except Errno Unit) :
    Except NewWatcherError BsdWatcher × BsdTracker :=
  match b.watchedPIDs info.pid with
  | some done => (.ok (newBSDWatcher info done), b)
  | none =>
    match addKeventForWatcher b info.pid answer with
    | .error err => (.error (.couldNotCreateWatcher err), b)
    | .ok b => (.ok (newBSDWatcher info b.nextChan),
        { b with watchedPIDs := Function.update b.watchedPIDs info.pid (some b.nextChan),
                 nextChan := b.nextChan + 1 })

/-- `bsdTracker.NewWatcher`, run without interruption. -/
def newWatcher (b : BsdTracker) (info : CallerInfo) (answer : Except Errno Unit) :
    Except NewWatcherError BsdWatcher × BsdTracker :=
  match newWatcherPrecheck b info with
  | .error err => (.error err, b)
  | .ok () => newWatcherLocked b info answer

/-! ## The dispatch goroutine -/

/-- Why the dispatch goroutine panics. -/
inductive Panic where
  /-- `unrecoverable error while reading from kqueue: %v` -/
  | unrecoverable (err : Errno)
  /-- the runtime's `close of closed channel` -/
  | closeOfClosedChannel
  deriving DecidableEq

/-- `close(done)`. -/
def closeChan (closedChans : Chan → Bool) (c : Chan) : Except Panic (Chan → Bool) :=
  if closedChans c then .error .closeOfClosedChannel
  else .ok (Function.update closedChans c true)

/-- The loop body once an event reports the exit of `pid`: if the PID has an
entry, close its exit signal and delete the entry. -/
def reap (b : BsdTracker) (pid : Int) : Except Panic BsdTracker :=
  match b.watchedPIDs pid with
  | none => .ok b
  | some done => do
    let closedChans ← closeChan b.closedChans done
    pure { b with closedChans, watchedPIDs := Function.update b.watchedPIDs pid none }

/-- One iteration of `for _, kevent := range receive[:num]`. -/
def receiveKevent (b : BsdTracker) (kevent : Kevent) : Except Panic BsdTracker :=
  if isExitEvent kevent then
    match checkedCast kevent.ident with
    | none => .ok b
    | some pid => reap b pid
  else .ok b

/-- The loop over one batch, run under the registry lock. -/
def receiveBatch (b : BsdTracker) (batch : List Kevent) : Except Panic BsdTracker :=
  batch.foldlM receiveKevent b

/-- Where `receiveKevents` is. -/
inductive Loop where
  /-- about to block in `unix.Kevent(kqfd, nil, receive, nil)` -/
  | waiting
  /-- the wait returned `receive[:num]`; about to take the lock -/
  | received (batch : List Kevent)
  /-- the wait returned an error; about to check the context -/
  | failed (err : Errno)
  /-- returned, the context being cancelled -/
  | returned
  /-- panicked -/
  | panicked (reason : Panic)
  deriving DecidableEq

/-- The blocking wait. The kernel's answer is `result`, except that a wait on a
closed descriptor fails. Delivered registrations are one-shot: they are disarmed. -/
def kqueueWait (kq : Kqueue) (result : Except Errno (List Kevent)) : Loop × Kqueue :=
  match result with
  | .error err => (.failed err, kq)
  | .ok batch =>
    if kq.closed then (.failed EBADF, kq)
    else (.received batch, { kq with armed := kq.armed.filter (fun i => !batch.any (·.ident == i)) })

/-- What `receiveKevents` does with an error from its wait. -/
def afterWaitError (b : BsdTracker) (err : Errno) : Loop :=
  if b.cancelled then .returned
  else if err = EINTR then .waiting
  else .panicked (.unrecoverable err)

/-- `Close`'s first step, under the registry lock: `b.closer()`. -/
def BsdTracker.cancel (b : BsdTracker) : BsdTracker := { b with cancelled := true }

/-- `Close`'s second step, still under the lock: `unix.Close(b.kqfd)`. -/
def BsdTracker.closeKqueue (b : BsdTracker) : BsdTracker := { b with kq := { b.kq with closed := true } }

/-! ## The watcher -/

/-- `bsdWatcher.Close`. -/
def BsdWatcher.close (w : BsdWatcher) : BsdWatcher := { w with closed := true }

/-- `bsdWatcher.IsAlive`. The flag is read under the watcher's lock and the
exit signal after the safety delay: `w` is the watcher at the first read and
`closedChans` the channels at the `select`, which a run may separate. -/
def BsdWatcher.isAlive (w : BsdWatcher) (closedChans : Chan → Bool) : Except String Unit :=
  if w.closed then .error "caller is no longer being watched"
  else if closedChans w.done then .error "caller exit detected via kevent notification"
  else .ok ()

/-! ## The batch loop in closed form -/

/-- Whether `batch` reports the exit of `pid`. -/
def exitsIn (batch : List Kevent) (pid : Int) : Bool :=
  batch.any (fun kevent => exitPid kevent = some pid)

/-- The tracker after the batch loop, when no `close` panics: every PID the
batch reports has lost its entry, and the signal it had is closed. -/
def BsdTracker.reaped (b : BsdTracker) (batch : List Kevent) : BsdTracker :=
  { b with
    watchedPIDs := fun pid => if exitsIn batch pid then none else b.watchedPIDs pid
    closedChans := fun c => b.closedChans c ||
      batch.any (fun kevent => (exitPid kevent).any (fun pid => b.watchedPIDs pid = some c)) }

/-- Every registered signal is open, and no two PIDs share one. -/
structure RegistryOk (b : BsdTracker) : Prop where
  opened : ∀ pid c, b.watchedPIDs pid = some c → b.closedChans c = false
  injective : ∀ p q c, b.watchedPIDs p = some c → b.watchedPIDs q = some c → p = q

variable {b : BsdTracker} {batch : List Kevent} {pid : Int} {c : Chan}

@[simp] theorem exitsIn_nil : exitsIn [] pid = false := rfl

theorem exitsIn_eq_true : exitsIn batch pid = true ↔ ∃ kevent ∈ batch, exitPid kevent = some pid := by
  simp [exitsIn]

@[simp] theorem reaped_watchedPIDs :
    (b.reaped batch).watchedPIDs pid = if exitsIn batch pid then none else b.watchedPIDs pid := rfl

@[simp] theorem reaped_cancelled : (b.reaped batch).cancelled = b.cancelled := rfl
@[simp] theorem reaped_kq : (b.reaped batch).kq = b.kq := rfl
@[simp] theorem reaped_nextChan : (b.reaped batch).nextChan = b.nextChan := rfl

/-- A signal is closed after the batch exactly when it was, or when it was the
entry of a PID the batch reports. -/
theorem reaped_closedChans :
    (b.reaped batch).closedChans c = true ↔
      b.closedChans c = true ∨ ∃ pid, exitsIn batch pid = true ∧ b.watchedPIDs pid = some c := by
  simp only [BsdTracker.reaped, Bool.or_eq_true, List.any_eq_true, exitsIn_eq_true]
  constructor
  · rintro (closed | ⟨kevent, member, reported⟩)
    · exact .inl closed
    · cases exiting : exitPid kevent with
      | none => simp [exiting] at reported
      | some pid =>
        simp only [exiting, Option.any_some, decide_eq_true_eq] at reported
        exact .inr ⟨pid, ⟨kevent, member, exiting⟩, reported⟩
  · rintro (closed | ⟨pid, ⟨kevent, member, exiting⟩, entry⟩)
    · exact .inl closed
    · exact .inr ⟨kevent, member, by simp [exiting, entry]⟩

theorem reaped_nil : b.reaped [] = b := by
  ext <;> simp [BsdTracker.reaped]

theorem reaped_append (first rest : List Kevent) :
    (b.reaped first).reaped rest = b.reaped (first ++ rest) := by
  have exits : ∀ pid, exitsIn (first ++ rest) pid = (exitsIn first pid || exitsIn rest pid) := by
    simp [exitsIn]
  ext pid <;> try rfl
  · simp only [reaped_watchedPIDs, exits]
    split_ifs <;> simp_all
  · apply Bool.eq_iff_iff.mpr
    simp only [reaped_closedChans, reaped_watchedPIDs, exits, Bool.or_eq_true]
    constructor
    · rintro ((closed | ⟨p, first, entry⟩) | ⟨p, rest, entry⟩)
      · exact .inl closed
      · exact .inr ⟨p, .inl first, entry⟩
      · split_ifs at entry
        exact .inr ⟨p, .inr rest, entry⟩
    · rintro (closed | ⟨p, first | rest, entry⟩)
      · exact .inl (.inl closed)
      · exact .inl (.inr ⟨p, first, entry⟩)
      · by_cases inFirst : exitsIn first p = true
        · exact .inl (.inr ⟨p, inFirst, entry⟩)
        · exact .inr ⟨p, rest, by simp [inFirst, entry]⟩

/-- One event, processed on its own, is `reaped` at that event. -/
theorem receiveKevent_eq_reaped (ok : RegistryOk b) (kevent : Kevent) :
    receiveKevent b kevent = .ok (b.reaped [kevent]) := by
  have single : ∀ pid, exitsIn [kevent] pid = decide (exitPid kevent = some pid) := by
    simp [exitsIn]
  have byPid : receiveKevent b kevent =
      match exitPid kevent with
      | none => .ok b
      | some pid => reap b pid := by
    unfold receiveKevent exitPid
    split <;> rfl
  rw [byPid]
  cases exiting : exitPid kevent with
  | none =>
    show Except.ok b = _
    congr 1
    ext q <;> simp [BsdTracker.reaped, single, exiting]
  | some pid =>
    cases entry : b.watchedPIDs pid with
    | none =>
      simp only [reap, entry]
      refine congrArg Except.ok (BsdTracker.ext rfl rfl (funext fun q => ?_) (funext fun c => ?_) rfl)
      · simp only [reaped_watchedPIDs, single, exiting, Option.some.injEq, decide_eq_true_eq]
        split_ifs with same
        · rw [← same, entry]
        · rfl
      · simp [BsdTracker.reaped, exiting, entry]
    | some done =>
      simp only [reap, entry, closeChan, ok.opened pid done entry]
      refine congrArg Except.ok (BsdTracker.ext rfl rfl (funext fun q => ?_) (funext fun c => ?_) rfl)
      · by_cases same : pid = q
        · subst same
          simp [single, exiting]
        · simp [single, exiting, same, Function.update_apply, Ne.symm same]
      · by_cases same : c = done
        · subst same
          simp [BsdTracker.reaped, exiting, entry]
        · simp [BsdTracker.reaped, exiting, entry, same, Function.update_apply, Ne.symm same]

theorem RegistryOk.reaped (ok : RegistryOk b) : RegistryOk (b.reaped batch) where
  opened pid c entry := by
    simp only [reaped_watchedPIDs] at entry
    split_ifs at entry with reported
    apply Bool.eq_false_iff.mpr
    intro closed
    rcases reaped_closedChans.mp closed with closed | ⟨q, reportedQ, entryQ⟩
    · simp [ok.opened pid c entry] at closed
    · exact reported (ok.injective q pid c entryQ entry ▸ reportedQ)
  injective p q c entryP entryQ := by
    simp only [reaped_watchedPIDs] at entryP entryQ
    split_ifs at entryP entryQ
    exact ok.injective p q c entryP entryQ

/-- **The batch loop in closed form.** While every registered signal is open and
none is shared, the loop closes no channel twice and its result is `reaped`. -/
theorem receiveBatch_eq_reaped (ok : RegistryOk b) : receiveBatch b batch = .ok (b.reaped batch) := by
  induction batch generalizing b with
  | nil => rw [reaped_nil]; rfl
  | cons kevent rest ih =>
    show (receiveKevent b kevent >>= fun b' => receiveBatch b' rest) = _
    rw [receiveKevent_eq_reaped ok]
    show receiveBatch (b.reaped [kevent]) rest = _
    rw [ih ok.reaped, reaped_append]
    rfl

/-! ## `NewWatcher` under the lock -/

/-- The tracker after `NewWatcher` has registered `pid` with the kernel and made
its exit signal. -/
def BsdTracker.register (b : BsdTracker) (pid : Int) : BsdTracker :=
  { b with
    kq := { b.kq with armed := b.kq.armed.insert (identOf pid) }
    watchedPIDs := Function.update b.watchedPIDs pid (some b.nextChan)
    nextChan := b.nextChan + 1 }

/-- The three ways the locked part of `NewWatcher` goes: join an existing
signal; fail to register, changing nothing; or register and make a signal. -/
theorem newWatcherLocked_cases (b : BsdTracker) (info : CallerInfo) (answer : Except Errno Unit) :
    (∃ done, b.watchedPIDs info.pid = some done ∧
      newWatcherLocked b info answer = (.ok (newBSDWatcher info done), b)) ∨
    (b.watchedPIDs info.pid = none ∧
      ∃ err, newWatcherLocked b info answer = (.error (.couldNotCreateWatcher err), b)) ∨
    (b.watchedPIDs info.pid = none ∧ b.kq.closed = false ∧ 0 ≤ info.pid ∧ answer = .ok () ∧
      newWatcherLocked b info answer = (.ok (newBSDWatcher info b.nextChan), b.register info.pid)) := by
  unfold newWatcherLocked addKeventForWatcher
  cases entry : b.watchedPIDs info.pid with
  | some done => exact .inl ⟨done, rfl, rfl⟩
  | none =>
    cases closed : b.kq.closed
    · by_cases negative : info.pid < 0
      · exact .inr (.inl ⟨rfl, ESRCH, by simp [negative]⟩)
      · cases answer with
        | error err => exact .inr (.inl ⟨rfl, err, by simp [negative]⟩)
        | ok u => exact .inr (.inr ⟨rfl, rfl, by omega, rfl, by simp [negative]; rfl⟩)
    · exact .inr (.inl ⟨rfl, EBADF, by simp⟩)

/-! ## `NewWatcher`'s failure paths -/

variable {info : CallerInfo} {answer : Except Errno Unit} {err : NewWatcherError}

end Spire.PeerTracker
