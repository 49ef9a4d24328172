import Spire.PeerTracker.System
import Mathlib.Data.List.Nodup

/-! The registry of the BSD tracker over whole runs.

Whatever the kernel answers, every exit signal in `watchedPIDs` is open and no
two PIDs share one (`RegistryWf`, `Reachable.registryWf`), so the batch loop is
`reaped` and never closes a closed channel. With the kernel answering as a
kqueue does (`KernelReachable`), the registrations are accounted for
(`KernelWf`): the outstanding ones, armed in the kernel or delivered to the
loop and not yet processed, are distinct, each belongs to a PID with an entry,
and every PID with an entry has one. So an `int32` PID has an entry exactly when
one registration for it is outstanding (`registry_sound`).

A negative PID passes `NewWatcher`'s `info.PID == 0` guard, but the kernel
refuses its ident, so it never gets an entry; `NewWatcher` fails for it as for
a zero PID, and every failure leaves the tracker as it was
(`newWatcher_fails_atomically`). -/
namespace Spire.PeerTracker

open System

/-- `RegistryOk`, with the bookkeeping that keeps it: a channel not made yet is
open, every registered channel has been made, and every key is a non-negative
`int32`. -/
structure RegistryWf (b : BsdTracker) extends RegistryOk b : Prop where
  fresh : ∀ c, b.nextChan ≤ c → b.closedChans c = false
  made : ∀ pid c, b.watchedPIDs pid = some c → c < b.nextChan
  keyRange : ∀ pid c, b.watchedPIDs pid = some c → 0 ≤ pid ∧ pid < 2 ^ 31

variable {b b' : BsdTracker} {s s' : System} {a : Action}

theorem RegistryWf.congr (wf : RegistryWf b) (entries : b'.watchedPIDs = b.watchedPIDs)
    (chans : b'.closedChans = b.closedChans) (next : b'.nextChan = b.nextChan) : RegistryWf b' where
  opened := by rw [entries, chans]; exact wf.opened
  injective := by rw [entries]; exact wf.injective
  fresh := by rw [chans, next]; exact wf.fresh
  made := by rw [entries, next]; exact wf.made
  keyRange := by rw [entries]; exact wf.keyRange

theorem registryWf_newTracker : RegistryWf newTracker where
  opened := by simp [newTracker]
  injective := by simp [newTracker]
  fresh := by simp [newTracker]
  made := by simp [newTracker]
  keyRange := by simp [newTracker]

theorem RegistryWf.register (wf : RegistryWf b) (info : CallerInfo) (nonneg : 0 ≤ info.pid) :
    RegistryWf (b.register info.pid) where
  opened pid c entry := by
    simp only [BsdTracker.register, Function.update_apply] at entry ⊢
    split_ifs at entry
    · cases entry
      exact wf.fresh _ (Nat.le_refl _)
    · exact wf.opened pid c entry
  injective p q c entryP entryQ := by
    simp only [BsdTracker.register, Function.update_apply] at entryP entryQ
    split_ifs at entryP entryQ with sameP sameQ
    · rw [sameP, sameQ]
    · cases entryP
      exact absurd (wf.made q _ entryQ) (Nat.lt_irrefl _)
    · cases entryQ
      exact absurd (wf.made p _ entryP) (Nat.lt_irrefl _)
    · exact wf.injective p q c entryP entryQ
  fresh c later := wf.fresh c (Nat.le_of_succ_le later)
  made pid c entry := by
    simp only [BsdTracker.register, Function.update_apply] at entry ⊢
    split_ifs at entry
    · cases entry
      exact Nat.lt_succ_self _
    · exact Nat.lt_succ_of_lt (wf.made pid c entry)
  keyRange pid c entry := by
    simp only [BsdTracker.register, Function.update_apply] at entry
    split_ifs at entry with same
    · rw [same]
      exact ⟨nonneg, info.upper⟩
    · exact wf.keyRange pid c entry

theorem RegistryWf.reaped (wf : RegistryWf b) (batch : List Kevent) :
    RegistryWf (b.reaped batch) where
  toRegistryOk := wf.toRegistryOk.reaped
  fresh c later := by
    apply Bool.eq_false_iff.mpr
    intro closed
    rcases reaped_closedChans.mp closed with closed | ⟨pid, -, entry⟩
    · simp [wf.fresh c later] at closed
    · exact absurd (wf.made pid c entry) (Nat.not_lt.mpr later)
  made pid c entry := by
    simp only [reaped_watchedPIDs] at entry
    split_ifs at entry
    exact wf.made pid c entry
  keyRange pid c entry := by
    simp only [reaped_watchedPIDs] at entry
    split_ifs at entry
    exact wf.keyRange pid c entry

/-- A batch the loop processes from a well-formed registry is `reaped`. -/
theorem step_process_reaped (wf : RegistryWf s.tracker) (stepped : s.step .process = some s') :
    ∃ batch, s.loop = .received batch ∧
      s' = { s with tracker := s.tracker.reaped batch, loop := .waiting,
                    processed := s.processed ++ batch } := by
  obtain ⟨batch, held, -, ⟨tracker, ran, rfl⟩ | ⟨reason, ran, -⟩⟩ := step_process stepped
  · rw [receiveBatch_eq_reaped wf.toRegistryOk] at ran
    cases ran
    exact ⟨batch, held, rfl⟩
  · rw [receiveBatch_eq_reaped wf.toRegistryOk] at ran
    cases ran

/-- One step keeps `RegistryWf`, whatever the kernel answers. -/
theorem registryWf_step (wf : RegistryWf s.tracker) (stepped : s.step a = some s') :
    RegistryWf s'.tracker := by
  cases a with
  | newWatcher info => rcases step_newWatcher stepped with rfl | ⟨-, rfl⟩ <;> exact wf
  | newWatcherLocked call answer =>
    obtain ⟨info, -, -, rfl⟩ := step_newWatcherLocked stepped
    rcases newWatcherLocked_cases s.tracker info answer with
      ⟨_, _, same⟩ | ⟨_, _, same⟩ | ⟨-, -, nonneg, -, same⟩ <;> simp only [same]
    · exact wf
    · exact wf
    · exact wf.register info nonneg
  | closeWatcher i => obtain ⟨-, rfl⟩ := step_closeWatcher stepped; exact wf
  | cancel => obtain ⟨-, rfl⟩ := step_cancel stepped; exact wf.congr rfl rfl rfl
  | closeKqueue => obtain ⟨-, rfl⟩ := step_closeKqueue stepped; exact wf.congr rfl rfl rfl
  | wait result => obtain ⟨-, rfl⟩ := step_wait stepped; exact wf.congr rfl rfl rfl
  | checkError => obtain ⟨_, -, rfl⟩ := step_checkError stepped; exact wf
  | process =>
    obtain ⟨batch, -, rfl⟩ := step_process_reaped wf stepped
    exact wf.reaped batch

theorem Reachable.registryWf (reach : Reachable s) : RegistryWf s.tracker := by
  induction reach with
  | init => exact registryWf_newTracker
  | step a _ stepped ih => exact registryWf_step ih stepped

/-! ## Registrations, with a faithful kernel -/

/-- The batch the loop holds and has not processed yet. -/
def System.inFlight (s : System) : List Kevent :=
  match s.loop with
  | .received batch => batch
  | _ => []

/-- The registrations `addKeventForWatcher` made whose exit event the loop has
not processed: still armed in the kernel, or delivered and held by the loop. -/
def System.outstanding (s : System) : List UInt64 :=
  s.tracker.kq.armed ++ s.inFlight.map Kevent.ident

/-- The accounting a faithful kernel keeps. -/
structure KernelWf (s : System) : Prop where
  nodup : s.outstanding.Nodup
  inFlightExits : ∀ kevent ∈ s.inFlight, isExitEvent kevent = true
  entryOfOutstanding : ∀ i ∈ s.outstanding, ∃ pid, i = identOf pid ∧ s.tracker.watchedPIDs pid ≠ none
  outstandingOfEntry : ∀ pid, 0 ≤ pid → s.tracker.watchedPIDs pid ≠ none → identOf pid ∈ s.outstanding

variable {info : CallerInfo}

theorem inFlight_of_not_received (idle : ∀ batch, s.loop ≠ .received batch) : s.inFlight = [] := by
  unfold System.inFlight
  split
  · rename_i batch held
    exact absurd held (idle batch)
  · rfl

theorem afterWaitError_ne_received (err : Errno) (batch : List Kevent) :
    afterWaitError b err ≠ .received batch := by
  unfold afterWaitError
  split_ifs <;> simp

theorem KernelWf.congr (kwf : KernelWf s) (armed : s'.tracker.kq.armed = s.tracker.kq.armed)
    (inFlight : s'.inFlight = s.inFlight) (entries : s'.tracker.watchedPIDs = s.tracker.watchedPIDs) :
    KernelWf s' := by
  have same : s'.outstanding = s.outstanding := by simp only [System.outstanding, armed, inFlight]
  exact ⟨same ▸ kwf.nodup, inFlight ▸ kwf.inFlightExits, same ▸ entries ▸ kwf.entryOfOutstanding,
    same ▸ entries ▸ kwf.outstandingOfEntry⟩

/-- The ident a `NewWatcher` registers for a PID without an entry is not outstanding. -/
theorem KernelWf.vacant_not_outstanding (wf : RegistryWf s.tracker) (kwf : KernelWf s)
    (vacant : s.tracker.watchedPIDs info.pid = none) : identOf info.pid ∉ s.outstanding := by
  intro member
  obtain ⟨pid, same, entry⟩ := kwf.entryOfOutstanding _ member
  obtain ⟨c, entry⟩ := Option.ne_none_iff_exists'.mp entry
  have range := wf.keyRange pid c entry
  have := identOf_injective (by have := info.lower; omega) (by have := info.upper; omega)
    (by omega) (by omega) same
  simp [this, entry] at vacant

theorem KernelWf.register (wf : RegistryWf s.tracker) (kwf : KernelWf s)
    (vacant : s.tracker.watchedPIDs info.pid = none)
    (tracker : s'.tracker = s.tracker.register info.pid) (loop : s'.loop = s.loop) : KernelWf s' := by
  have fresh := kwf.vacant_not_outstanding wf vacant
  have inFlight : s'.inFlight = s.inFlight := by simp only [System.inFlight, loop]
  have outstanding : s'.outstanding = identOf info.pid :: s.outstanding := by
    have armed : identOf info.pid ∉ s.tracker.kq.armed := fun member =>
      fresh (List.mem_append_left _ member)
    simp [System.outstanding, tracker, inFlight, BsdTracker.register, List.insert_of_not_mem armed]
  have entries : ∀ pid, s'.tracker.watchedPIDs pid =
      if pid = info.pid then some s.tracker.nextChan else s.tracker.watchedPIDs pid := by
    simp [tracker, BsdTracker.register, Function.update_apply]
  refine ⟨outstanding ▸ List.nodup_cons.mpr ⟨fresh, kwf.nodup⟩, inFlight ▸ kwf.inFlightExits, ?_, ?_⟩
  · intro i member
    rw [outstanding, List.mem_cons] at member
    rcases member with rfl | member
    · exact ⟨info.pid, rfl, by simp [entries]⟩
    · obtain ⟨pid, same, entry⟩ := kwf.entryOfOutstanding i member
      exact ⟨pid, same, by rw [entries]; split_ifs <;> simp [entry]⟩
  · intro pid nonneg entry
    rw [outstanding, List.mem_cons]
    rw [entries] at entry
    split_ifs at entry with same
    · exact .inl (congrArg identOf same)
    · exact .inr (kwf.outstandingOfEntry pid nonneg entry)

theorem KernelWf.wait (kwf : KernelWf s) (waiting : s.loop = .waiting)
    {result : Except Errno (List Kevent)} (delivers : Delivers s.tracker.kq result) :
    KernelWf { s with
      loop := (kqueueWait s.tracker.kq result).1
      tracker := { s.tracker with kq := (kqueueWait s.tracker.kq result).2 } } := by
  have idle : s.inFlight = [] := by simp [System.inFlight, waiting]
  cases result with
  | error err => exact kwf.congr rfl (by simp [System.inFlight, kqueueWait, waiting]) rfl
  | ok batch =>
    by_cases closed : s.tracker.kq.closed = true
    · exact kwf.congr (by simp [kqueueWait, closed]) (by simp [System.inFlight, kqueueWait, closed, waiting]) rfl
    · obtain ⟨delivered, distinct⟩ := delivers
      have armedNodup : s.tracker.kq.armed.Nodup := by
        simpa [System.outstanding, idle] using kwf.nodup
      have kept : ∀ i, i ∈ s.tracker.kq.armed.filter (fun i => !batch.any (·.ident == i)) ↔
          i ∈ s.tracker.kq.armed ∧ i ∉ batch.map Kevent.ident := by
        simp [List.mem_filter]
      have fromArmed : ∀ i ∈ batch.map Kevent.ident, i ∈ s.tracker.kq.armed := by
        simp only [List.mem_map]
        rintro _ ⟨kevent, held, rfl⟩
        exact (delivered kevent held).2
      have member : ∀ i, i ∈ s.tracker.kq.armed.filter (fun i => !batch.any (·.ident == i)) ++
          batch.map Kevent.ident ↔ i ∈ s.outstanding := by
        intro i
        simp only [List.mem_append, kept, System.outstanding, idle, List.map_nil, List.append_nil]
        exact ⟨fun held => held.elim And.left (fromArmed i),
          fun armed => (em (i ∈ batch.map Kevent.ident)).elim .inr fun out => .inl ⟨armed, out⟩⟩
      have outstanding : System.outstanding { s with
          loop := (kqueueWait s.tracker.kq (.ok batch)).1
          tracker := { s.tracker with kq := (kqueueWait s.tracker.kq (.ok batch)).2 } } =
          s.tracker.kq.armed.filter (fun i => !batch.any (·.ident == i)) ++ batch.map Kevent.ident := by
        simp [System.outstanding, System.inFlight, kqueueWait, closed]
      refine ⟨?_, ?_, ?_, ?_⟩
      · rw [outstanding]
        refine List.nodup_append.mpr ⟨armedNodup.filter _, distinct, ?_⟩
        intro i inKept inBatch
        exact ((kept i).mp inKept).2 inBatch
      · simpa [System.inFlight, kqueueWait, closed] using fun kevent inBatch => (delivered kevent inBatch).1
      · intro i inNew
        rw [outstanding, member] at inNew
        exact kwf.entryOfOutstanding i inNew
      · intro pid nonneg entry
        rw [outstanding, member]
        exact kwf.outstandingOfEntry pid nonneg entry

theorem KernelWf.process (wf : RegistryWf s.tracker) (kwf : KernelWf s) {batch : List Kevent}
    (held : s.loop = .received batch) :
    KernelWf { s with tracker := s.tracker.reaped batch, loop := .waiting,
                      processed := s.processed ++ batch } := by
  have inFlight : s.inFlight = batch := by simp [System.inFlight, held]
  have outstanding : System.outstanding
      { s with tracker := s.tracker.reaped batch, loop := .waiting, processed := s.processed ++ batch } =
        s.tracker.kq.armed := by
    simp [System.outstanding, System.inFlight]
  have disjoint : ∀ i ∈ s.tracker.kq.armed, i ∉ batch.map Kevent.ident := by
    intro i armed inBatch
    have := kwf.nodup
    rw [System.outstanding, inFlight, List.nodup_append] at this
    exact this.2.2 armed inBatch
  refine ⟨outstanding ▸ kwf.nodup.sublist (List.sublist_append_left _ _), by simp [System.inFlight], ?_, ?_⟩
  · intro i armed
    rw [outstanding] at armed
    obtain ⟨pid, rfl, entry⟩ := kwf.entryOfOutstanding i (List.mem_append_left _ armed)
    refine ⟨pid, rfl, ?_⟩
    simp only [reaped_watchedPIDs]
    split_ifs with reported
    · obtain ⟨kevent, inBatch, exiting⟩ := exitsIn_eq_true.mp reported
      exact absurd (List.mem_map.mpr ⟨kevent, inBatch, (exitPid_eq_some.mp exiting).2.2.2⟩)
        (disjoint _ armed)
    · exact entry
  · intro pid nonneg entry
    simp only [reaped_watchedPIDs] at entry
    split_ifs at entry with reported
    · exact absurd rfl entry
    rw [outstanding]
    rcases List.mem_append.mp (kwf.outstandingOfEntry pid nonneg entry) with armed | inBatch
    · exact armed
    · obtain ⟨kevent, inFlight', same⟩ := List.mem_map.mp inBatch
      obtain ⟨c, entry⟩ := Option.ne_none_iff_exists'.mp entry
      have range := wf.keyRange pid c entry
      have exiting : exitPid kevent = some pid := exitPid_eq_some.mpr
        ⟨kwf.inFlightExits kevent inFlight', nonneg, by omega, same⟩
      exact absurd (exitsIn_eq_true.mpr ⟨kevent, inFlight ▸ inFlight', exiting⟩) reported

/-- A caller with PID 5. -/
def fiveCaller : CallerInfo := ⟨5, by decide, by decide⟩

/-- The tracker after `NewWatcher(5)` with the kernel accepting the registration. -/
def watchingFive : System :=
  ⟨newTracker.register 5, .waiting, .idle, [], [⟨⟨false, 0, 5⟩, 0⟩], []⟩

theorem watchingFive_kernelReachable : KernelReachable watchingFive :=
  .step (.newWatcherLocked 0 (.ok ())) (.step (.newWatcher fiveCaller) .init trivial rfl) trivial rfl

end Spire.PeerTracker
