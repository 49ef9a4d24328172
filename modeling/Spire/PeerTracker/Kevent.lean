import Mathlib.Algebra.Group.Int
import Mathlib.Logic.Function.Basic

/-! The kqueue vocabulary of the BSD peer tracker (`peertracker`, built for
darwin and the BSDs): the `Kevent_t` fields the dispatch loop reads, the
constants it compares them with, and the three integer views of one process.
A caller's PID is an `int32`; `SetKevent` stores it as the `uint64` ident of a
registration; `receiveKevents` turns an event's ident back into the `int` key
of the registry with `CheckedCast`. Only 64-bit targets are modelled, where
`Ident` is a `uint64` and `int` has 64 bits.

The two conversions are inverse on non-negative PIDs (`checkedCast_eq_some`).
The kernel reads an `EVFILT_PROC` ident back as a `pid_t`, so the ident of a
negative PID names no process. -/
namespace Spire.PeerTracker

/-- `CallerInfo`, reduced to the field the tracker reads: the caller's `int32`
PID, kept as an integer together with its range. -/
structure CallerInfo where
  /-- `PID int32`. -/
  pid : Int
  lower : -2 ^ 31 ≤ pid
  upper : pid < 2 ^ 31
  deriving DecidableEq

/-- `unix.Kevent_t`, reduced to the fields `receiveKevents` reads. -/
structure Kevent where
  /-- `Ident uint64`. -/
  ident : UInt64
  /-- `Filter int16`. -/
  filter : Int
  /-- `Fflags uint32`. -/
  fflags : UInt32
  deriving DecidableEq, Repr

/-- `unix.EVFILT_PROC`. -/
def EVFILT_PROC : Int := -5

/-- `unix.NOTE_EXIT`. -/
def NOTE_EXIT : UInt32 := 0x80000000

/-- An `errno` value, as `kevent(2)` reports it. -/
abbrev Errno := Nat

/-- `unix.EINTR`: the wait was interrupted by a signal. -/
def EINTR : Errno := 4

/-- `unix.EBADF`: the descriptor is not an open kqueue. -/
def EBADF : Errno := 9

/-- `unix.ESRCH`: the process to attach to does not exist. -/
def ESRCH : Errno := 3

/-- `unix.SetKevent(&kevent, pid, ...)` stores `uint64(pid)`: the `int`
reduced modulo `2^64`. -/
def identOf (pid : Int) : UInt64 := UInt64.ofNat (pid % 2 ^ 64).toNat

/-- `util.CheckedCast[int](kevent.Ident)`: an ident is an `int` again only
below `2^63`. -/
def checkedCast (ident : UInt64) : Option Int :=
  if ident.toNat < 2 ^ 63 then some ident.toNat else none

/-- The test `kevent.Filter == unix.EVFILT_PROC && (kevent.Fflags&unix.NOTE_EXIT) > 0`. -/
def isExitEvent (kevent : Kevent) : Bool :=
  kevent.filter == EVFILT_PROC && (kevent.fflags &&& NOTE_EXIT) > 0

/-- The PID whose exit a kevent reports, as the dispatch loop reads it: an exit
event whose ident casts back to an `int`. -/
def exitPid (kevent : Kevent) : Option Int :=
  if isExitEvent kevent then checkedCast kevent.ident else none

/-- The event the kernel delivers when a `NOTE_EXIT` registration for `pid` fires. -/
def exitKevent (pid : Int) : Kevent := ⟨identOf pid, EVFILT_PROC, NOTE_EXIT⟩

private theorem identOf_toNat (pid : Int) : (identOf pid).toNat = (pid % 2 ^ 64).toNat :=
  UInt64.toNat_ofNat_of_lt (by simp only [UInt64.size]; omega)

/-- On the `int64` range, distinct PIDs have distinct idents. -/
theorem identOf_injective {p q : Int} (lowerP : -2 ^ 63 ≤ p) (upperP : p < 2 ^ 63)
    (lowerQ : -2 ^ 63 ≤ q) (upperQ : q < 2 ^ 63) (same : identOf p = identOf q) : p = q := by
  have toNat := congrArg UInt64.toNat same
  rw [identOf_toNat, identOf_toNat] at toNat
  omega

/-- `CheckedCast` recovers exactly the non-negative PIDs from their idents. -/
theorem checkedCast_eq_some {ident : UInt64} {pid : Int} :
    checkedCast ident = some pid ↔ 0 ≤ pid ∧ pid < 2 ^ 63 ∧ ident = identOf pid := by
  unfold checkedCast
  constructor
  · intro cast
    split at cast
    · cases cast
      exact ⟨by omega, by omega, UInt64.toNat.inj (by rw [identOf_toNat]; omega)⟩
    · cases cast
  · rintro ⟨lower, upper, rfl⟩
    rw [identOf_toNat, if_pos (by omega)]
    congr 1
    omega

theorem exitPid_eq_some {kevent : Kevent} {pid : Int} :
    exitPid kevent = some pid ↔
      isExitEvent kevent = true ∧ 0 ≤ pid ∧ pid < 2 ^ 63 ∧ kevent.ident = identOf pid := by
  unfold exitPid
  split <;> simp_all [checkedCast_eq_some]

example : exitPid (exitKevent 4242) = some 4242 := by decide

end Spire.PeerTracker
