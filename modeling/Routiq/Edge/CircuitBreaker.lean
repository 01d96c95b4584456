import Mathlib.Logic.Function.Basic
import Mathlib.Data.Fin.Basic

/-! The upstream circuit breaker in shared memory. Every worker maps the same
array of slots; a name selects its slot by hash, so the hash is a parameter and
two names may share one. The global breaker is the slot of a reserved name. -/
namespace Routiq.Edge.CircuitBreaker
open Function

inductive CircuitState where
  | stateClosed | stateOpen | stateHalfOpen
deriving DecidableEq

def failureThreshold : Nat := 50
def resetTimeoutSecs : Nat := 10
def shmSlots : Nat := 4096

structure UpstreamCB where
  state : CircuitState
  (failures lastFailureTime : Nat)
deriving DecidableEq

namespace UpstreamCB

def zeroed : UpstreamCB := ⟨.stateClosed,0,0⟩

/-- The only place where an open circuit becomes half-open: a query after the
cooldown. A call is one step here, so its compare-exchange succeeds. -/
def isOpen (cb : UpstreamCB) (now : Nat) : Bool × UpstreamCB :=
  match cb.state with
  | .stateClosed => (false,cb)
  | .stateOpen =>
      if now ≤ cb.lastFailureTime + resetTimeoutSecs then (true,cb)
      else (false,{ cb with state := .stateHalfOpen })
  | .stateHalfOpen => (false,cb)

def recordSuccess (cb : UpstreamCB) : UpstreamCB :=
  match cb.state with
  | .stateHalfOpen => { cb with state := .stateClosed, failures := 0 }
  | .stateClosed => { cb with failures := 0 }
  | .stateOpen => cb

def recordFailure (cb : UpstreamCB) (now : Nat) : UpstreamCB :=
  match cb.state with
  | .stateHalfOpen => { cb with state := .stateOpen, lastFailureTime := now }
  | .stateClosed =>
      let failed := { cb with failures := cb.failures + 1 }
      if failureThreshold ≤ cb.failures + 1 then
        { failed with state := .stateOpen, lastFailureTime := now }
      else failed
  | .stateOpen => cb

end UpstreamCB

/-! ## Shared memory -/

abbrev Shm := Fin shmSlots → UpstreamCB

/-- The slot hash of `get_cb`; a parameter of everything that reads a slot. -/
abbrev SlotOf := String → Fin shmSlots

def freshShm : Shm := fun _ => .zeroed
def globalName : String := "__GLOBAL__"

variable (slotOf : SlotOf) (shm : Shm)

def modifyCb (name : String) (f : UpstreamCB → UpstreamCB) : Shm :=
  update shm (slotOf name) (f (shm (slotOf name)))

def isUpstreamOpen (slotOf : SlotOf) (now : Nat) (shm : Shm) (upstream : String) : Bool × Shm :=
  let (answer,cb) := (shm (slotOf upstream)).isOpen now
  (answer,modifyCb slotOf shm upstream fun _ => cb)

def recordSuccess : Shm := modifyCb slotOf shm globalName .recordSuccess

def recordFailure (slotOf : SlotOf) (now : Nat) (shm : Shm) : Shm :=
  modifyCb slotOf shm globalName (.recordFailure · now)

def recordSuccessFor (upstream : String) : Shm :=
  recordSuccess slotOf (modifyCb slotOf shm upstream .recordSuccess)

def recordFailureFor (slotOf : SlotOf) (now : Nat) (shm : Shm) (upstream : String) : Shm :=
  recordFailure slotOf now (modifyCb slotOf shm upstream (.recordFailure · now))

def globalCb : UpstreamCB := shm (slotOf globalName)
def globalState : CircuitState := (globalCb slotOf shm).state

theorem globalCb_modify_of_open (name : String) {f : UpstreamCB → UpstreamCB}
    (hfix : ∀ cb, cb.state = .stateOpen → f cb = cb) (hopen : globalState slotOf shm = .stateOpen) :
    globalCb slotOf (modifyCb slotOf shm name f) = globalCb slotOf shm := by
  unfold globalCb modifyCb
  by_cases hslot : slotOf globalName = slotOf name
  · rw [hslot,update_self]
    apply hfix
    rw [← hslot]
    exact hopen
  · rw [update_of_ne hslot]

end Routiq.Edge.CircuitBreaker
