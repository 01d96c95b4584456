import Routiq.Core.Processes

/-! Calls on shared memory, one atomic operation at a time. An operation takes
place at a time that never goes back, and a weak compare-exchange may fail for
no reason. A chronicle is what an observer notes of the operations of a run, in
the order in which the memory takes them. -/
namespace Routiq.Core.Atomics
open Runs Processes

/-! ## Memory with a clock -/

structure Clocked (Memory : Type) where
  memory : Memory
  clock : Nat
deriving DecidableEq

/-- What the environment decides of an operation: how far the clock has gone on
since the one before, and whether a weak compare-exchange fails although it
need not. -/
structure Tick where
  elapsed : Nat
  spurious : Bool
deriving DecidableEq

variable {Index Cmd Memory World Input Value Stage Note Content : Type} {Res : Cmd → Type}

def machine (access : Nat → Bool → Memory → (op : Cmd) → Res op × Memory) :
    Machine Cmd Res (Clocked Memory) Tick where
  ready _ _ := true
  exec tick world op :=
    let now := world.clock + tick.elapsed
    let outcome := access now tick.spurious world.memory op
    (outcome.1,⟨outcome.2,now⟩)

variable [DecidableEq Content]

/-- `Ok` if the cell holds the expected value, which is then replaced, and `Err`
with what it holds otherwise. -/
def compareExchange (current expected new : Content) : Except Content Unit × Content :=
  if current = expected then (.ok (),new) else (.error current,current)

def compareExchangeWeak (spurious : Bool) (current expected new : Content) : Except Content Unit × Content :=
  if spurious then (.error current,current) else compareExchange current expected new

theorem compareExchange_self (expected new : Content) :
    compareExchange expected expected new = (.ok (),new) := if_pos rfl

theorem compareExchange_cases (current expected new : Content) :
    current = expected ∧ compareExchange current expected new = (.ok (),new) ∨
      current ≠ expected ∧ compareExchange current expected new = (.error current,current) := by
  by_cases hsame : current = expected
  · subst hsame
    exact .inl ⟨rfl,compareExchange_self current new⟩
  · exact .inr ⟨hsame,if_neg hsame⟩

/-! ## Chronicles -/

section Chronicles
variable {note : System Index Cmd Res World Value → Index → Input → Cmd → List Note}

/-- What is noted of an event: of the operation that the call is about to
execute, in the state before it. -/
def noted (note : System Index Cmd Res World Value → Index → Input → Cmd → List Note)
    (system : System Index Cmd Res World Value) (event : Index × Input) : List Note :=
  match (system.processes event.1).pending with
  | some op => note system event.1 event.2 op
  | none => []

variable [DecidableEq Index]

def chronicle (machine : Machine Cmd Res World Input)
    (note : System Index Cmd Res World Value → Index → Input → Cmd → List Note)
    (system : System Index Cmd Res World Value) (events : List (Index × Input)) : List Note :=
  trail (.step machine) (noted note) system events

variable {machine : Machine Cmd Res World Input} {protocol : Protocol Cmd Res Stage}
  {initial : Index → Stage} {post : Index → Stage → Value → Prop}
  {good : System Index Cmd Res World Value → Index × Input → Prop}

/-- Every interleaving: an invariant of the calls and of what has been noted of
them holds if one operation of a call that follows its protocol keeps it. -/
theorem chronicle_invariant (hserves : Protocol.Serves machine protocol)
    (hready : ∀ world op, machine.ready world op = true)
    {inv : System Index Cmd Res World Value → List Note → Prop}
    (hperform : ∀ (system : System Index Cmd Res World Value) (index : Index) (input : Input) (op : Cmd)
      (next : Res op → Process Cmd Res Value) (past : List Note),
      protocol.Following initial post system → system.processes index = .call op next →
      good system (index,input) → inv system past →
      inv (system.perform machine input index op next) (past ++ note system index input op))
    {system : System Index Cmd Res World Value} {events : List (Index × Input)} {past : List Note}
    (hgood : Along (System.step machine) good system events)
    (hfollowing : protocol.Following initial post system) (hinv : inv system past) :
    protocol.Following initial post (run (System.step machine) system events) ∧
      inv (run (System.step machine) system events) (past ++ chronicle machine note system events) := by
  have hstep : ∀ (system : System Index Cmd Res World Value) (event : Index × Input) (seen : Unit → List Note),
      good system event → protocol.Following initial post system ∧ inv system (seen ()) →
      protocol.Following initial post (system.step machine event) ∧
        inv (system.step machine event) (seen () ++ noted note system event) := by
    intro system event seen hevent hboth
    obtain ⟨index,input⟩ := event
    unfold System.step noted
    dsimp only
    cases hprocess : system.processes index with
    | done value =>
      rw [Process.pending_done]
      simpa only [List.append_nil] using hboth
    | call op next =>
      rw [Process.pending_call]
      dsimp only
      rw [if_pos (hready _ _)]
      exact ⟨hboth.1.perform hserves hprocess input,
        hperform system index input op next (seen ()) hboth.1 hprocess hevent hboth.2⟩
  exact @invariant_trail _ _ _ Unit (System.step machine) (fun _ => noted note) good
    (fun system seen => protocol.Following initial post system ∧ inv system (seen ())) hstep system events
    (fun _ => past) hgood ⟨hfollowing,hinv⟩

end Chronicles

end Routiq.Core.Atomics
