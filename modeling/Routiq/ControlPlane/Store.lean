import Mathlib.Data.List.Infix
import Routiq.Core.Runs

/-! The two bounded memories of the control plane: the stack of configurations
that rollback returns through, and the ring of change events that a
reconnecting edge is replayed from. -/
namespace Routiq.ControlPlane.Store
open Core.Runs List Option

variable {Snapshot : Type}

/-! ## The rollback stack -/

/-- The history always has a current configuration, its last element. -/
structure ConfigStore (Snapshot : Type) where
  history : List Snapshot
  historyLimit : Nat
  nonempty : history ≠ []

namespace ConfigStore

theorem singleton_ne_nil (initial : Snapshot) : [initial] ≠ [] := cons_ne_nil initial []

def new (initial : Snapshot) (historyLimit : Nat) : ConfigStore Snapshot :=
  ⟨[initial],historyLimit,singleton_ne_nil initial⟩

def pushHistory (limit : Nat) (history : List Snapshot) (next : Snapshot) : List Snapshot :=
  if (history ++ [next]).length > limit then (history ++ [next]).tail else history ++ [next]

variable {history : List Snapshot}

theorem getLast?_pushHistory (hnonempty : history ≠ []) (limit : Nat) (next : Snapshot) :
    (pushHistory limit history next).getLast? = some next := by
  obtain ⟨first,rest,rfl⟩ := exists_cons_of_ne_nil hnonempty
  unfold pushHistory
  by_cases hlong : (first :: rest ++ [next]).length > limit
  · rw [if_pos hlong,cons_append,tail_cons]
    exact getLast?_concat
  · rw [if_neg hlong]
    exact getLast?_concat

theorem pushHistory_ne_nil (hnonempty : history ≠ []) (limit : Nat) (next : Snapshot) :
    pushHistory limit history next ≠ [] := by
  intro hnil
  have hlast := getLast?_pushHistory hnonempty limit next
  rw [hnil] at hlast
  contradiction

variable (store : ConfigStore Snapshot)

def push (next : Snapshot) : ConfigStore Snapshot where
  history := pushHistory store.historyLimit store.history next
  historyLimit := store.historyLimit
  nonempty := pushHistory_ne_nil store.nonempty store.historyLimit next

theorem popped_ne_nil (hnonempty : history ≠ []) :
    (if history.length > 1 then history.dropLast else history) ≠ [] := by
  by_cases hlong : history.length > 1
  · rw [if_pos hlong]
    intro hnil
    have hlength := congrArg List.length hnil
    rw [length_dropLast,length_nil] at hlength
    omega
  · rw [if_neg hlong]
    exact hnonempty

/-- A pop never removes the only configuration. -/
def pop : ConfigStore Snapshot where
  history := if store.history.length > 1 then store.history.dropLast else store.history
  historyLimit := store.historyLimit
  nonempty := popped_ne_nil store.nonempty

def current : Snapshot := store.history.getLast store.nonempty

@[simp] theorem current_push (next : Snapshot) : (store.push next).current = next := by
  have hlast := getLast?_pushHistory store.nonempty store.historyLimit next
  rw [getLast?_eq_some_getLast (pushHistory_ne_nil store.nonempty _ _)] at hlast
  exact some.inj hlast

theorem push_suffix (next : Snapshot) : (store.push next).history <:+ store.history ++ [next] := by
  unfold push pushHistory
  dsimp only
  split
  · exact tail_suffix _
  · exact suffix_rfl

variable {store}

theorem pop_of_long (hlong : 1 < store.history.length) : store.pop.history = store.history.dropLast :=
  if_pos hlong

/-! ### A run of the stack -/

inductive Operation (Snapshot : Type)
  | push (next : Snapshot)
  | pop

variable (store) (operation : Operation Snapshot)

def apply : Operation Snapshot → ConfigStore Snapshot
  | .push next => store.push next
  | .pop => store.pop

/-- A pop of the only configuration is refused. -/
def Granted : Operation Snapshot → Prop
  | .push _ => True
  | .pop => 1 < store.history.length

/-- The same operation on a stack that nothing bounds, its top at the end. -/
def unbounded (stack : List Snapshot) : Operation Snapshot → List Snapshot
  | .push next => stack ++ [next]
  | .pop => stack.dropLast

theorem length_pop_le : store.pop.history.length ≤ store.history.length := by
  unfold pop
  dsimp only
  split
  · rw [length_dropLast]
    omega
  · exact Nat.le_refl _

theorem length_apply_le :
    (store.apply operation).history.length ≤ max store.history.length store.historyLimit := by
  cases operation with
  | push next =>
    simp only [apply,push,pushHistory]
    split <;> simp only [length_tail,length_append,length_singleton] at * <;> omega
  | pop => exact store.length_pop_le.trans (Nat.le_max_left _ _)

theorem length_run_le (operations : List (Operation Snapshot)) :
    (run apply store operations).history.length ≤ max store.history.length store.historyLimit := by
  induction operations generalizing store with
  | nil => exact Nat.le_max_left _ _
  | cons operation operations ih =>
    have hlimit : (store.apply operation).historyLimit = store.historyLimit := by cases operation <;> rfl
    have hnext := store.length_apply_le operation
    have hrest := ih (store.apply operation)
    rw [run_cons]
    omega

variable {store operation} {stack : List Snapshot}

theorem apply_suffix (hgranted : store.Granted operation) (hsuffix : store.history <:+ stack) :
    (store.apply operation).history <:+ unbounded stack operation := by
  obtain ⟨older,rfl⟩ := hsuffix
  cases operation with
  | push next =>
    refine (store.push_suffix next).trans ⟨older,?_⟩
    exact (append_assoc _ _ _).symm
  | pop =>
    rw [apply,pop_of_long hgranted,unbounded,dropLast_append_of_ne_nil store.nonempty]
    exact suffix_append _ _

theorem run_suffix {operations : List (Operation Snapshot)} (hgranted : Along apply Granted store operations)
    (hsuffix : store.history <:+ stack) :
    (run apply store operations).history <:+ run unbounded stack operations := by
  induction operations generalizing store stack with
  | nil => exact hsuffix
  | cons operation operations ih => exact ih hgranted.2 (apply_suffix hgranted.1 hsuffix)

theorem current_pops {k : Nat} (hdepth : k < store.history.length) :
    store.history.reverse[k]? = some (run apply store (replicate k .pop)).current := by
  induction k generalizing store with
  | zero =>
    rw [← head?_eq_getElem?,head?_reverse]
    exact getLast?_eq_some_getLast store.nonempty
  | succ k ih =>
    have hpop : store.pop.history = _ := pop_of_long (by omega)
    have hrest : k < store.pop.history.length := by
      rw [hpop,length_dropLast]
      omega
    rw [replicate_succ,run_cons,← getElem?_tail,tail_reverse,← hpop]
    exact ih hrest

theorem run_boundedStack (store : ConfigStore Snapshot) (operations : List (Operation Snapshot)) :
    (run apply store operations).history ≠ [] ∧
      (run apply store operations).history.length ≤ max store.history.length (max store.historyLimit 1) ∧
      (Along apply Granted store operations →
        (run apply store operations).history <:+ run unbounded store.history operations ∧
        ∀ k < (run apply store operations).history.length,
          (run unbounded store.history operations).reverse[k]? =
            some (run apply (run apply store operations) (replicate k .pop)).current) := by
  have hlength := store.length_run_le operations
  refine ⟨(run apply store operations).nonempty,by omega,fun hgranted => ?_⟩
  have hsuffix := run_suffix hgranted suffix_rfl
  refine ⟨hsuffix,fun k hdepth => ?_⟩
  obtain ⟨older,hstack⟩ := hsuffix
  rw [← current_pops hdepth,← hstack,reverse_append,getElem?_append_left (by rwa [length_reverse])]

end ConfigStore

/-! ## The event ring -/

structure ConfigEvent where
  revision : Nat
  version : String
  timestamp : Nat
  kind : String
deriving DecidableEq

def newConfigEvent (revision : Nat) (version : String) (nowSecs : Nat) : ConfigEvent :=
  ⟨revision,version,nowSecs,"FULL_SYNC"⟩

def eventRingCap : Nat := 128

section
variable (ring : List ConfigEvent)

def appendRing (event : ConfigEvent) : List ConfigEvent :=
  (ring ++ [event]).drop ((ring ++ [event]).length - eventRingCap)

theorem getLast?_appendRing (event : ConfigEvent) : (appendRing ring event).getLast? = some event := by
  have hcap : (ring ++ [event]).length - eventRingCap < (ring ++ [event]).length := by
    rw [length_append]
    simp only [length_singleton,eventRingCap]
    omega
  unfold appendRing
  rw [getLast?_drop,if_neg (by omega),getLast?_concat]

/-- Which events an edge that applied `lastId` still needs, and whether the
ring no longer covers the gap. -/
def selectMissedEvents (lastId cap : Nat) : List ConfigEvent × Bool :=
  if ring.isEmpty then ([],decide (lastId > 0))
  else
    let oldest := (ring.head?.map (·.revision)).getD 0
    let latest := (ring.getLast?.map (·.revision)).getD 0
    if lastId ≥ latest then ([],false)
    else if lastId > 0 ∧ lastId + 1 < oldest then ([],true)
    else
      let missed := ring.filter fun event => event.revision > lastId
      (missed.take cap,decide (missed.length > cap))

end

theorem selectMissedEvents_back {ring : List ConfigEvent} {newest : ConfigEvent} {lastId : Nat}
    (hnewest : ring.getLast? = some newest) (hbehind : lastId < newest.revision) (cap : Nat) :
    (selectMissedEvents ring lastId cap).2 = true ∨ newest ∈ (selectMissedEvents ring lastId cap).1 := by
  have hmem : newest ∈ ring := mem_of_getLast? hnewest
  have hring : ring.isEmpty = false := by
    rw [isEmpty_eq_false_iff]
    exact ne_nil_of_mem hmem
  unfold selectMissedEvents
  simp only [hring,Bool.false_eq_true,if_false,hnewest,map_some,getD_some,
    if_neg (Nat.not_le.mpr hbehind)]
  by_cases hgap : lastId > 0 ∧ lastId + 1 < (ring.head?.map (·.revision)).getD 0
  · rw [if_pos hgap]
    exact .inl rfl
  · rw [if_neg hgap]
    by_cases hcap : (ring.filter fun event => event.revision > lastId).length > cap
    · exact .inl (decide_eq_true hcap)
    · right
      rw [take_of_length_le (Nat.not_lt.mp hcap),mem_filter]
      exact ⟨hmem,decide_eq_true hbehind⟩

end Routiq.ControlPlane.Store
