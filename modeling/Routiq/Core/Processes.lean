import Mathlib.Logic.Function.Basic
import Routiq.Core.Runs

/-! Concurrent requests as trees of atomic commands. A machine executes one
command at a time; a system interleaves the commands of many requests and
keeps a log of them. A protocol abstracts a request to the stage its own log
has reached, so that an invariant of all interleavings is proved from what one
command does at each stage. -/
namespace Routiq.Core.Processes
open Function Runs

variable {Index Cmd World Input Value Other Stage : Type} {Res : Cmd → Type}

/-! ## Processes -/

/-- A request: finished with a value, or about to issue a command and to go on
with the answer. -/
inductive Process (Cmd : Type) (Res : Cmd → Type) (Value : Type) where
  | done (value : Value)
  | call (command : Cmd) (next : Res command → Process Cmd Res Value)

variable {process : Process Cmd Res Value} {value : Value}

namespace Process

def bind : Process Cmd Res Value → (Value → Process Cmd Res Other) → Process Cmd Res Other
  | .done value, rest => rest value
  | .call command next, rest => .call command fun answer => (next answer).bind rest

instance : Monad (Process Cmd Res) where
  pure := .done
  bind := bind

def perform (command : Cmd) : Process Cmd Res (Res command) := .call command .done

@[simp] theorem pure_eq (value : Value) : (pure value : Process Cmd Res Value) = .done value := rfl

@[simp] theorem done_bind (value : Value) (rest : Value → Process Cmd Res Other) :
    (.done value >>= rest) = rest value := rfl

@[simp] theorem call_bind (command : Cmd) (next : Res command → Process Cmd Res Value)
    (rest : Value → Process Cmd Res Other) :
    (.call command next >>= rest) = .call command fun answer => next answer >>= rest := rfl

@[simp] theorem perform_bind (command : Cmd) (rest : Res command → Process Cmd Res Other) :
    (perform command >>= rest) = .call command rest := rfl

def pending : Process Cmd Res Value → Option Cmd
  | .done _ => none
  | .call command _ => some command

@[simp] theorem pending_done (value : Value) : (.done value : Process Cmd Res Value).pending = none := rfl

@[simp] theorem pending_call (command : Cmd) (next : Res command → Process Cmd Res Value) :
    (Process.call command next).pending = some command := rfl

def result : Process Cmd Res Value → Option Value
  | .done value => some value
  | .call _ _ => none

theorem eq_done_of_result (hresult : process.result = some value) : process = .done value := by
  cases process with
  | done other => rw [Option.some.inj hresult]
  | call command next => contradiction

end Process

/-! ## Machines and systems -/

/-- What a command does to the shared state. The input says what the
environment decides: the time, the values drawn, the failures. A command that
is not ready waits. -/
structure Machine (Cmd : Type) (Res : Cmd → Type) (World Input : Type) where
  ready : World → Cmd → Bool
  exec : Input → World → (command : Cmd) → Res command × World

abbrev Entry (Cmd : Type) (Res : Cmd → Type) := Σ command : Cmd, Res command

structure System (Index Cmd : Type) (Res : Cmd → Type) (World Value : Type) where
  world : World
  processes : Index → Process Cmd Res Value
  log : List (Index × Entry Cmd Res)

namespace System

def start (world : World) (processes : Index → Process Cmd Res Value) :
    System Index Cmd Res World Value := ⟨world,processes,[]⟩

variable [DecidableEq Index]

variable (machine : Machine Cmd Res World Input) (input : Input)
  (system : System Index Cmd Res World Value)

/-- The system after one request has issued a command. -/
def perform (index : Index) (command : Cmd)
    (next : Res command → Process Cmd Res Value) : System Index Cmd Res World Value :=
  let outcome := machine.exec input system.world command
  { world := outcome.2
    processes := update system.processes index (next outcome.1)
    log := system.log ++ [(index,⟨command,outcome.1⟩)] }

section
variable (machine : Machine Cmd Res World Input) (system : System Index Cmd Res World Value)
  (event : Index × Input)

/-- One scheduling decision: a request issues its next command, if it has one
and the command is ready. -/
def step : System Index Cmd Res World Value :=
  match system.processes event.1 with
  | .done _ => system
  | .call command next =>
    if machine.ready system.world command then
      system.perform machine event.2 event.1 command next
    else system

theorem step_cases : system.step machine event = system ∨
      ∃ command next, system.processes event.1 = .call command next ∧
        machine.ready system.world command = true ∧
        system.step machine event = system.perform machine event.2 event.1 command next := by
  unfold step
  cases hprocess : system.processes event.1 with
  | done value => exact .inl rfl
  | call command next =>
    dsimp only
    by_cases hready : machine.ready system.world command = true
    · rw [if_pos hready]
      exact .inr ⟨command,next,rfl,hready,rfl⟩
    · rw [if_neg hready]
      exact .inl rfl

end

def trace (system : System Index Cmd Res World Value) (index : Index) : List (Entry Cmd Res) :=
  system.log.filterMap fun entry => if entry.1 = index then some entry.2 else none

theorem trace_perform_self (index : Index) (command : Cmd) (next : Res command → Process Cmd Res Value) :
    (system.perform machine input index command next).trace index =
      system.trace index ++ [⟨command,(machine.exec input system.world command).1⟩] := by
  simp [trace,perform]

theorem trace_perform_other {index other : Index} (command : Cmd) (next : Res command → Process Cmd Res Value)
    (hother : other ≠ index) :
    (system.perform machine input index command next).trace other = system.trace other := by
  simp [trace,perform,hother.symm]

end System

/-! ## A request on its own -/

structure Execution (Cmd : Type) (Res : Cmd → Type) (World Value : Type) where
  value : Value
  world : World
  log : List (Entry Cmd Res)

section
variable (machine : Machine Cmd Res World Input)

/-- The whole of a request with nothing in between; the n-th command gets the
n-th input. -/
def execute : Process Cmd Res Value → (Nat → Input) → World → Execution Cmd Res World Value
  | .done value, _, world => ⟨value,world,[]⟩
  | .call command next, inputs, world =>
    let outcome := machine.exec (inputs 0) world command
    let rest := execute (next outcome.1) (fun position => inputs (position + 1)) outcome.2
    { rest with log := ⟨command,outcome.1⟩ :: rest.log }

@[simp] theorem execute_done (value : Value) (inputs : Nat → Input) (world : World) :
    execute machine (.done value : Process Cmd Res Value) inputs world = ⟨value,world,[]⟩ := rfl

theorem execute_call (command : Cmd) (next : Res command → Process Cmd Res Value) (inputs : Nat → Input)
    (world : World) : execute machine (.call command next) inputs world =
      let outcome := machine.exec (inputs 0) world command
      let rest := execute machine (next outcome.1) (fun position => inputs (position + 1)) outcome.2
      { rest with log := ⟨command,outcome.1⟩ :: rest.log } := rfl

theorem execute_bind (process : Process Cmd Res Value) (rest : Value → Process Cmd Res Other)
    (inputs : Nat → Input) (world : World) : execute machine (process >>= rest) inputs world =
      let first := execute machine process inputs world
      let second := execute machine (rest first.value)
        (fun position => inputs (position + first.log.length)) first.world
      { second with log := first.log ++ second.log } := by
  induction process generalizing inputs world with
  | done value => rfl
  | call command next ih =>
    rw [Process.call_bind,execute_call,execute_call]
    dsimp only
    rw [ih]
    rfl

end

/-! ## Protocols -/

/-- The stages of a request: how a command and its answer move it, which
commands it issues at a stage, and which answers it has to expect. -/
structure Protocol (Cmd : Type) (Res : Cmd → Type) (Stage : Type) where
  next : Stage → (command : Cmd) → Res command → Stage
  allowed : Stage → Cmd → Prop
  possible : (command : Cmd) → Res command → Prop

namespace Protocol

variable (protocol : Protocol Cmd Res Stage)

/-- From this stage on, the request issues only allowed commands, whatever
possible answers it gets, and ends as `post` says. -/
def Follows (post : Stage → Value → Prop) : Stage → Process Cmd Res Value → Prop
  | stage, .done value => post stage value
  | stage, .call command next =>
    protocol.allowed stage command ∧ ∀ answer, protocol.possible command answer →
        Follows post (protocol.next stage command answer) (next answer)

variable {protocol} {stage : Stage} {post : Stage → Value → Prop}

@[simp] theorem follows_done :
    protocol.Follows post stage (.done value) ↔ post stage value := Iff.rfl

variable {command : Cmd} {next : Res command → Process Cmd Res Value}

@[simp] theorem follows_call :
    protocol.Follows post stage (.call command next) ↔ protocol.allowed stage command ∧
        ∀ answer, protocol.possible command answer →
          protocol.Follows post (protocol.next stage command answer) (next answer) := Iff.rfl

theorem follows_bind {post : Stage → Other → Prop}
    {rest : Value → Process Cmd Res Other} : protocol.Follows post stage (process >>= rest) ↔
      protocol.Follows (fun stage value => protocol.Follows post stage (rest value)) stage process := by
  induction process generalizing stage with
  | done value => exact Iff.rfl
  | call command next ih =>
    rw [Process.call_bind,follows_call,follows_call]
    exact and_congr_right fun _ => forall_congr' fun answer => imp_congr_right fun _ => ih answer

theorem Follows.mono {weaker : Stage → Value → Prop} (hfollows : protocol.Follows post stage process)
    (hweaker : ∀ stage value, post stage value → weaker stage value) :
    protocol.Follows weaker stage process := by
  induction process generalizing stage with
  | done value => exact hweaker stage value hfollows
  | call command next ih =>
    exact ⟨hfollows.1,fun answer hpossible => ih answer (hfollows.2 answer hpossible)⟩

variable (protocol)

def stageAfter (initial : Stage) (entries : List (Entry Cmd Res)) : Stage :=
  entries.foldl (fun stage entry => protocol.next stage entry.1 entry.2) initial

variable {protocol} in
/-- What holds of a stage and did not hold at first was brought about by one of
the commands. -/
theorem exists_entry_of_stageAfter (property : Stage → Prop) {initial : Stage}
    {entries : List (Entry Cmd Res)} (hinitial : ¬property initial)
    (hafter : property (protocol.stageAfter initial entries)) :
    ∃ entry ∈ entries, ∃ stage, ¬property stage ∧ property (protocol.next stage entry.1 entry.2) := by
  induction entries generalizing initial with
  | nil => exact absurd hafter hinitial
  | cons entry entries ih =>
    by_cases hnext : property (protocol.next initial entry.1 entry.2)
    · exact ⟨entry,List.mem_cons_self,initial,hinitial,hnext⟩
    · obtain ⟨later,hlater,hchanged⟩ := ih hnext hafter
      exact ⟨later,List.mem_cons_of_mem entry hlater,hchanged⟩

variable {protocol} in
/-- What no command changes is after any of them as it was at first. -/
theorem stageAfter_kept {Kept : Type} (read : Stage → Kept)
    (hkept : ∀ stage command answer, read (protocol.next stage command answer) = read stage)
    (initial : Stage) (entries : List (Entry Cmd Res)) :
    read (protocol.stageAfter initial entries) = read initial := by
  induction entries generalizing initial with
  | nil => rfl
  | cons entry entries ih => exact (ih _).trans (hkept initial entry.1 entry.2)

variable [DecidableEq Index]

section
variable (initial : Index → Stage)

def stages (system : System Index Cmd Res World Value) (index : Index) : Stage :=
  protocol.stageAfter (initial index) (system.trace index)

theorem stages_perform (machine : Machine Cmd Res World Input) (input : Input)
    (system : System Index Cmd Res World Value) (index : Index) (command : Cmd)
    (next : Res command → Process Cmd Res Value) :
    protocol.stages initial (system.perform machine input index command next) =
      update (protocol.stages initial system) index
        (protocol.next (protocol.stages initial system index) command
          (machine.exec input system.world command).1) := by
  funext other
  by_cases hother : other = index
  · subst hother
    rw [update_self,stages,System.trace_perform_self,stageAfter,List.foldl_append]
    rfl
  · rw [update_of_ne hother,stages,System.trace_perform_other _ _ _ _ _ hother]
    rfl

variable (post : Index → Stage → Value → Prop)

/-- Every request follows its protocol from the stage it has reached. -/
def Following (system : System Index Cmd Res World Value) : Prop :=
  ∀ index, protocol.Follows (post index) (protocol.stages initial system index)
    (system.processes index)

/-- What holds of a system whose requests follow their protocol: the invariant,
and that each of them still does. -/
structure Holds (inv : World → List (Index × Entry Cmd Res) → (Index → Stage) → Prop)
    (system : System Index Cmd Res World Value) : Prop where
  inv : inv system.world system.log (protocol.stages initial system)
  follows : protocol.Following initial post system

end

variable {system : System Index Cmd Res World Value} {index : Index} {protocol} {initial : Index → Stage}
  {post : Index → Stage → Value → Prop} {inv : World → List (Index × Entry Cmd Res) → (Index → Stage) → Prop}
  {machine : Machine Cmd Res World Input} {good : System Index Cmd Res World Value → Index × Input → Prop}

theorem Following.settled (hfollowing : protocol.Following initial post system)
    (hresult : (system.processes index).result = some value) :
    post index (protocol.stages initial system index) value := by
  have hfollows := hfollowing index
  rw [Process.eq_done_of_result hresult] at hfollows
  exact hfollows

theorem Following.allowed (hfollowing : protocol.Following initial post system)
    (hpending : (system.processes index).pending = some command) :
    protocol.allowed (protocol.stages initial system index) command := by
  have hfollows := hfollowing index
  cases hprocess : system.processes index with
  | done value =>
    rw [hprocess] at hpending
    contradiction
  | call issued next =>
    rw [hprocess] at hpending hfollows
    rw [← Option.some.inj hpending]
    exact hfollows.1

theorem Holds.settled (hholds : protocol.Holds initial post inv system)
    (hresult : (system.processes index).result = some value) :
    post index (protocol.stages initial system index) value := hholds.follows.settled hresult

def Serves (machine : Machine Cmd Res World Input) (protocol : Protocol Cmd Res Stage) : Prop :=
  ∀ input world command, protocol.possible command (machine.exec input world command).1

section
variable (hserves : Serves machine protocol)
include hserves

theorem Following.perform (hfollowing : protocol.Following initial post system) (hprocess : system.processes index = .call command next)
    (input : Input) : protocol.Following initial post (system.perform machine input index command next) := by
  intro other
  rw [stages_perform]
  by_cases hother : other = index
  · subst hother
    have hself := hfollowing other
    rw [hprocess,follows_call] at hself
    simp only [System.perform,update_self]
    exact hself.2 _ (hserves input system.world command)
  · simp only [System.perform,update_of_ne hother]
    exact hfollowing other

variable {events : List (Index × Input)}

/-- Every interleaving, for an invariant that looks at the requests as well:
it is enough that one command of a request that follows its protocol keeps it. -/
theorem Following.run_invariant {inv : System Index Cmd Res World Value → Prop}
    (hperform : ∀ (system : System Index Cmd Res World Value) (index : Index) (input : Input)
      (command : Cmd) (next : Res command → Process Cmd Res Value),
      protocol.Following initial post system → system.processes index = .call command next →
      good system (index,input) → inv system →
      inv (system.perform machine input index command next))
    (hgood : Along (.step machine) good system events) (hfollowing : protocol.Following initial post system)
    (hinv : inv system) : protocol.Following initial post (run (.step machine) system events) ∧
      inv (run (.step machine) system events) := by
  have hstep : ∀ (system : System Index Cmd Res World Value) (event : Index × Input),
      good system event → protocol.Following initial post system ∧ inv system →
      protocol.Following initial post (system.step machine event) ∧ inv (system.step machine event) := by
    intro system event hevent hboth
    rcases system.step_cases machine event with hstep | ⟨command,next,hprocess,_,hstep⟩
    · rw [hstep]
      exact hboth
    · rw [hstep]
      exact ⟨hboth.1.perform hserves hprocess event.2,
        hperform system event.1 event.2 command next hboth.1 hprocess hevent hboth.2⟩
  exact invariant_run hstep hgood ⟨hfollowing,hinv⟩

/-- One allowed command keeps the invariant: the obligation behind every
statement about all interleavings. -/
def Preserves (protocol : Protocol Cmd Res Stage) (machine : Machine Cmd Res World Input)
    (initial : Index → Stage) (good : System Index Cmd Res World Value → Index × Input → Prop)
    (inv : World → List (Index × Entry Cmd Res) → (Index → Stage) → Prop) : Prop :=
  ∀ (system : System Index Cmd Res World Value) (index : Index) (input : Input) (command : Cmd),
    (system.processes index).pending = some command →
    machine.ready system.world command = true →
    good system (index,input) →
    protocol.allowed (protocol.stages initial system index) command →
    inv system.world system.log (protocol.stages initial system) →
    inv (machine.exec input system.world command).2
      (system.log ++ [(index,⟨command,(machine.exec input system.world command).1⟩)])
      (update (protocol.stages initial system) index
        (protocol.next (protocol.stages initial system index) command
          (machine.exec input system.world command).1))

variable (hpreserves : Preserves protocol machine initial good inv)
include hpreserves

theorem Holds.step {event : Index × Input}
    (hgood : good system event) (hholds : protocol.Holds initial post inv system) :
    protocol.Holds initial post inv (system.step machine event) := by
  rcases system.step_cases machine event with hstep | ⟨command,next,hprocess,hready,hstep⟩
  · rw [hstep]
    exact hholds
  · have hself := hholds.follows event.1
    rw [hprocess,follows_call] at hself
    rw [hstep]
    refine ⟨?_,hholds.follows.perform hserves hprocess event.2⟩
    rw [stages_perform]
    exact hpreserves system event.1 event.2 command (by rw [hprocess,Process.pending_call])
      hready hgood hself.1 hholds.inv

/-- Every interleaving: what each allowed command keeps holds in every state
that a good run reaches. -/
theorem Holds.run
    (hgood : Along (.step machine) good system events) (hholds : protocol.Holds initial post inv system) :
    protocol.Holds initial post inv (run (.step machine) system events) :=
  invariant_run (fun _ _ hevent => .step hserves hpreserves hevent) hgood hholds

end

/-- The requests of a fresh system hold the invariant if the initial stages do
and each request follows the protocol from its own. -/
theorem Holds.start {world : World} {processes : Index → Process Cmd Res Value} (hinv : inv world [] initial)
    (hfollows : ∀ index, protocol.Follows (post index) (initial index) (processes index)) :
    protocol.Holds initial post inv (.start world processes) := ⟨hinv,hfollows⟩

end Protocol

end Routiq.Core.Processes
