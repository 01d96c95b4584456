import Routiq.Core.Processes

/-! Requests that read the clock and throw. Every answer comes with the time at
which the request goes on, so that reading the clock is not a step of its own;
an exception ends the request unless it is caught. What a protocol says of
such a request is put together from its parts. -/
namespace Routiq.Core.Actions
open Processes

variable {Cmd Error Value Other Stage : Type} {Result : Cmd → Type}

abbrev Timed (Result : Cmd → Type) (command : Cmd) : Type := Result command × Nat

/-- A request that starts at a time and ends with a value or an exception. -/
def Action (Cmd : Type) (Result : Cmd → Type) (Error Value : Type) : Type :=
  Nat → Process Cmd (Timed Result) (Except Error Value × Nat)

namespace Action

def andThen (action : Action Cmd Result Error Value)
    (rest : Except Error Value → Action Cmd Result Error Other) : Action Cmd Result Error Other :=
  fun nowMs => action nowMs >>= fun outcome => rest outcome.1 outcome.2

def fail (error : Error) : Action Cmd Result Error Value := fun nowMs => .done (.error error,nowMs)
def succeed (value : Value) : Action Cmd Result Error Value := fun nowMs => .done (.ok value,nowMs)

instance : Monad (Action Cmd Result Error) where
  pure := succeed
  bind action rest := action.andThen fun
    | .ok value => rest value
    | .error error => fail error

instance : MonadExcept Error (Action Cmd Result Error) where
  throw := fail
  tryCatch action handler := action.andThen fun
    | .ok value => succeed value
    | .error error => handler error

def now : Action Cmd Result Error Nat := fun nowMs => .done (.ok nowMs,nowMs)

def perform (command : Cmd) : Action Cmd Result Error (Result command) :=
  fun _ => .call command fun answer => .done (.ok answer.1,answer.2)

def attempt (command : Cmd) (outcome : Result command → Except Error Value) : Action Cmd Result Error Value :=
  fun _ => .call command fun answer => .done (outcome answer.1,answer.2)

variable (process : Process Cmd (Timed Result) Value)

theorem process_bind_assoc {Third : Type} (first : Value → Process Cmd (Timed Result) Other)
    (second : Other → Process Cmd (Timed Result) Third) :
    process >>= first >>= second = process >>= fun value => first value >>= second := by
  induction process with
  | done value => rfl
  | call command next ih =>
    rw [Process.call_bind,Process.call_bind,Process.call_bind]
    congr
    funext answer
    exact ih answer

theorem process_bind_done : process >>= Process.done = process := by
  induction process with
  | done value => rfl
  | call command next ih =>
    rw [Process.call_bind]
    congr
    funext answer
    exact ih answer

theorem action_bind_assoc {Third : Type} (action : Action Cmd Result Error Value)
    (first : Value → Action Cmd Result Error Other) (second : Other → Action Cmd Result Error Third) :
    action >>= first >>= second = action >>= fun value => first value >>= second := by
  funext nowMs
  refine (process_bind_assoc (action nowMs) _ _).trans ?_
  refine congrArg (action nowMs >>= ·) ?_
  funext outcome
  obtain ⟨result,later⟩ := outcome
  cases result <;> rfl

theorem action_bind_pure (action : Action Cmd Result Error Value) : action >>= pure = action := by
  funext nowMs
  refine Eq.trans ?_ (process_bind_done (action nowMs))
  refine congrArg (action nowMs >>= ·) ?_
  funext outcome
  obtain ⟨result,later⟩ := outcome
  cases result <;> rfl

instance : LawfulMonad (Action Cmd Result Error) :=
  .mk' _ action_bind_pure (fun _ _ => rfl) action_bind_assoc

end Action

/-! ## An action on its own -/

variable {value : Value} {rest : Nat → Action Cmd Result Error Value} {command : Cmd}

section Outcome
variable {World Input : Type} (machine : Machine Cmd (Timed Result) World Input)

/-- How an action ends when nothing comes between its commands, and the state
it leaves; the n-th command gets the n-th input. -/
def outcome (action : Action Cmd Result Error Value) (nowMs : Nat) (inputs : Nat → Input)
    (world : World) : Except Error Value × World :=
  ((execute machine (action nowMs) inputs world).value.1,(execute machine (action nowMs) inputs world).world)

def later (inputs : Nat → Input) : Nat → Input := fun position => inputs (position + 1)

variable {machine} {nowMs : Nat} {inputs : Nat → Input} {world : World}

@[simp] theorem outcome_pure :
    outcome machine (pure value : Action Cmd Result Error Value) nowMs inputs world = (.ok value,world) := rfl

@[simp] theorem outcome_now_bind : outcome machine (.now >>= rest) nowMs inputs world =
      outcome machine (rest nowMs) nowMs inputs world := rfl

theorem outcome_attempt_bind {result : Result command → Except Error Other}
    {rest : Other → Action Cmd Result Error Value} :
    outcome machine (.attempt command result >>= rest) nowMs inputs world =
      let answered := machine.exec (inputs 0) world command
      match result answered.1.1 with
      | .ok value => outcome machine (rest value) answered.1.2 (later inputs) answered.2
      | .error error => (.error error,answered.2) := by
  dsimp only
  have hunfold : outcome machine (.attempt command result >>= rest) nowMs inputs world =
      outcome machine (match result (machine.exec (inputs 0) world command).1.1 with
        | .ok value => rest value
        | .error error => .fail error) (machine.exec (inputs 0) world command).1.2 (later inputs)
        (machine.exec (inputs 0) world command).2 := rfl
  rw [hunfold]
  cases result (machine.exec (inputs 0) world command).1.1 with
  | ok value | error error => rfl

def recovered (recover : Error → Value) : Except Error Value × World → Except Error Value × World
  | (.ok value,world) => (.ok value,world)
  | (.error error,world) => (.ok (recover error),world)

theorem outcome_tryCatch_pure {action : Action Cmd Result Error Value} {recover : Error → Value} :
    outcome machine (tryCatch action fun error => pure (recover error)) nowMs inputs world =
      recovered recover (outcome machine action nowMs inputs world) := by
  unfold outcome
  have hexecute := execute_bind machine (action nowMs) (fun outcome => (match outcome.1 with
    | .ok value => .succeed value
    | .error error => pure (recover error) : Action Cmd Result Error Value) outcome.2) inputs world
  have hcaught : execute machine (tryCatch action (fun error => pure (recover error)) nowMs) inputs world =
    _ := hexecute
  rw [hcaught]
  dsimp only
  unfold recovered
  cases (execute machine (action nowMs) inputs world).value.1 with
  | ok value | error error => rfl

end Outcome

/-! ## Protocols of actions -/

def untimed (possible : (command : Cmd) → Result command → Prop)
    (next : Stage → (command : Cmd) → Result command → Stage) (allowed : Stage → Cmd → Prop) :
    Protocol Cmd (Timed Result) Stage where
  next stage command answer := next stage command answer.1
  allowed := allowed
  possible command answer := possible command answer.1

variable {possible : (command : Cmd) → Result command → Prop}
  {next : Stage → (command : Cmd) → Result command → Stage} {allowed : Stage → Cmd → Prop}

/-- Whatever the time, the action issues only allowed commands and ends as
`post` says, with a value or with an exception. -/
def Guides (possible : (command : Cmd) → Result command → Prop) (next : Stage → (command : Cmd) → Result command → Stage) (allowed : Stage → Cmd → Prop)
    (post : Stage → Except Error Value → Prop) (stage : Stage) (action : Action Cmd Result Error Value) :
    Prop :=
  ∀ nowMs, (untimed possible next allowed).Follows (fun stage outcome => post stage outcome.1) stage (action nowMs)

section Rules
variable {post : Stage → Except Error Value → Prop} {stage : Stage} {action : Action Cmd Result Error Value}

@[simp] theorem guides_pure :
    Guides possible next allowed post stage (pure value : Action Cmd Result Error Value) ↔
      post stage (.ok value) := ⟨fun hguides => hguides 0,fun hpost _ => hpost⟩

@[simp] theorem guides_throw {error : Error} :
    Guides possible next allowed post stage (throw error : Action Cmd Result Error Value) ↔
      post stage (.error error) := ⟨fun hguides => hguides 0,fun hpost _ => hpost⟩

theorem Guides.mono {weaker : Stage → Except Error Value → Prop}
    (hguides : Guides possible next allowed post stage action)
    (hweaker : ∀ stage outcome, post stage outcome → weaker stage outcome) :
    Guides possible next allowed weaker stage action :=
  fun nowMs => (hguides nowMs).mono fun stage outcome => hweaker stage outcome.1

section
variable {post : Stage → Except Error Other → Prop}

theorem Guides.andThen {rest : Except Error Value → Action Cmd Result Error Other}
    (hguides : Guides possible next allowed (fun stage outcome => Guides possible next allowed post stage (rest outcome))
      stage action) : Guides possible next allowed post stage (action.andThen rest) := by
  intro nowMs
  unfold Action.andThen
  rw [Protocol.follows_bind]
  exact (hguides nowMs).mono fun stage outcome hrest => hrest outcome.2

/-- What follows a part of an action: the rest of it, or the exception. -/
def Continues (possible : (command : Cmd) → Result command → Prop)
    (next : Stage → (command : Cmd) → Result command → Stage) (allowed : Stage → Cmd → Prop)
    (post : Stage → Except Error Other → Prop) (rest : Value → Action Cmd Result Error Other)
    (stage : Stage) : Except Error Value → Prop
  | .ok value => Guides possible next allowed post stage (rest value)
  | .error error => post stage (.error error)

theorem Guides.bind {rest : Value → Action Cmd Result Error Other}
    (hguides : Guides possible next allowed (Continues possible next allowed post rest) stage action) :
    Guides possible next allowed post stage (action >>= rest) := by
  refine .andThen (hguides.mono ?_)
  intro stage outcome hcontinues
  cases outcome with
  | ok value => exact hcontinues
  | error error => exact guides_throw.mpr hcontinues

end

theorem Guides.tryCatch {handler : Error → Action Cmd Result Error Value}
    (hguides : Guides possible next allowed (fun stage outcome =>
      match outcome with
      | .ok value => post stage (.ok value)
      | .error error => Guides possible next allowed post stage (handler error)) stage action) :
    Guides possible next allowed post stage (tryCatch action handler) := by
  refine .andThen (hguides.mono ?_)
  intro stage outcome houtcome
  cases outcome with
  | ok value => exact guides_pure.mpr houtcome
  | error error => exact houtcome

theorem guides_now_bind (hrest : ∀ nowMs, Guides possible next allowed post stage (rest nowMs)) :
    Guides possible next allowed post stage (.now >>= rest) := fun nowMs => hrest nowMs nowMs

theorem guides_perform_bind {rest : Result command → Action Cmd Result Error Value} :
    Guides possible next allowed post stage (.perform command >>= rest) ↔ allowed stage command ∧
        ∀ answer, possible command answer →
          Guides possible next allowed post (next stage command answer) (rest answer) :=
  ⟨fun hguides => ⟨(hguides 0).1,fun answer hanswer nowMs => (hguides 0).2 (answer,nowMs) hanswer⟩,
    fun hguides _ => ⟨hguides.1,fun answer hanswer => hguides.2 answer.1 hanswer answer.2⟩⟩

theorem guides_attempt {outcome : Result command → Except Error Value} :
    Guides possible next allowed post stage (.attempt command outcome) ↔ allowed stage command ∧
        ∀ answer, possible command answer → post (next stage command answer) (outcome answer) :=
  ⟨fun hguides => ⟨(hguides 0).1,fun answer hanswer => (hguides 0).2 (answer,0) hanswer⟩,
    fun hguides _ => ⟨hguides.1,fun answer hanswer => hguides.2 answer.1 hanswer⟩⟩

theorem guides_attempt_bind {outcome : Result command → Except Error Other}
    {rest : Other → Action Cmd Result Error Value} :
    Guides possible next allowed post stage (.attempt command outcome >>= rest) ↔
      allowed stage command ∧ ∀ answer, possible command answer →
          Continues possible next allowed post rest (next stage command answer) (outcome answer) := by
  constructor
  · intro hguides
    refine ⟨(hguides 0).1,fun answer hanswer => ?_⟩
    have hrest := fun nowMs => (hguides 0).2 (answer,nowMs) hanswer
    cases houtcome : outcome answer with
    | ok value =>
      intro nowMs
      have hvalue := hrest nowMs
      dsimp only at hvalue
      rw [houtcome] at hvalue
      exact hvalue
    | error error =>
      have herror := hrest 0
      dsimp only at herror
      rw [houtcome] at herror
      exact herror
  · intro hguides
    exact .bind (guides_attempt.mpr hguides)

end Rules

end Routiq.Core.Actions
