import Routiq.ControlPlane.ServedRevisions

/-! What a rejected mutation leaves behind. A push writes the durable row before
it activates anything, a rollback activates first. -/
namespace Routiq.ControlPlane.Rejections
open Core.Processes Store Handlers ServedRevisions

variable {Snapshot Json : Type}

structure Unchanged (before after : AppState Snapshot Json) : Prop where
  live : after.live = before.live
  store : after.store = before.store
  revision : after.revision = before.revision
  events : after.events = before.events

theorem Unchanged.refl (state : AppState Snapshot Json) : Unchanged state state := ⟨rfl,rfl,rfl,rfl⟩

theorem Unchanged.trans {first second third : AppState Snapshot Json} (hfirst : Unchanged first second)
    (hsecond : Unchanged second third) : Unchanged first third where
  live := hsecond.live.trans hfirst.live
  store := hsecond.store.trans hfirst.store
  revision := hsecond.revision.trans hfirst.revision
  events := hsecond.events.trans hfirst.events

def RejectsCleanly (process : Handler Snapshot Json (Response Snapshot)) (inputs : Nat → Input)
    (state : AppState Snapshot Json) : Prop :=
  400 ≤ (execute machine process inputs state).value.status →
    Unchanged state (execute machine process inputs state).world

section Rules
variable {inputs : Nat → Input} {state : AppState Snapshot Json} {Value : Type}

theorem rejectsCleanly_pure (response : Response Snapshot) :
    RejectsCleanly (pure response : Handler Snapshot Json _) inputs state := fun _ => .refl state

theorem rejectsCleanly_bind {process : Handler Snapshot Json Value}
    {rest : Value → Handler Snapshot Json (Response Snapshot)}
    (hquiet : Unchanged state (execute machine process inputs state).world)
    (hrest : ∀ inputs', RejectsCleanly (rest (execute machine process inputs state).value) inputs'
      (execute machine process inputs state).world) : RejectsCleanly (process >>= rest) inputs state := by
  intro hstatus
  rw [execute_bind] at hstatus ⊢
  exact hquiet.trans (hrest _ hstatus)

end Rules

/-! ## The durable write -/

/-- There is no durable store, or the configuration serialises and its row is
stored and acknowledged. -/
def Recorded (env : Env Snapshot Json) (snapshot : Snapshot) (input : Input) : Prop :=
  env.durable = true → (env.toValue snapshot).isSome = true ∧ input.record = .stored

section DurableWrite
variable (env : Env Snapshot Json) (action : Action) (actorIp refusal : String) (snapshot : Snapshot)
  (inputs : Nat → Input) (state : AppState Snapshot Json)

theorem recordRevision_unchanged : Unchanged state
      (execute machine (recordRevision env action actorIp refusal snapshot) inputs state).world := by
  unfold recordRevision
  cases env.durable with
  | false => exact .refl state
  | true =>
    cases env.toValue snapshot with
    | none => exact .refl state
    | some value =>
      cases hfate : (inputs 0).record with
      | stored | refused | replyLost => constructor <;> simp [perform,execute_call,machine,exec,hfate]

theorem recordRevision_rejects {response : Response Snapshot}
    (hended : (execute machine (recordRevision env action actorIp refusal snapshot) inputs state).value =
      some response) : 400 ≤ response.status := by
  have hfailed : response.status = 500 ∨ response.status = 503 := by
    unfold recordRevision at hended
    cases hdurable : env.durable with
    | false => simp [hdurable] at hended
    | true =>
      cases hvalue : env.toValue snapshot with
      | none =>
        simp only [hdurable,hvalue,if_true,Process.pure_eq,execute_done] at hended
        exact .inl (congrArg Response.status (Option.some.inj hended)).symm
      | some value =>
        cases hfate : (inputs 0).record with
        | stored => simp [hdurable,hvalue,perform,execute_call,machine,exec,hfate] at hended
        | refused | replyLost =>
          simp only [hdurable,hvalue,if_true,perform,Process.perform_bind,execute_call,machine,exec,
            hfate,Bool.false_eq_true,if_false,Process.pure_eq,execute_done] at hended
          exact .inr (congrArg Response.status (Option.some.inj hended)).symm
  omega

theorem recordRevision_passes_iff :
    (execute machine (recordRevision env action actorIp refusal snapshot) inputs state).value = none ↔
      Recorded env snapshot (inputs 0) := by
  unfold recordRevision Recorded
  cases hdurable : env.durable with
  | false => simp
  | true =>
    cases hvalue : env.toValue snapshot with
    | none => simp
    | some value =>
      cases hfate : (inputs 0).record with
      | stored | refused | replyLost => simp [perform,execute_call,machine,exec,hfate]

end DurableWrite

/-! ## Reads and pushes -/

theorem postConfig_rejectsCleanly (env : Env Snapshot Json) (request : PostRequest Snapshot)
    (inputs : Nat → Input) (state : AppState Snapshot Json) :
    RejectsCleanly (postConfig env request) inputs state := by
  unfold postConfig
  cases refuseAdmin request.admin with
  | some response => exact rejectsCleanly_pure response
  | none =>
    cases request.body with
    | error message => exact rejectsCleanly_pure _
    | ok parsed =>
      -- the lock is taken and released only to compute the diff
      refine rejectsCleanly_bind ⟨rfl,rfl,rfl,rfl⟩ fun inputs => ?_
      refine rejectsCleanly_bind ⟨rfl,rfl,rfl,rfl⟩ fun inputs => ?_
      refine rejectsCleanly_bind ⟨rfl,rfl,rfl,rfl⟩ fun inputs => ?_
      cases request.dryRun with
      | true => exact rejectsCleanly_pure _
      | false =>
        cases (env.validateConfig (env.withJwtSecret parsed)).valid with
        | false => exact rejectsCleanly_pure _
        | true =>
          refine rejectsCleanly_bind (recordRevision_unchanged ..) fun inputs => ?_
          cases (execute machine (recordRevision env _ _ _ _) _ _).value with
          | some response => exact rejectsCleanly_pure response
          | none =>
            intro hstatus
            rw [execute_bind] at hstatus
            exact absurd (show 400 ≤ 200 from hstatus) (by omega)

/-! ## Rollbacks -/

def Admitted (request : AdminRequest) : Prop := request.withinRateLimit = true ∧ request.signatureValid = true

variable {request : AdminRequest}

theorem refuseAdmin_of_admitted (hadmitted : Admitted request) :
    (refuseAdmin request : Option (Response Snapshot)) = none := by
  simp [refuseAdmin, hadmitted.1, hadmitted.2]

theorem refuseAdmin_of_not_admitted (Snapshot : Type) (hrefused : ¬Admitted request) :
    ∃ response, (refuseAdmin request : Option (Response Snapshot)) = some response := by
  cases hlimit : request.withinRateLimit with
  | false => simp [refuseAdmin,hlimit]
  | true =>
    cases hsignature : request.signatureValid with
    | false => simp [refuseAdmin,hlimit,hsignature]
    | true => exact absurd ⟨hlimit,hsignature⟩ hrefused

def rollbackRecordAt : Nat := 9

section
variable (env : Env Snapshot Json) (inputs : Nat → Input) (state : AppState Snapshot Json)

def activated : AppState Snapshot Json :=
  let prev := state.store.pop.current
  let event := newConfigEvent (state.revision + 1) (env.version prev) (inputs 6).nowSecs
  { state with
    live := prev
    store := state.store.pop
    storeLocked := false
    revision := state.revision + 1
    events := appendRing state.events event
    broadcasts := state.broadcasts ++ [event] }

section
variable (env : Env Snapshot Json)

def recordRollback (request : AdminRequest) (prev : Snapshot) :
    Handler Snapshot Json (Option (Response Snapshot)) :=
  recordRevision env .rollback request.actorIp
    "Config store (Postgres) unavailable — rollback rejected" prev

/-- A rollback has published its revision before its durable write, which then
decides the response. -/
theorem execute_rollbackConfig (hadmitted : Admitted request)
    (inputs : Nat → Input) (state : AppState Snapshot Json) :
    let recording := execute machine (recordRollback env request state.store.pop.current)
      (fun position => inputs (position + rollbackRecordAt)) (activated env inputs state)
    (execute machine (rollbackConfig env request) inputs state).world = recording.world ∧
      (execute machine (rollbackConfig env request) inputs state).value = recording.value.getD
        ⟨200,.rolledBack (env.version state.store.pop.current) (state.revision + 1)⟩ := by
  intro recording
  unfold rollbackConfig
  rw [refuseAdmin_of_admitted hadmitted]
  simp only [perform,Process.perform_bind,publishRevision,Process.call_bind,execute_call,machine,exec,
    Process.pure_eq,Process.done_bind]
  rw [execute_bind]
  generalize hrecording : execute _ (recordRevision _ _ _ _ _) _ _ = executed
  have hsame : recording = executed := hrecording
  rw [hsame]
  cases executed with
  | mk value world log =>
    cases value with
    | none | some response => exact ⟨rfl,rfl⟩

theorem rollbackConfig_rejectsCleanly_iff (request : AdminRequest)
    (inputs : Nat → Input) (state : AppState Snapshot Json) :
    RejectsCleanly (rollbackConfig env request) inputs state ↔
      (Admitted request → Recorded env state.store.pop.current (inputs rollbackRecordAt)) := by
  by_cases hadmitted : Admitted request
  · have hexecution := execute_rollbackConfig env hadmitted inputs state
    have hpasses : _ ↔ Recorded env state.store.pop.current (inputs (0 + rollbackRecordAt)) :=
      recordRevision_passes_iff env .rollback request.actorIp
        "Config store (Postgres) unavailable — rollback rejected" state.store.pop.current
        (fun position => inputs (position + rollbackRecordAt)) (activated env inputs state)
    have hkept := (recordRevision_unchanged env .rollback request.actorIp
      "Config store (Postgres) unavailable — rollback rejected" state.store.pop.current
      (fun position => inputs (position + rollbackRecordAt)) (activated env inputs state)).revision
    rw [Nat.zero_add] at hpasses
    rw [forall_prop_of_true hadmitted,← hpasses]
    unfold RejectsCleanly
    rw [hexecution.1,hexecution.2]
    unfold recordRollback
    cases hended : (execute machine (recordRevision env .rollback request.actorIp
      "Config store (Postgres) unavailable — rollback rejected" state.store.pop.current)
      (fun position => inputs (position + rollbackRecordAt)) (activated env inputs state)).value with
    | none =>
      refine ⟨fun _ => rfl,fun _ hstatus => ?_⟩
      exact absurd (show 400 ≤ 200 from hstatus) (by omega)
    | some response =>
      -- the counter has moved, and the durable write did not move it back
      refine ⟨fun hclean => ?_,fun hnone => by contradiction⟩
      have hsame := (hclean (recordRevision_rejects _ _ _ _ _ _ _ hended)).revision
      rw [hkept] at hsame
      exact absurd (show state.revision + 1 = state.revision from hsame) (by omega)
  · obtain ⟨response,hrefused⟩ := refuseAdmin_of_not_admitted Snapshot hadmitted
    have hclean : RejectsCleanly (rollbackConfig env request) inputs state := by
      unfold rollbackConfig
      rw [hrefused]
      exact rejectsCleanly_pure response
    exact ⟨fun _ hadmits => absurd hadmits hadmitted,fun _ => hclean⟩

end

/-! ## Every mutation -/

/-- An admitted rollback gets its durable row; the other requests need nothing. -/
def RollbackRecorded : Request Snapshot → Prop
  | .rollback request =>
    Admitted request → Recorded env state.store.pop.current (inputs rollbackRecordAt)
  | .get _ | .post _ => True

end

/-- A push that is rejected for whatever reason changes nothing. A rollback is
rejected cleanly unless only its durable write fails. -/
theorem rejected_unchanged_iff_rollbackRecorded (env : Env Snapshot Json) (request : Request Snapshot)
    (inputs : Nat → Input) (state : AppState Snapshot Json) :
    (400 ≤ (execute machine (handle env request) inputs state).value.status →
      Unchanged state (execute machine (handle env request) inputs state).world) ↔
      RollbackRecorded env inputs state request := by
  cases request with
  | get readTokenValid =>
    refine iff_of_true (fun _ => ?_) trivial
    cases readTokenValid with
    | false | true => exact .refl state
  | post request => exact iff_of_true (postConfig_rejectsCleanly env request inputs state) trivial
  | rollback request => exact rollbackConfig_rejectsCleanly_iff env request inputs state

/-- Postgres refuses the row of the rollback. -/
theorem refused_rollback_stays_active :
    let execution := execute machine
      (handle { sampleEnv with durable := true } (.rollback ⟨true,true,"10.0.0.1"⟩)) (fun _ => ⟨7,.refused⟩) sampleState
    execution.value = ⟨503,.text "Config store (Postgres) unavailable — rollback rejected"⟩ ∧
      sampleState.live = "v2" ∧ execution.world.live = "v1" ∧
      sampleState.store.history = ["v1","v2"] ∧ execution.world.store.history = ["v1"] ∧
      sampleState.revision = 2 ∧ execution.world.revision = 3 ∧
      sampleState.events = [] ∧ execution.world.events = [⟨3,"v1",7,"FULL_SYNC"⟩] := by
  decide +kernel

end Routiq.ControlPlane.Rejections
