import Routiq.ControlPlane.Handlers

/-! How far a request has got with the shared configuration: whether it holds
the lock of the rollback stack, and which of its loads and stores are done. -/
namespace Routiq.ControlPlane.Stages
open Core.Processes Store Handlers

variable {Snapshot Json : Type}

inductive Phase (Snapshot : Type) where
  | outside
  /-- A read between its two loads. -/
  | loaded (snapshot : Snapshot)
  | labelled (snapshot : Snapshot) (revision : Nat)
  /-- A mutation that has changed the stack; the configuration it is going to
  activate is unknown until a rollback has read it back. -/
  | changed (target : Option Snapshot)
  /-- A mutation that has stored its configuration and not bumped the counter. -/
  | stored

structure Stage (Snapshot : Type) where
  holdsLock : Bool
  phase : Phase Snapshot

def Stage.idle : Stage Snapshot := ⟨false,.outside⟩

section
variable (stage : Stage Snapshot)

def Stage.Changing : Prop :=
  stage.phase = .stored ∨ ∃ target, stage.phase = .changed target

def Stage.next : (command : Command Snapshot Json) → Answer command → Stage Snapshot
  | .loadLive, snapshot => { stage with phase := .loaded snapshot }
  | .loadRevision, revision =>
    match stage.phase with
    | .loaded snapshot => { stage with phase := .labelled snapshot revision }
    | _ => stage
  | .storeLive _, _ => { stage with phase := .stored }
  | .fetchAddRevision, _ => { stage with phase := .outside }
  | .lockStore, _ => { stage with holdsLock := true }
  | .unlockStore, _ => { stage with holdsLock := false }
  | .currentConfig, current =>
    match stage.phase with
    | .changed none => { stage with phase := .changed (some current) }
    | _ => stage
  | .pushConfig snapshot, _ => { stage with phase := .changed (some snapshot) }
  | .popConfig, _ => { stage with phase := .changed none }
  | _, _ => stage

def Stage.Allowed : Command Snapshot Json → Prop
  | .loadLive => stage.phase = .outside
  | .storeLive snapshot => stage.phase = .changed (some snapshot)
  | .fetchAddRevision => stage.phase = .stored
  | .lockStore => stage.holdsLock = false
  | .unlockStore => stage.holdsLock = true
  | .pushConfig _ => stage.holdsLock = true ∧ stage.phase = .outside
  | .popConfig => stage.holdsLock = true ∧ stage.phase = .outside
  | _ => True

end

def protocol : Protocol (Command Snapshot Json) Answer (Stage Snapshot) where
  next := .next
  allowed := Stage.Allowed
  possible _ _ := True

theorem machine_serves : Protocol.Serves (machine : Machine (Command Snapshot Json) Answer _ _) protocol :=
  fun _ _ _ => trivial

variable {stage : Stage Snapshot}

variable (Json) (stage) in
theorem next_loadRevision_cases (revision : Nat) :
    (∃ snapshot, stage.phase = .loaded snapshot ∧ stage.next (.loadRevision : Command Snapshot Json) revision =
      ⟨stage.holdsLock,.labelled snapshot revision⟩) ∨
    stage.next (.loadRevision : Command Snapshot Json) revision = stage := by
  cases hphase : stage.phase with
  | loaded snapshot => exact .inl ⟨snapshot,rfl,by simp only [Stage.next,hphase]⟩
  | outside | labelled _ _ | changed _ | stored => exact .inr (by simp only [Stage.next,hphase])

variable (Json) (stage) in
theorem next_currentConfig_cases (current : Snapshot) :
    stage.phase = .changed none ∧ stage.next (.currentConfig : Command Snapshot Json) current =
      ⟨stage.holdsLock,.changed (some current)⟩ ∨
    stage.next (.currentConfig : Command Snapshot Json) current = stage := by
  cases hphase : stage.phase with
  | changed target =>
    cases target with
    | none => exact .inl ⟨rfl,by simp only [Stage.next,hphase]⟩
    | some target => exact .inr (by simp only [Stage.next,hphase])
  | outside | loaded _ | labelled _ _ | stored => exact .inr (by simp only [Stage.next,hphase])

theorem not_changing_of_outside (hphase : stage.phase = .outside) : ¬stage.Changing := by
  simp [Stage.Changing,hphase]

/-- A finished request holds no lock and has no unpublished change, and an
envelope it served pairs what its two loads returned. -/
def Settled (stage : Stage Snapshot) (response : Response Snapshot) : Prop := stage.holdsLock = false ∧
    match response.body with
    | .envelope content => stage.phase = .labelled content.snapshot content.revision
    | _ => stage.phase = .outside

variable {response : Response Snapshot}

theorem settled_text {message : String} (htext : response.body = .text message) : Settled .idle response := by
  simp [Settled,htext,Stage.idle]

theorem not_changing_of_settled (hsettled : Settled stage response) : ¬stage.Changing := by
  unfold Settled at hsettled
  cases hbody : response.body with
  | envelope content =>
    rw [hbody] at hsettled
    simp [Stage.Changing,hsettled.2]
  | text | dryRun | validationFailed | applied | rolledBack =>
    rw [hbody] at hsettled
    exact not_changing_of_outside hsettled.2

/-! ## Every handler follows the stages -/

theorem getConfig_follows (readTokenValid : Bool) : protocol.Follows Settled .idle
      (getConfig readTokenValid : Handler Snapshot Json (Response Snapshot)) := by
  cases readTokenValid with
  | false => simp [getConfig,Settled,Stage.idle]
  | true => simp [getConfig,perform,Settled,protocol,Stage.next,Stage.Allowed,Stage.idle]

variable (env : Env Snapshot Json)

theorem recordRevision_follows (action : Action) (actorIp refusal : String) (snapshot : Snapshot)
    (stage : Stage Snapshot) : protocol.Follows
      (fun after ended => after = stage ∧ ∀ response ∈ ended, ∃ message, response.body = .text message)
      stage (recordRevision env action actorIp refusal snapshot) := by
  unfold recordRevision
  cases env.durable with
  | false => simp
  | true =>
    cases env.toValue snapshot with
    | none => simp
    | some value => simp [perform,protocol,Stage.next,Stage.Allowed]

theorem publishRevision_follows (version : String) (holdsLock : Bool) :
    protocol.Follows (fun after _ => after = ⟨holdsLock,.outside⟩) ⟨holdsLock,.stored⟩
      (publishRevision version : Handler Snapshot Json ConfigEvent) := by
  simp [publishRevision,perform,protocol,Stage.next,Stage.Allowed]

theorem applyConfig_follows (snapshot : Snapshot) :
    protocol.Follows (fun after _ => after = .idle) .idle (applyConfig env snapshot) := by
  simp only [applyConfig,perform,Process.perform_bind,Protocol.follows_call,Protocol.follows_bind]
  refine ⟨rfl,fun _ _ => ⟨⟨rfl,rfl⟩,fun _ _ => ⟨rfl,fun _ _ => ?_⟩⟩⟩
  refine (publishRevision_follows _ true).mono fun after event hafter => ?_
  subst hafter
  exact ⟨rfl,fun _ _ => rfl⟩

theorem refuseAdmin_text {request : AdminRequest} (hrefused : refuseAdmin request = some response) :
    ∃ message, response.body = .text message := by
  unfold refuseAdmin at hrefused
  cases hlimit : request.withinRateLimit with
  | false =>
    rw [hlimit] at hrefused
    exact ⟨_,(congrArg Response.body (Option.some.inj hrefused)).symm⟩
  | true =>
    cases hsignature : request.signatureValid with
    | false =>
      rw [hlimit,hsignature] at hrefused
      exact ⟨_,(congrArg Response.body (Option.some.inj hrefused)).symm⟩
    | true =>
      rw [hlimit,hsignature] at hrefused
      contradiction

theorem rollbackConfig_follows (request : AdminRequest) :
    protocol.Follows Settled .idle (rollbackConfig env request) := by
  unfold rollbackConfig
  cases hrefused : refuseAdmin request with
  | some response =>
    obtain ⟨message,htext⟩ := refuseAdmin_text hrefused
    exact settled_text htext
  | none =>
    simp only [perform,Process.perform_bind,Protocol.follows_call,Protocol.follows_bind]
    refine ⟨rfl,fun _ _ => ⟨⟨rfl,rfl⟩,fun _ _ => ⟨trivial,fun prev _ => ⟨rfl,fun _ _ =>
      ⟨rfl,fun _ _ => ?_⟩⟩⟩⟩⟩
    refine (publishRevision_follows _ false).mono fun after event hafter => ?_
    subst hafter
    refine (recordRevision_follows env _ _ _ _ _).mono fun after ended hended => ?_
    rw [hended.1]
    cases ended with
    | none => exact ⟨rfl,rfl⟩
    | some response =>
      obtain ⟨message,htext⟩ := hended.2 response rfl
      exact settled_text htext

theorem postConfig_follows (request : PostRequest Snapshot) :
    protocol.Follows Settled .idle (postConfig env request) := by
  unfold postConfig
  cases hrefused : refuseAdmin request.admin with
  | some response =>
    obtain ⟨message,htext⟩ := refuseAdmin_text hrefused
    exact settled_text htext
  | none =>
    cases request.body with
    | error message => exact settled_text rfl
    | ok parsed =>
      simp only [perform,Process.perform_bind,Protocol.follows_call]
      refine ⟨rfl,fun _ _ => ⟨trivial,fun current _ => ⟨rfl,fun _ _ => ?_⟩⟩⟩
      -- the section that computes the diff leaves no trace in the stage
      change protocol.Follows Settled .idle _
      cases request.dryRun with
      | true => exact ⟨rfl,rfl⟩
      | false =>
        cases hvalid : (env.validateConfig (env.withJwtSecret parsed)).valid with
        | false => exact ⟨rfl,rfl⟩
        | true =>
          simp only [Bool.false_eq_true,if_false,Bool.not_true,Protocol.follows_bind]
          refine (recordRevision_follows env _ _ _ _ _).mono fun after ended hended => ?_
          rw [hended.1]
          cases ended with
          | some response =>
            obtain ⟨message,htext⟩ := hended.2 response rfl
            exact settled_text htext
          | none =>
            simp only [Protocol.follows_bind]
            refine (applyConfig_follows env _).mono fun after event hafter => ?_
            rw [hafter]
            exact ⟨rfl,rfl⟩

theorem handle_follows (request : Request Snapshot) :
    protocol.Follows Settled .idle (handle env request) := by
  cases request with
  | get readTokenValid => exact getConfig_follows readTokenValid
  | post request => exact postConfig_follows env request
  | rollback request => exact rollbackConfig_follows env request

end Routiq.ControlPlane.Stages
