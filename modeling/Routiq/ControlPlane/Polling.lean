import Routiq.ControlPlane.ServedRevisions

/-! The sidecar that polls the control plane and writes what it serves to the
file of the edge. It takes a configuration for new if its version string is
another one than that of the last configuration it wrote. -/
namespace Routiq.ControlPlane.Polling
open Core.Runs Core.Processes Handlers

variable {Snapshot Json : Type}

def shouldUpdateConfig (currentVersion newVersion : String) : Bool :=
  !newVersion.isEmpty && newVersion != currentVersion

structure Poller (Snapshot : Type) where
  currentVersion : String
  file : Option (SnapshotEnvelope Snapshot)

/-- One turn of the loop: `none` is a control plane out of reach, `written` says
whether the file could be replaced. -/
def poll (env : Env Snapshot Json) (response : Option (Response Snapshot)) (written : Bool)
    (poller : Poller Snapshot) : Poller Snapshot :=
  match response with
  | some ⟨200,.envelope content⟩ =>
    let newVersion := env.version content.snapshot
    if shouldUpdateConfig poller.currentVersion newVersion && written then ⟨newVersion,some content⟩
    else poller
  | _ => poller

structure Deployment (Snapshot Json : Type) where
  app : AppState Snapshot Json
  poller : Poller Snapshot

inductive Event (Snapshot : Type) where
  | request (request : Request Snapshot) (inputs : Nat → Input)
  | poll (inputs : Nat → Input)

section
variable (env : Env Snapshot Json) (deployment : Deployment Snapshot Json)

/-- The control plane answers and the file can be written. -/
def step :
    Event Snapshot → Deployment Snapshot Json
  | .request request inputs =>
    { deployment with app := (execute machine (handle env request) inputs deployment.app).world }
  | .poll inputs =>
    { deployment with
      poller := poll env (some (execute machine (handle env (.get true)) inputs deployment.app).value) true
        deployment.poller }

def start (app : AppState Snapshot Json) : Deployment Snapshot Json := ⟨app,⟨"",none⟩⟩

def Converges : Prop :=
  ∃ polls, ∀ later : List (Nat → Input), polls ≤ later.length →
    (run (step env) deployment (later.map .poll)).poller.file.map (·.snapshot) = some deployment.app.live

end

section
variable {env : Env Snapshot Json} {deployment : Deployment Snapshot Json}

theorem step_poll (inputs : Nat → Input) : step env deployment (.poll inputs) =
    if shouldUpdateConfig deployment.poller.currentVersion (env.version deployment.app.live) then
      ⟨deployment.app,⟨env.version deployment.app.live,
        some ⟨deployment.app.live,deployment.app.revision,(inputs 2).nowSecs⟩⟩⟩ else deployment := by
  simp only [step,handle,getConfig,perform,poll,Bool.and_true]
  exact apply_ite (Deployment.mk deployment.app) _ _ _

theorem run_polls_settled
    (hsettled : shouldUpdateConfig deployment.poller.currentVersion (env.version deployment.app.live) = false)
    (later : List (Nat → Input)) : run (step env) deployment (later.map .poll) = deployment := by
  induction later with
  | nil => rfl
  | cons inputs later ih =>
    rw [List.map_cons,run_cons,step_poll,if_neg (by simp [hsettled])]
    exact ih

theorem run_polls (inputs : Nat → Input) (later : List (Nat → Input)) :
    (run (step env) deployment ((inputs :: later).map .poll)).poller.file.map (·.snapshot) =
      if shouldUpdateConfig deployment.poller.currentVersion (env.version deployment.app.live) then
        some deployment.app.live else deployment.poller.file.map (·.snapshot) := by
  rw [List.map_cons,run_cons,step_poll]
  split
  · rw [run_polls_settled (by simp [shouldUpdateConfig])]
    rfl
  next hsettled => rw [run_polls_settled (Bool.eq_false_iff.mpr hsettled)]

theorem converges_iff_reaches : Converges env deployment ↔
    shouldUpdateConfig deployment.poller.currentVersion (env.version deployment.app.live) = true ∨
      deployment.poller.file.map (·.snapshot) = some deployment.app.live := by
  constructor
  · rintro ⟨polls,hlater⟩
    have hreached := hlater (List.replicate (polls + 1) fun _ => ⟨0,.stored⟩) (by simp)
    rw [List.replicate_succ,run_polls] at hreached
    split at hreached
    next hupdate => exact .inl hupdate
    · exact .inr hreached
  · intro hreaches
    refine ⟨1,?_⟩
    intro later hlength
    cases later with
    | nil => contradiction
    | cons inputs later =>
      rw [run_polls]
      split
      · rfl
      next hsettled => exact hreaches.resolve_left hsettled

/-- The sidecar remembers the version of what it wrote. -/
def Remembers (env : Env Snapshot Json) (deployment : Deployment Snapshot Json) : Prop :=
  (deployment.poller.file = none ∧ deployment.poller.currentVersion = "") ∨
    ∃ content, deployment.poller.file = some content ∧
      deployment.poller.currentVersion = env.version content.snapshot ∧ env.version content.snapshot ≠ ""

theorem remembers_step (event : Event Snapshot) (hremembers : Remembers env deployment) :
    Remembers env (step env deployment event) := by
  cases event with
  | request request inputs => exact hremembers
  | poll inputs =>
    rw [step_poll]
    split
    next hupdate =>
      refine .inr ⟨_,rfl,rfl,?_⟩
      intro hempty
      rw [shouldUpdateConfig,hempty] at hupdate
      contradiction
    · exact hremembers

end

/-- The file follows exactly if the live configuration has a version and is not
another one of the version that the file already has. -/
theorem converges_iff (env : Env Snapshot Json) (app : AppState Snapshot Json) (history : List (Event Snapshot)) :
    let deployment := run (step env) (start app) history
    Converges env deployment ↔ env.version deployment.app.live ≠ "" ∧
      ∀ content, deployment.poller.file = some content →
        env.version content.snapshot = env.version deployment.app.live → content.snapshot = deployment.app.live := by
  intro deployment
  have hstart : Remembers env (start app) := .inl ⟨rfl,rfl⟩
  have hremembers : Remembers env deployment :=
    invariant_run_always (fun _ event => remembers_step event) history hstart
  clear_value deployment
  rw [converges_iff_reaches,shouldUpdateConfig,Bool.and_eq_true,Bool.not_eq_true',String.isEmpty_eq_false_iff,bne_iff_ne]
  rcases hremembers with ⟨hfile,hversion⟩ | ⟨content,hfile,hversion,hnonempty⟩
  · simp [hfile,hversion]
  · simp only [hfile,hversion,Option.map_some,Option.some.injEq,forall_eq']
    grind

/-! Two configurations of one version. -/

def unversionedEnv : Env String String := { ServedRevisions.sampleEnv with version := fun _ => "v2" }

theorem second_post_never_written :
    let deployment := run (step unversionedEnv) (start ServedRevisions.sampleState)
      [.poll fun _ => ⟨7,.stored⟩,
        .request (.post ⟨⟨true,true,"10.0.0.1"⟩,.ok "changed",false⟩) fun _ => ⟨8,.stored⟩,
        .poll fun _ => ⟨9,.stored⟩,.poll fun _ => ⟨10,.stored⟩]
    deployment.app.live = "changed" ∧ deployment.poller.file = some ⟨"v2",2,7⟩ ∧
      ¬Converges unversionedEnv deployment := by
  intro deployment
  have hlive : deployment.app.live = "changed" := by decide +kernel
  have hfile : deployment.poller.file = some ⟨"v2",2,7⟩ := by decide +kernel
  refine ⟨hlive,hfile,?_⟩
  rintro ⟨polls,hlater⟩
  have hkept := hlater (List.replicate polls fun _ => ⟨0,.stored⟩) (by simp)
  rw [run_polls_settled (by decide +kernel),hfile,hlive] at hkept
  contradiction

end Routiq.ControlPlane.Polling
