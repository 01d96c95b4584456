import Routiq.Core.Runs

/-! The config sync agent that runs beside an edge: what it accepts of a served
configuration, when it activates one, and which change events make it fetch. -/
namespace Routiq.ControlPlane.Sidecar
open Core.Runs

variable {Json : Type}

/-- The fields of a served body that the agent reads, as far as they are there
with the right type; `routes` and `services` are counts. -/
structure JsonView (Json : Type) where
  version : Json → Option String
  (routes services revision : Json → Option Nat)

/-- The revision and the version of a body that may be activated. A missing
revision counts as 0: a server that predates revisions. -/
def validateSnapshot (view : JsonView Json) (json : Json) : Except String (Nat × String) :=
  let version := (view.version json).getD ""
  if version.isEmpty then .error "snapshot missing version"
  else if (view.routes json).getD 0 = 0 then .error "snapshot has no routes"
  else if (view.services json).getD 0 = 0 then .error "snapshot has no services"
  else .ok ((view.revision json).getD 0,version)

structure SyncState where
  currentRevision : Nat
  lastVersion : String
deriving DecidableEq

structure Agent (Json : Type) where
  sync : SyncState
  file : Option Json
deriving DecidableEq

def Agent.initial : Agent Json := ⟨⟨0,""⟩,none⟩

def upToDate (sync : SyncState) (revision : Nat) (version : String) : Bool :=
  if sync.currentRevision = 0 ∧ sync.lastVersion.isEmpty then false
  else if revision = 0 then version = sync.lastVersion
  else revision ≤ sync.currentRevision

/-- One fetch. The response is an error when the request fails or the body is
not JSON, `written` says whether the file could be replaced. -/
def fetchAndApply (view : JsonView Json) (agent : Agent Json) (reason : String)
    (response : Except String Json) (written : Except String Unit) :
    Except String (Option (Nat × String)) × Agent Json :=
  match response with
  | .error message => (.error message,agent)
  | .ok json =>
    match validateSnapshot view json with
    | .error message => (.error ("snapshot rejected (" ++ reason ++ "): " ++ message),agent)
    | .ok (revision,version) =>
      if upToDate agent.sync revision version then (.ok none,agent)
      else
        match written with
        | .error message => (.error message,agent)
        | .ok _ => (.ok (some (revision,version)),⟨⟨revision,version⟩,some json⟩)

inductive RevisionDecision where
  | ignore | fetch
deriving DecidableEq

def decideRevision (current received : Nat) : RevisionDecision :=
  if received > current then .fetch else .ignore

variable {current received : Nat}

theorem fetchAndApply_cases (view : JsonView Json) (agent : Agent Json) (reason : String)
    (response : Except String Json) (written : Except String Unit) :
    (fetchAndApply view agent reason response written).2 = agent ∨
      ∃ json revision version, response = .ok json ∧ validateSnapshot view json = .ok (revision,version) ∧
        (fetchAndApply view agent reason response written).2 = ⟨⟨revision,version⟩,some json⟩ := by
  cases response with
  | error message => exact .inl rfl
  | ok json =>
    unfold fetchAndApply
    dsimp only
    cases hvalid : validateSnapshot view json with
    | error message => exact .inl rfl
    | ok accepted =>
      dsimp only
      by_cases hcurrent : upToDate agent.sync accepted.1 accepted.2 = true
      · rw [if_pos hcurrent]
        exact .inl rfl
      · rw [if_neg hcurrent]
        cases written with
        | error message => exact .inl rfl
        | ok _ => exact .inr ⟨json,accepted.1,accepted.2,rfl,hvalid,rfl⟩

variable {view : JsonView Json}

theorem validateSnapshot_revision {json : Json} {revision : Nat} {version : String}
    (hvalid : validateSnapshot view json = .ok (revision,version)) :
    revision = (view.revision json).getD 0 := by
  unfold validateSnapshot at hvalid
  by_cases hversion : ((view.version json).getD "").isEmpty = true
  · rw [if_pos hversion] at hvalid
    contradiction
  rw [if_neg hversion] at hvalid
  by_cases hroutes : (view.routes json).getD 0 = 0
  · rw [if_pos hroutes] at hvalid
    contradiction
  rw [if_neg hroutes] at hvalid
  by_cases hservices : (view.services json).getD 0 = 0
  · rw [if_pos hservices] at hvalid
    contradiction
  rw [if_neg hservices] at hvalid
  exact (congrArg Prod.fst (Except.ok.inj hvalid)).symm

structure Fetch (Json : Type) where
  reason : String
  response : Except String Json
  written : Except String Unit

def agentStep (view : JsonView Json) (agent : Agent Json) (fetch : Fetch Json) : Agent Json :=
  (fetchAndApply view agent fetch.reason fetch.response fetch.written).2

section
variable (view : JsonView Json) (served : Json → Prop)

/-- The file holds a body that was served, under the revision the agent
remembers. -/
def FileServed (agent : Agent Json) : Prop :=
  ∀ json, agent.file = some json → served json ∧ agent.sync.currentRevision = (view.revision json).getD 0

end

variable {served : Json → Prop} {agent : Agent Json}

theorem fileServed_step {fetch : Fetch Json}
    (hserved : ∀ json, fetch.response = .ok json → served json) (hagent : FileServed view served agent) :
    FileServed view served (agentStep view agent fetch) := by
  unfold agentStep
  rcases fetchAndApply_cases view agent fetch.reason fetch.response fetch.written with
    hkept | ⟨body,revision,version,hbody,hvalid,hactive⟩
  · rw [hkept]
    exact hagent
  · rw [hactive]
    intro json hfile
    obtain rfl := Option.some.inj hfile
    exact ⟨hserved body hbody,validateSnapshot_revision hvalid⟩

theorem fileServed_run {fetches : List (Fetch Json)}
    (hserved : ∀ fetch ∈ fetches, ∀ json, fetch.response = .ok json → served json)
    (hagent : FileServed view served agent) :
    FileServed view served (run (agentStep view) agent fetches) := by
  induction fetches generalizing agent with
  | nil => exact hagent
  | cons fetch fetches ih =>
    apply ih
    · intro later hmem
      exact hserved later (List.mem_cons_of_mem _ hmem)
    · exact fileServed_step (hserved fetch List.mem_cons_self) hagent

end Routiq.ControlPlane.Sidecar
