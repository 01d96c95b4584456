import Routiq.Core.Processes
import Routiq.ControlPlane.Store

/-! The configuration endpoints of the control plane. Every access to the
shared state is one command: a load or store of the live configuration, an
operation on the revision counter, taking or releasing the lock of the rollback
stack, appending to the event ring, a row written to the durable table. -/
namespace Routiq.ControlPlane.Handlers
open Core.Processes Store

variable {Snapshot Json : Type}

/-! ## Shared state -/

inductive Action where
  | apply | rollback | seed
deriving DecidableEq

structure Revision (Json : Type) where
  version : String
  action : Action
  actorIp : String
  snapshot : Json
deriving DecidableEq

structure AppState (Snapshot Json : Type) where
  live : Snapshot
  store : ConfigStore Snapshot
  storeLocked : Bool
  revision : Nat
  (events broadcasts : List ConfigEvent)
  /-- The durable table, oldest row first. -/
  revisions : List (Revision Json)

inductive Command (Snapshot Json : Type) where
  | nowSecs | loadLive
  | storeLive (snapshot : Snapshot)
  | loadRevision | fetchAddRevision | lockStore | unlockStore | currentConfig
  | pushConfig (snapshot : Snapshot)
  | popConfig
  | appendEvent (event : ConfigEvent)
  | broadcast (event : ConfigEvent)
  | record (row : Revision Json)

/-- Whether a durable write succeeds, is refused, or is stored although its
reply is lost. -/
inductive RecordFate where
  | stored | refused | replyLost
deriving DecidableEq

structure Input where
  nowSecs : Nat
  record : RecordFate
deriving DecidableEq

abbrev Answer : Command Snapshot Json → Type
  | .nowSecs => Nat
  | .loadLive => Snapshot
  | .storeLive _ => Unit
  | .loadRevision => Nat
  | .fetchAddRevision => Nat
  | .lockStore => Unit
  | .unlockStore => Unit
  | .currentConfig => Snapshot
  | .pushConfig _ => Unit
  | .popConfig => Unit
  | .appendEvent _ => Unit
  | .broadcast _ => Unit
  | .record _ => Bool

def ready (state : AppState Snapshot Json) : Command Snapshot Json → Bool
  | .lockStore => !state.storeLocked
  | _ => true

def exec (input : Input) (state : AppState Snapshot Json) :
    (command : Command Snapshot Json) → Answer command × AppState Snapshot Json
  | .nowSecs => (input.nowSecs,state)
  | .loadLive => (state.live,state)
  | .storeLive snapshot => ((),{ state with live := snapshot })
  | .loadRevision => (state.revision,state)
  | .fetchAddRevision => (state.revision,{ state with revision := state.revision + 1 })
  | .lockStore => ((),{ state with storeLocked := true })
  | .unlockStore => ((),{ state with storeLocked := false })
  | .currentConfig => (state.store.current,state)
  | .pushConfig snapshot => ((),{ state with store := state.store.push snapshot })
  | .popConfig => ((),{ state with store := state.store.pop })
  | .appendEvent event => ((),{ state with events := appendRing state.events event })
  | .broadcast event => ((),{ state with broadcasts := state.broadcasts ++ [event] })
  | .record row =>
    match input.record with
    | .stored => (true,{ state with revisions := state.revisions ++ [row] })
    | .refused => (false,state)
    | .replyLost => (false,{ state with revisions := state.revisions ++ [row] })

def machine : Machine (Command Snapshot Json) Answer (AppState Snapshot Json) Input := ⟨ready,exec⟩

/-! ## Requests and responses -/

structure ValidationReport where
  valid : Bool
  (errors warnings : List String)
deriving DecidableEq

structure DiffReport where
  (routesAdded routesRemoved routesChanged servicesAdded servicesRemoved : List String)
  (servicesChanged canaryChanged : List String)
  healthCheckChanged : Bool
deriving DecidableEq

structure SnapshotEnvelope (Snapshot : Type) where
  snapshot : Snapshot
  (revision timestamp : Nat)
deriving DecidableEq

inductive Body (Snapshot : Type) where
  | text (message : String)
  | envelope (content : SnapshotEnvelope Snapshot)
  | dryRun (version : String) (validation : ValidationReport) (diff : DiffReport)
  | validationFailed (validation : ValidationReport) (diff : DiffReport)
  | applied (version : String) (revision : Nat) (warnings : List String) (diff : DiffReport)
  | rolledBack (version : String) (revision : Nat)
deriving DecidableEq

structure Response (Snapshot : Type) where
  status : Nat
  body : Body Snapshot
deriving DecidableEq

/-- What the handlers use of a configuration and of their surroundings:
`withJwtSecret` overrides the secret from the environment, `toValue` is the
serialisation into a durable row, `durable` says whether Postgres is there. -/
structure Env (Snapshot Json : Type) where
  version : Snapshot → String
  withJwtSecret : Snapshot → Snapshot
  validateConfig : Snapshot → ValidationReport
  diffReport : Snapshot → Snapshot → DiffReport
  toValue : Snapshot → Option Json
  durable : Bool

structure AdminRequest where
  (withinRateLimit signatureValid : Bool)
  actorIp : String
deriving DecidableEq

structure PostRequest (Snapshot : Type) where
  admin : AdminRequest
  body : Except String Snapshot
  dryRun : Bool

/-! ## Handlers -/

abbrev Handler (Snapshot Json Value : Type) := Process (Command Snapshot Json) Answer Value

def perform (command : Command Snapshot Json) : Handler Snapshot Json (Answer command) :=
  Process.perform command

def getConfig (readTokenValid : Bool) : Handler Snapshot Json (Response Snapshot) := do
  if !readTokenValid then
    return ⟨401,.text "Missing or invalid X-Config-Read-Token"⟩
  let snap ← perform .loadLive
  let revision ← perform .loadRevision
  let timestamp ← perform .nowSecs
  return ⟨200,.envelope ⟨snap,revision,timestamp⟩⟩

def publishRevision (version : String) : Handler Snapshot Json ConfigEvent := do
  let previous ← perform .fetchAddRevision
  let nowSecs ← perform .nowSecs
  let event := newConfigEvent (previous + 1) version nowSecs
  perform (.appendEvent event)
  perform (.broadcast event)
  return event

variable (env : Env Snapshot Json)

/-- The durable write of a mutation; `some` is the response that ends the
request. -/
def recordRevision (action : Action) (actorIp refusal : String)
    (snapshot : Snapshot) : Handler Snapshot Json (Option (Response Snapshot)) :=
  if env.durable then
    match env.toValue snapshot with
    | none => return some ⟨500,.text "Snapshot serialization failed"⟩
    | some value => do
      let recorded ← perform (.record ⟨env.version snapshot,action,actorIp,value⟩)
      return if recorded then none else some ⟨503,.text refusal⟩
  else return none

/-- The rate limit and the signature, checked before anything else. -/
def refuseAdmin (request : AdminRequest) : Option (Response Snapshot) :=
  if !request.withinRateLimit then some ⟨429,.text "Admin rate limit exceeded"⟩
  else if !request.signatureValid then some ⟨401,.text "Missing or invalid X-Admin-Signature"⟩
  else none

/-- Activate a configuration: all of it under the lock of the stack. -/
def applyConfig (snapshot : Snapshot) : Handler Snapshot Json ConfigEvent := do
  perform .lockStore
  perform (.pushConfig snapshot)
  perform (.storeLive snapshot)
  let event ← publishRevision (env.version snapshot)
  perform .unlockStore
  return event

def postConfig (request : PostRequest Snapshot) : Handler Snapshot Json (Response Snapshot) := do
  match refuseAdmin request.admin with
  | some response => return response
  | none =>
  match request.body with
  | .error message => return ⟨400,.text ("Invalid JSON: " ++ message)⟩
  | .ok parsed =>
  let newSnap := env.withJwtSecret parsed
  let report := env.validateConfig newSnap
  perform .lockStore
  let current ← perform .currentConfig
  perform .unlockStore
  let diff := env.diffReport current newSnap
  if request.dryRun then
    return ⟨200,.dryRun (env.version newSnap) report diff⟩
  if !report.valid then
    return ⟨400,.validationFailed report diff⟩
  match ← recordRevision env .apply request.admin.actorIp
      "Config store (Postgres) unavailable — change rejected" newSnap with
  | some response => return response
  | none =>
  let event ← applyConfig env newSnap
  return ⟨200,.applied (env.version newSnap) event.revision report.warnings diff⟩

/-- The previous configuration is taken under the lock and activated after its
release. -/
def rollbackConfig (request : AdminRequest) : Handler Snapshot Json (Response Snapshot) := do
  match refuseAdmin request with
  | some response => return response
  | none =>
  perform .lockStore
  perform .popConfig
  let prev ← perform .currentConfig
  perform .unlockStore
  perform (.storeLive prev)
  let event ← publishRevision (env.version prev)
  match ← recordRevision env .rollback request.actorIp
      "Config store (Postgres) unavailable — rollback rejected" prev with
  | some response => return response
  | none => return ⟨200,.rolledBack (env.version prev) event.revision⟩

inductive Request (Snapshot : Type) where
  | get (readTokenValid : Bool)
  | post (request : PostRequest Snapshot)
  | rollback (request : AdminRequest)

def handle : Request Snapshot → Handler Snapshot Json (Response Snapshot)
  | .get readTokenValid => getConfig readTokenValid
  | .post request => postConfig env request
  | .rollback request => rollbackConfig env request

end Routiq.ControlPlane.Handlers
