import Routiq.Core.Runs
import Routiq.Edge.Pipeline

/-! The Lua bridge between nginx and the extension, and one worker serving
many requests with it. The access phase calls `process_request`, copies the
scratch buffers into nginx variables and jumps to a proxy location; the log
phase of the final location reports and releases. -/
namespace Routiq.Edge.Access
open Core CString Config Revocation Auth CircuitBreaker Pipeline

def wafBodyScanBytes : Nat := 8192

inductive Tier where
  | fast | normal | slow
deriving DecidableEq

inductive Location where
  | root
  | up (tier : Tier)
deriving DecidableEq

/-- What the access phase reads of a request. `bodyData` is the buffered body
and `bodyFile` the readable content of a spooled one. -/
structure ClientRequest where
  method : String
  (origin authorization requestUri uri userAgent remoteAddr bodyData bodyFile : Option (List UInt8))
  (xCanary cookieCanary contentType : Option (List UInt8))

/-- The nginx variables that outlive the jump to a proxy location. -/
structure NginxVars where
  (gatewayRequestId gatewayUserId gatewayHomeRegion targetRegion targetUpstream : List UInt8)
  targetTier : Option Tier
deriving DecidableEq

def NginxVars.empty : NginxVars := ⟨[],[],[],[],[],none⟩

structure NgxCtx where
  requestId : Option (List UInt8)
  admitted : Bool
deriving DecidableEq

def NgxCtx.empty : NgxCtx := ⟨none,false⟩

/-- A request being served. `code` records what `process_request` returned. -/
structure Exchange where
  location : Location
  ctx : NgxCtx
  vars : NginxVars
  code : Option Nat
deriving DecidableEq

section
variable (request : ClientRequest)

def requestBody : List UInt8 :=
  if request.method = "POST" ∨ request.method = "PUT" ∨ request.method = "PATCH" then
    match request.bodyData with
    | some body => body
    | none => ((request.bodyFile.map fun file => file.take wafBodyScanBytes).getD [])
  else []

def authorization : List UInt8 := request.authorization.getD []

def requestArgs : RequestArgs where
  authHeader := some (authorization request)
  path := some ((request.requestUri.or request.uri).getD (utf8 "/"))
  userAgent := some (request.userAgent.getD [])
  body := some (requestBody request)
  clientIp := some (request.remoteAddr.getD [])
  canaryHint := some ((request.xCanary.or request.cookieCanary).getD [])
  contentType := some (request.contentType.getD [])

end

def luaTier (tier : List UInt8) : Tier :=
  if tier = utf8 "fast" then .fast else if tier = utf8 "slow" then .slow else .normal

/-- `ngx.exec` to a named location: the variables stay, the context does not. -/
def ngxExec (tier : Tier) (exchange : Exchange) : Exchange :=
  { exchange with location := .up tier, ctx := .empty }

section

variable {Memory : Type} (env : GatewayEnv Memory) (nowMs : Nat) (request : ClientRequest)

/-- The status with which `apply_cors` ends the request, if it does. -/
def corsExit (worker : Worker Memory) : Option Nat :=
  match request.origin with
  | none => none
  | some origin =>
      if origin.isEmpty then none
      else if request.method = "OPTIONS" then
        if (env.stages.packedHeaders worker.memory worker.config (decode origin)).isEmpty then some 403
        else some 204
      else none

def admittedVars (requestId : List UInt8) (out : OutBuffers) : NginxVars where
  gatewayRequestId := requestId
  gatewayUserId := load out.userId
  gatewayHomeRegion := load out.homeRegion
  targetRegion := load out.region
  targetUpstream := load out.upstream
  targetTier := some (luaTier (load out.tier))

section
variable (gateway : Gateway Memory)

def access : Exchange × Gateway Memory :=
  match corsExit env request gateway.worker with
  | some _ => (⟨.root,NgxCtx.empty,NginxVars.empty,none⟩,gateway)
  | none =>
      let processed := processRequest env nowMs (requestArgs request) gateway
      let gateway := processed.2
      let requestId := load gateway.out.requestId
      let exchange : Exchange := ⟨.root,⟨some requestId,false⟩,
        { NginxVars.empty with gatewayRequestId := requestId },some processed.1⟩
      if processed.1 ≠ 200 then (exchange,gateway)
      else
        let admitted := { exchange with ctx := { exchange.ctx with admitted := true } }
        (ngxExec (luaTier (load gateway.out.tier))
          { admitted with vars := admittedVars requestId gateway.out },gateway)

def log (status latencyUs : Nat) (exchange : Exchange) (gateway : Gateway Memory) : Gateway Memory :=
  let gateway := reportTelemetry env nowMs status latencyUs exchange.vars.targetUpstream gateway
  if exchange.ctx.admitted then releaseSlot gateway else gateway

def validated (before : Footprint) : Option UserIdentity × TokenCache :=
  validateToken env.auth before.config before.snapshot nowMs before.cache
    (decode (authorization request))

/-- What an access phase does: the request is turned away in the root
location, or it is forwarded with its slot held and its context gone. -/
inductive Accessed (before : Footprint) : Exchange × Gateway Memory → Prop where
  | turnedAway (exchange : Exchange) (after : Gateway Memory) (hlocation : exchange.location = .root)
      (hcode : exchange.code ≠ some 200) (hcontext : exchange.ctx.admitted = false)
      (hafter : footprint after = before ∨
        footprint after = { before with cache := (validated env nowMs request before).2 }) :
      Accessed before (exchange,after)
  | forwarded (exchange : Exchange) (after : Gateway Memory) (tier : Tier)
      (hlocation : exchange.location = .up tier) (hcode : exchange.code = some 200)
      (hcontext : exchange.ctx = NgxCtx.empty)
      (huser : exchange.vars.gatewayUserId = load after.out.userId)
      (hhome : exchange.vars.gatewayHomeRegion = load after.out.homeRegion)
      (hafter : footprint after = { before with
        cache := (validated env nowMs request before).2
        inFlight := before.inFlight + 1
        userId := writeUserId (validated env nowMs request before).1 before.userId
        homeRegion := writeHomeRegion (validated env nowMs request before).1 before.homeRegion }) :
      Accessed before (exchange,after)

theorem access_accessed :
    Accessed env nowMs request (footprint gateway) (access env nowMs request gateway) := by
  unfold access
  split
  · exact .turnedAway _ _ rfl (by simp) rfl (Or.inl rfl)
  have hprocessed := processRequest_processed env nowMs (requestArgs request) gateway
  generalize processRequest env nowMs (requestArgs request) gateway = processed at hprocessed
  dsimp only
  cases hprocessed with
  | refused status after hstatus hafter =>
    rw [if_pos hstatus]
    exact .turnedAway _ _ rfl (by simpa using hstatus) rfl (Or.inl hafter)
  | rejected authHeader status after hauth hstatus hafter =>
    cases hauth
    rw [if_pos hstatus]
    exact .turnedAway _ _ rfl (by simpa using hstatus) rfl (Or.inr hafter)
  | admitted authHeader after hauth hafter =>
    cases hauth
    exact .forwarded _ _ _ rfl rfl rfl rfl rfl hafter

theorem access_of_admitted {gateway : Gateway Memory}
    (hcode : (access env nowMs request gateway).1.code = some 200) :
    footprint (access env nowMs request gateway).2 = { footprint gateway with
        cache := (validated env nowMs request (footprint gateway)).2
        inFlight := gateway.worker.inFlight + 1
        userId := writeUserId (validated env nowMs request (footprint gateway)).1 gateway.out.userId
        homeRegion := writeHomeRegion (validated env nowMs request (footprint gateway)).1
          gateway.out.homeRegion } ∧
      (access env nowMs request gateway).1.vars.gatewayUserId =
        load (writeUserId (validated env nowMs request (footprint gateway)).1 gateway.out.userId) ∧
      (access env nowMs request gateway).1.vars.gatewayHomeRegion =
        load (writeHomeRegion (validated env nowMs request (footprint gateway)).1
          gateway.out.homeRegion) := by
  have haccessed := access_accessed env nowMs request gateway
  generalize access env nowMs request gateway = served at haccessed hcode
  cases haccessed with
  | turnedAway exchange after hlocation hrejected hcontext hafter => exact absurd hcode hrejected
  | forwarded exchange after tier hlocation hadmitted hcontext huser hhome hafter =>
    refine ⟨hafter,?_,?_⟩
    · rw [huser]
      exact congrArg load (congrArg Footprint.userId hafter)
    · rw [hhome]
      exact congrArg load (congrArg Footprint.homeRegion hafter)

theorem cache_access : (access env nowMs request gateway).2.worker.cache = gateway.worker.cache ∨
      (access env nowMs request gateway).2.worker.cache =
        (validated env nowMs request (footprint gateway)).2 := by
  have haccessed := access_accessed env nowMs request gateway
  generalize access env nowMs request gateway = served at haccessed
  cases haccessed with
  | turnedAway exchange after hlocation hcode hcontext hafter =>
    exact hafter.imp (congrArg Footprint.cache) (congrArg Footprint.cache)
  | forwarded exchange after tier hlocation hcode hcontext huser hhome hafter =>
    exact Or.inr (congrArg Footprint.cache hafter)

end

theorem footprint_log (status latencyUs : Nat) (exchange : Exchange) (gateway : Gateway Memory) :
    footprint (log env nowMs status latencyUs exchange gateway) =
      if exchange.ctx.admitted then (footprint gateway).released else footprint gateway := by
  have hreported := footprint_reportTelemetry env nowMs status latencyUs
    exchange.vars.targetUpstream gateway
  unfold log
  dsimp only
  split
  · rw [← hreported]
    rfl
  · exact hreported

end

/-! ## One worker, many requests -/

structure System (Memory : Type) where
  gateway : Gateway Memory
  live : List (Nat × Exchange)

/-- What can happen on a worker. Configuration, snapshot, shared memory and
the stages' own memory may change at any time behind the requests. -/
inductive Event (Memory : Type) where
  | access (id nowMs : Nat) (request : ClientRequest)
  | log (id nowMs status latencyUs : Nat)
  | reload (config : GatewayConfig)
  | publish (snapshot : RevocationSnapshot)
  | background (memory : Memory) (shm : Shm)

section

variable {Memory : Type} (env : GatewayEnv Memory)

def exchangeOf (live : List (Nat × Exchange)) (id : Nat) : Option Exchange :=
  (live.find? fun entry => entry.1 = id).map Prod.snd

def systemStep (system : System Memory) : Event Memory → System Memory
  | .access id nowMs request =>
      match exchangeOf system.live id with
      | some _ => system
      | none =>
          let served := access env nowMs request system.gateway
          ⟨served.2,(id,served.1) :: system.live⟩
  | .log id nowMs status latencyUs =>
      match exchangeOf system.live id with
      | none => system
      | some exchange =>
          ⟨log env nowMs status latencyUs exchange system.gateway,
            system.live.filter fun entry => entry.1 ≠ id⟩
  | .reload config =>
      { system with
        gateway := { system.gateway with worker := { system.gateway.worker with config := config } } }
  | .publish snapshot =>
      { system with
        gateway := { system.gateway with worker := { system.gateway.worker with snapshot := snapshot } } }
  | .background memory shm =>
      { system with gateway := { system.gateway.setMemory memory with shm := shm } }

variable {env} {system : System Memory} {id : Nat}

theorem systemStep_access (hfresh : exchangeOf system.live id = none) (nowMs : Nat)
    (request : ClientRequest) : systemStep env system (.access id nowMs request) =
      ⟨(access env nowMs request system.gateway).2,
        (id,(access env nowMs request system.gateway).1) :: system.live⟩ := by
  simp only [systemStep,hfresh]

variable {exchange : Exchange}

section
variable (hlive : exchangeOf system.live id = some exchange)
include hlive

theorem systemStep_access_of_live (nowMs : Nat) (request : ClientRequest) :
    systemStep env system (.access id nowMs request) = system := by
  simp only [systemStep,hlive]

theorem systemStep_log (nowMs status latencyUs : Nat) : systemStep env system (.log id nowMs status latencyUs) =
      ⟨log env nowMs status latencyUs exchange system.gateway,
        system.live.filter fun entry => entry.1 ≠ id⟩ := by
  simp only [systemStep,hlive]

end

theorem systemStep_log_of_gone (hgone : exchangeOf system.live id = none) (nowMs status latencyUs : Nat) :
    systemStep env system (.log id nowMs status latencyUs) = system := by
  simp only [systemStep,hgone]

def System.initial (config : GatewayConfig) (memory : Memory) (shm : Shm) (inFlight : Int) :
    System Memory where
  gateway := ⟨⟨config,.empty,.empty tokenCacheCapacity,inFlight,0,
    memory⟩,shm,.zeroed⟩
  live := []

end

/-! ## A sample worker -/

def sampleStages : Stages Unit where
  fromUtf8Lossy := fun _ => ""
  packedHeaders := fun _ _ _ => ""
  inspect := fun memory _ _ _ _ _ _ => (.allow,memory)
  routerAt := fun _ path => if path = "/items" then some ⟨"items","normal",none⟩ else none
  shedAnonymous := fun _ => false
  validateBody := fun _ _ _ => .ok ()
  checkRateLimit := fun memory _ _ _ => (true,memory)
  checkQuota := fun memory _ _ _ _ => (true,memory)
  selectUpstream := fun memory _ shm _ _ _ _ => (some "127.0.0.1:8080",memory,shm)
  recordRequest := fun memory _ _ => memory
  recordObservation := fun memory _ _ => memory

def sampleSlotOf (name : String) : Fin shmSlots :=
  if name = globalName then ⟨1197,by decide⟩
  else if name = "127.0.0.1:8080" then ⟨2383,by decide⟩
  else ⟨0,by decide⟩

def sampleGatewayEnv : GatewayEnv Unit := ⟨sampleEnv,sampleSlotOf,sampleStages,7,some "us"⟩

def sampleService : ServiceConfig where
  name := "items"
  rateLimitMax := 1000
  regionalUpstreams := fun region =>
    if region = "us" then some [⟨"items-1","127.0.0.1:8080",1,""⟩] else none
  requireAuth := false
  canary := none
  quota := none

def sampleGatewayConfig : GatewayConfig :=
  { sampleConfig with services := fun name => if name = "items" then some sampleService else none }

def sampleRequest (authorization : Option (List UInt8)) : ClientRequest where
  method := "GET"
  origin := none
  authorization := authorization
  requestUri := some (utf8 "/items")
  uri := some (utf8 "/items")
  userAgent := none
  remoteAddr := none
  bodyData := none
  bodyFile := none
  xCanary := none
  cookieCanary := none
  contentType := none

theorem validated_anonymous (nowMs : Nat) (before : Footprint) :
    validated sampleGatewayEnv nowMs (sampleRequest none) before = (none,before.cache) := by
  rw [validated,validateToken,show stripBearer _ = none by decide]

end Routiq.Edge.Access
