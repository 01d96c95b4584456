import Routiq.Edge.CircuitBreaker
import Routiq.Edge.Auth
import Mathlib.Data.Int.Basic

/-! The request pipeline behind the C ABI: backpressure, firewall, identity,
routing, validation, limits and upstream selection, in the order of
`process_request`. Stages whose internals no result here depends on are
parameters over an arbitrary memory; what they may answer is spelled out. -/
namespace Routiq.Edge.Pipeline
open Core CString Config Revocation Auth CircuitBreaker

/-! ## Backpressure -/

def asI64 (value : Nat) : Int := Int.bmod value (2^64)

section
variable (config : GatewayConfig)

/-- The concurrency limit; an open circuit has none and rejects everything. -/
def concurrencyLimit : CircuitState → Option Int
  | .stateHalfOpen => some (asI64 (max (config.globalMaxConcurrency / 10) 1))
  | .stateClosed => some (asI64 config.globalMaxConcurrency)
  | .stateOpen => none

def release (inFlight : Int) : Int := inFlight - 1

section
variable (circuit : CircuitState) (inFlight : Int)

def acquire : Bool × Int :=
  match concurrencyLimit config circuit with
  | none => (false,inFlight)
  | some limit => if limit ≤ inFlight then (false,release (inFlight + 1)) else (true,inFlight + 1)

theorem acquire_slot : (acquire config circuit inFlight).2 =
      if (acquire config circuit inFlight).1 then inFlight + 1 else inFlight := by
  unfold acquire release
  split
  · rfl
  · split
    · simp
    · rfl

end

theorem acquire_open (inFlight : Int) : acquire config .stateOpen inFlight = (false,inFlight) := rfl

end

/-! ## What the stages answer -/

inductive WafBlock where
  | uriTooLong | authHeaderTooLarge | injectionInUri | injectionInBody | botDetected | ipRateLimit
deriving DecidableEq

def WafBlock.status : WafBlock → Nat
  | .uriTooLong => 400
  | .authHeaderTooLarge => 400
  | .injectionInUri => 403
  | .injectionInBody => 403
  | .botDetected => 403
  | .ipRateLimit => 429

inductive WafDecision where
  | allow
  | block (reason : WafBlock)
deriving DecidableEq

inductive Violation where
  | tooLarge (actual limit : Nat)
  | notJson
  | missingField (field : String)
  | wrongType (field expected : String)
deriving DecidableEq

def Violation.response : Violation → Nat × String
  | .tooLarge _ limit => (413,"body exceeds " ++ limit.repr ++ " bytes")
  | .notJson => (415,"content-type must be application/json")
  | .missingField field => (400,"missing field '" ++ field ++ "'")
  | .wrongType field expected => (400,"field '" ++ field ++ "' must be " ++ expected)

structure RouteMeta where
  (serviceName tier : String)
  validation : Option ValidationConfig
deriving DecidableEq

section
variable (Memory : Type)

/-- The stages behind the pipeline. `Memory` holds what they keep between
requests: rate buckets, quota counters, the radix tree, posture, latencies. -/
structure Stages where
  fromUtf8Lossy : List UInt8 → String
  packedHeaders : Memory → GatewayConfig → String → String
  inspect : Memory → Nat → String → String → String → String → String → WafDecision × Memory
  routerAt : Memory → String → Option RouteMeta
  shedAnonymous : Memory → Bool
  validateBody : ValidationConfig → String → String → Except Violation Unit
  checkRateLimit : Memory → Nat → Nat → Option String → Bool × Memory
  checkQuota : Memory → Nat → String → String → QuotaPolicy → Bool × Memory
  selectUpstream : Memory → Nat → Shm → ServiceConfig → String → Option String → String →
    Option String × Memory × Shm
  recordRequest : Memory → Nat → Nat → Memory
  recordObservation : Memory → String → Nat → Memory

structure GatewayEnv where
  auth : AuthEnv
  slotOf : SlotOf
  stages : Stages Memory
  processId : Nat
  gatewayRegionVar : Option String

def GatewayEnv.currentRegion {Memory : Type} (env : GatewayEnv Memory) : String :=
  env.gatewayRegionVar.getD "US"

/-! ## State -/

/-- The output buffers, of the sizes the Lua side allocates. -/
structure OutBuffers where
  region : Buffer 16
  upstream : Buffer 256
  requestId : Buffer 40
  userId : Buffer 128
  (homeRegion tier : Buffer 16)

def OutBuffers.zeroed : OutBuffers :=
  ⟨CString.zeroed 16,CString.zeroed 256,CString.zeroed 40,CString.zeroed 128,
    CString.zeroed 16,CString.zeroed 16⟩

structure Worker where
  config : GatewayConfig
  snapshot : RevocationSnapshot
  cache : TokenCache
  inFlight : Int
  requestCounter : Nat
  memory : Memory

structure Gateway where
  worker : Worker Memory
  shm : Shm
  out : OutBuffers

end

/-- The string arguments of the C ABI; a null pointer is `none`. -/
structure RequestArgs where
  (authHeader path userAgent body clientIp canaryHint contentType : Option (List UInt8))

def optionalText (argument : Option (List UInt8)) : String :=
  match argument with
  | some bytes => decode bytes
  | none => ""

variable {Memory : Type}

namespace Gateway

variable (gateway : Gateway Memory)

def setInFlight (inFlight : Int) : Gateway Memory :=
  { gateway with worker := { gateway.worker with inFlight := inFlight } }

def setMemory (memory : Memory) : Gateway Memory :=
  { gateway with worker := { gateway.worker with memory := memory } }

def setCache (cache : TokenCache) : Gateway Memory :=
  { gateway with worker := { gateway.worker with cache := cache } }

end Gateway

def releaseAndReturn (status : Nat) (gateway : Gateway Memory) : Nat × Gateway Memory :=
  (status,gateway.setInFlight (release gateway.worker.inFlight))

/-- The counter value is used before it is advanced, modulo the word size. -/
def writeRequestId (processId : Nat) (gateway : Gateway Memory) : Gateway Memory :=
  let requestId := hexPad 8 processId ++ hexPad 16 gateway.worker.requestCounter
  { gateway with
    worker := { gateway.worker with requestCounter := (gateway.worker.requestCounter + 1) % 2^64 }
    out := { gateway.out with requestId := store (utf8 requestId) gateway.out.requestId } }

def writeTier (tier : String) (gateway : Gateway Memory) : Gateway Memory :=
  { gateway with out := { gateway.out with tier := store (utf8 tier) gateway.out.tier } }

/-- The buffers of an admitted request. The identity buffers are written only
for the parts of an identity that are there. -/
def writeUserId (identity : Option UserIdentity) (buffer : Buffer 128) : Buffer 128 :=
  match identity with
  | some identity => store (utf8 identity.userId) buffer
  | none => buffer

def writeHomeRegion (identity : Option UserIdentity) (buffer : Buffer 16) : Buffer 16 :=
  match identity with
  | some identity =>
      match identity.homeRegion with
      | some home => store (utf8 home) buffer
      | none => buffer
  | none => buffer

def writeAdmitted (region upstream : String) (identity : Option UserIdentity) (out : OutBuffers) :
    OutBuffers :=
  { out with
    region := store (utf8 region) out.region
    upstream := store (utf8 upstream) out.upstream
    userId := writeUserId identity out.userId
    homeRegion := writeHomeRegion identity out.homeRegion }

/-! ## Routing -/

structure ResolvedRoute where
  service : Option ServiceConfig
  (region tier : String)
  validation : Option ValidationConfig

section
variable (identityRegion : Option String) (current : String)

def requiredRegion : String :=
  match identityRegion with
  | some region => region
  | none => if current = "GLOBAL" then "US" else current

def resolveRegion : Except Nat String :=
  let required := requiredRegion identityRegion current
  if required = current ∨ current = "GLOBAL" ∨ required = "GLOBAL" then .ok required else .error 403

end

section
variable (env : GatewayEnv Memory) (worker : Worker Memory) (path : String)

def findService : Option ServiceConfig × String × Option ValidationConfig :=
  match env.stages.routerAt worker.memory path with
  | some route => (worker.config.services route.serviceName,route.tier,route.validation)
  | none => (none,"normal",none)

def routeRequest (identity : Option UserIdentity) (_cbState : CircuitState) : Except Nat ResolvedRoute :=
  let (service,tier,validation) := findService env worker path
  match resolveRegion (identity.bind UserIdentity.homeRegion) env.currentRegion with
  | .error status => .error status
  | .ok region => .ok ⟨service,region,tier,validation⟩

end

def routePath (path : String) : String := String.ofList (path.toList.takeWhile (· ≠ '?'))

/-! ## The hot path -/

variable (env : GatewayEnv Memory) (nowMs : Nat) (args : RequestArgs)

def bodyText : String :=
  match args.body with
  | some bytes => if bytes.isEmpty then "" else env.stages.fromUtf8Lossy bytes
  | none => ""

section
variable (identity : Option UserIdentity) (resolved : ResolvedRoute) (service : ServiceConfig)
  (gateway : Gateway Memory)

/-- Step 6: select an upstream and fill the output buffers. -/
def forward : Nat × Gateway Memory :=
  match env.stages.selectUpstream gateway.worker.memory nowMs gateway.shm service resolved.region
      (identity.map UserIdentity.userId) (optionalText args.canaryHint) with
  | (some upstream,memory,shm) =>
      let selected := { gateway.setMemory memory with shm := shm }
      (200,{ selected with out := writeAdmitted resolved.region upstream identity selected.out })
  | (none,memory,shm) => releaseAndReturn 503 { gateway.setMemory memory with shm := shm }

/-- Step 5b: only an identity with a service quota is counted. -/
def checkQuota (identity : Option UserIdentity) (service : ServiceConfig) (memory : Memory) : Bool × Memory :=
  match identity, service.quota with
  | some identity, some quota =>
      env.stages.checkQuota memory nowMs service.name identity.userId quota
  | _, _ => (true,memory)

def bodyViolation (resolved : ResolvedRoute) : Option Violation :=
  match resolved.validation with
  | none => none
  | some policy =>
      match env.stages.validateBody policy (optionalText args.contentType) (bodyText env args) with
      | .ok () => none
      | .error violation => some violation

/-- Steps 4 and 5: shedding, body policy, authentication, limits. -/
def enforce : Nat × Gateway Memory :=
  if env.stages.shedAnonymous gateway.worker.memory && identity.isNone then
    releaseAndReturn 503 gateway
  else
    let gateway := writeTier resolved.tier gateway
    match bodyViolation env args resolved with
    | some violation => releaseAndReturn violation.response.1 gateway
    | none =>
        if service.requireAuth && identity.isNone then releaseAndReturn 401 gateway
        else
          let rate := env.stages.checkRateLimit gateway.worker.memory nowMs
            service.rateLimitMax (identity.map UserIdentity.userId)
          let gateway := gateway.setMemory rate.2
          if !rate.1 then releaseAndReturn 429 gateway
          else
            let quota := checkQuota env nowMs identity service gateway.worker.memory
            let gateway := gateway.setMemory quota.2
            if !quota.1 then releaseAndReturn 429 gateway
            else forward env nowMs args identity resolved service gateway

end

/-- Steps 1 to 3: firewall, identity and route, for a request that holds a
slot. -/
def inspectAndRoute (authHeader path : String) (gateway : Gateway Memory) : Nat × Gateway Memory :=
  let gateway := writeRequestId env.processId gateway
  match env.stages.inspect gateway.worker.memory nowMs path authHeader (optionalText args.userAgent)
      (bodyText env args) (optionalText args.clientIp) with
  | (.block reason,memory) => releaseAndReturn reason.status (gateway.setMemory memory)
  | (.allow,memory) =>
      let gateway := gateway.setMemory memory
      let validated := validateToken env.auth gateway.worker.config gateway.worker.snapshot
        nowMs gateway.worker.cache authHeader
      let gateway := gateway.setCache validated.2
      match routeRequest env gateway.worker (routePath path) validated.1
          (globalState env.slotOf gateway.shm) with
      | .error status => releaseAndReturn status gateway
      | .ok resolved =>
          match resolved.service with
          | none => releaseAndReturn 404 gateway
          | some service => enforce env nowMs args validated.1 resolved service gateway

section
variable (gateway : Gateway Memory)

def processRequest : Nat × Gateway Memory :=
  let acquired := acquire gateway.worker.config (globalState env.slotOf gateway.shm)
    gateway.worker.inFlight
  let gateway := gateway.setInFlight acquired.2
  if !acquired.1 then (503,gateway)
  else
    match args.authHeader, args.path with
    | some authHeader, some path =>
        inspectAndRoute env nowMs args (decode authHeader) (decode path) gateway
    | _, _ => releaseAndReturn 500 gateway

def reportTelemetry (status latencyUs : Nat) (upstream : List UInt8) (gateway : Gateway Memory) :
    Gateway Memory :=
  let gateway := gateway.setMemory (env.stages.recordRequest gateway.worker.memory status latencyUs)
  let upstream := decode upstream
  if !upstream.isEmpty then
    let gateway := gateway.setMemory (env.stages.recordObservation gateway.worker.memory upstream latencyUs)
    if 500 ≤ status then
      { gateway with shm := recordFailureFor env.slotOf (nowMs / 1000) gateway.shm upstream }
    else { gateway with shm := recordSuccessFor env.slotOf gateway.shm upstream }
  else if 500 ≤ status then
    { gateway with shm := recordFailure env.slotOf (nowMs / 1000) gateway.shm }
  else { gateway with shm := recordSuccess env.slotOf gateway.shm }

def releaseSlot : Gateway Memory :=
  gateway.setInFlight (release gateway.worker.inFlight)

/-! ## What a call does to slots and identity -/

structure Footprint where
  config : GatewayConfig
  snapshot : RevocationSnapshot
  cache : TokenCache
  inFlight : Int
  userId : Buffer 128
  homeRegion : Buffer 16

def footprint : Footprint where
  config := gateway.worker.config
  snapshot := gateway.worker.snapshot
  cache := gateway.worker.cache
  inFlight := gateway.worker.inFlight
  userId := gateway.out.userId
  homeRegion := gateway.out.homeRegion

end

def Footprint.released (before : Footprint) : Footprint := { before with inFlight := release before.inFlight }
def Footprint.written (before : Footprint) (identity : Option UserIdentity) : Footprint := { before with
    userId := writeUserId identity before.userId
    homeRegion := writeHomeRegion identity before.homeRegion }

/-- A request that holds a slot is rejected and gives the slot back, or is
admitted, keeps it, and has its identity written out. -/
inductive Handled (identity : Option UserIdentity) (before : Footprint) : Nat × Gateway Memory → Prop where
  | rejected (status : Nat) (after : Gateway Memory) (hstatus : status ≠ 200)
      (hafter : footprint after = before.released) : Handled identity before (status,after)
  | admitted (after : Gateway Memory) (hafter : footprint after = before.written identity) :
      Handled identity before (200,after)

variable {status : Nat} {before : Footprint} (identity : Option UserIdentity)

theorem releaseAndReturn_handled {gateway : Gateway Memory} (hstatus : status ≠ 200)
    (hbefore : footprint gateway = before) : Handled identity before (releaseAndReturn status gateway) := by
  refine .rejected status _ hstatus ?_
  rw [← hbefore]
  rfl

theorem wafBlock_status_ne (reason : WafBlock) : reason.status ≠ 200 := by
  cases reason <;> decide

theorem violation_status_ne (violation : Violation) : violation.response.1 ≠ 200 := by
  cases violation <;> simp [Violation.response]

theorem routeRequest_status_ne {worker : Worker Memory} {path : String}
    {identity : Option UserIdentity} {cbState : CircuitState}
    (herror : routeRequest env worker path identity cbState = .error status) : status ≠ 200 := by
  unfold routeRequest at herror
  dsimp only at herror
  split at herror
  next found hregion =>
    cases herror
    unfold resolveRegion at hregion
    dsimp only at hregion
    split at hregion
    · contradiction
    · cases hregion
      decide
  · contradiction

variable (gateway : Gateway Memory)

@[simp] theorem footprint_setMemory (memory : Memory) :
    footprint (gateway.setMemory memory) = footprint gateway := rfl

@[simp] theorem footprint_writeTier (tier : String) (gateway : Gateway Memory) :
    footprint (writeTier tier gateway) = footprint gateway := by
  simp only [footprint,writeTier]

@[simp] theorem footprint_writeRequestId (processId : Nat) (gateway : Gateway Memory) :
    footprint (writeRequestId processId gateway) = footprint gateway := by
  simp only [footprint,writeRequestId]

@[simp] theorem footprint_setInFlight (inFlight : Int) :
    footprint (gateway.setInFlight inFlight) = { footprint gateway with inFlight := inFlight } := rfl

@[simp] theorem footprint_setCache (cache : TokenCache) :
    footprint (gateway.setCache cache) = { footprint gateway with cache := cache } := rfl

@[simp] theorem footprint_reportTelemetry (status latencyUs : Nat) (upstream : List UInt8)
    (gateway : Gateway Memory) :
    footprint (reportTelemetry env nowMs status latencyUs upstream gateway) = footprint gateway := by
  unfold reportTelemetry
  dsimp only
  split
  · split <;> rfl
  · split <;> rfl

section
variable (resolved : ResolvedRoute) (service : ServiceConfig) {gateway : Gateway Memory}

theorem forward_handled (hbefore : footprint gateway = before) :
    Handled identity before (forward env nowMs args identity resolved service gateway) := by
  subst hbefore
  unfold forward
  split
  · exact .admitted _ rfl
  · exact releaseAndReturn_handled identity (by decide) rfl

theorem enforce_handled (hbefore : footprint gateway = before) :
    Handled identity before (enforce env nowMs args identity resolved service gateway) := by
  subst hbefore
  unfold enforce
  split
  · exact releaseAndReturn_handled identity (by decide) rfl
  dsimp only
  split
  · exact releaseAndReturn_handled identity (violation_status_ne _) (by simp)
  split
  · exact releaseAndReturn_handled identity (by decide) (by simp)
  split
  · exact releaseAndReturn_handled identity (by decide) (by simp)
  split
  · exact releaseAndReturn_handled identity (by decide) (by simp)
  · exact forward_handled env nowMs args identity resolved service (by simp)

end

/-- The outcomes of `process_request`, with the identity that the token
validation of the same call returned. -/
inductive Processed (before : Footprint) : Nat × Gateway Memory → Prop where
  | refused (status : Nat) (after : Gateway Memory) (hstatus : status ≠ 200)
      (hafter : footprint after = before) : Processed before (status,after)
  | rejected (authHeader : List UInt8) (status : Nat) (after : Gateway Memory)
      (hauth : args.authHeader = some authHeader) (hstatus : status ≠ 200)
      (hafter : footprint after = { before with
        cache := (validateToken env.auth before.config before.snapshot nowMs before.cache
          (decode authHeader)).2 }) : Processed before (status,after)
  | admitted (authHeader : List UInt8) (after : Gateway Memory)
      (hauth : args.authHeader = some authHeader)
      (hafter : footprint after = { before with
        cache := (validateToken env.auth before.config before.snapshot nowMs before.cache
          (decode authHeader)).2
        inFlight := before.inFlight + 1
        userId := writeUserId (validateToken env.auth before.config before.snapshot nowMs
          before.cache (decode authHeader)).1 before.userId
        homeRegion := writeHomeRegion (validateToken env.auth before.config before.snapshot nowMs
          before.cache (decode authHeader)).1 before.homeRegion }) : Processed before (200,after)

theorem released_setInFlight (before : Footprint) :
    Footprint.released { before with inFlight := before.inFlight + 1 } = before := by
  simp [Footprint.released,release]

theorem processed_of_released {gateway : Gateway Memory} (hstatus : status ≠ 200)
    (hheld : footprint gateway = { before with inFlight := before.inFlight + 1 }) :
    Processed env nowMs args before (releaseAndReturn status gateway) := by
  refine .refused status _ hstatus ?_
  rw [← released_setInFlight before,← hheld]
  rfl

theorem processed_of_handled {authHeader : List UInt8} {result : Nat × Gateway Memory}
    (hauth : args.authHeader = some authHeader) (hhandled : Handled
      (validateToken env.auth before.config before.snapshot nowMs before.cache (decode authHeader)).1
      { before with
        cache := (validateToken env.auth before.config before.snapshot nowMs before.cache
          (decode authHeader)).2
        inFlight := before.inFlight + 1 } result) : Processed env nowMs args before result := by
  cases hhandled with
  | rejected status after hstatus hafter =>
    refine .rejected authHeader status after hauth hstatus ?_
    rw [hafter]
    simp [Footprint.released,release]
  | admitted after hafter => exact .admitted authHeader after hauth hafter

theorem inspectAndRoute_processed {authHeader path : List UInt8} {gateway : Gateway Memory}
    (hauth : args.authHeader = some authHeader)
    (hheld : footprint gateway = { before with inFlight := before.inFlight + 1 }) :
    Processed env nowMs args before
      (inspectAndRoute env nowMs args (decode authHeader) (decode path) gateway) := by
  unfold inspectAndRoute
  dsimp only
  split
  · exact processed_of_released env nowMs args (wafBlock_status_ne _) (by simp [hheld])
  next memory _ =>
    have hfoot : footprint ((writeRequestId env.processId gateway).setMemory memory) =
        { before with inFlight := before.inFlight + 1 } := by simp [hheld]
    generalize (writeRequestId env.processId gateway).setMemory memory = allowed at hfoot
    have hconfig : allowed.worker.config = before.config := congrArg Footprint.config hfoot
    have hsnapshot : allowed.worker.snapshot = before.snapshot := congrArg Footprint.snapshot hfoot
    have hcache : allowed.worker.cache = before.cache := congrArg Footprint.cache hfoot
    rw [hconfig,hsnapshot,hcache]
    generalize hvalidated : validateToken env.auth before.config before.snapshot nowMs before.cache
      (decode authHeader) = validated
    have hnext : footprint (allowed.setCache validated.2) =
        { before with cache := validated.2, inFlight := before.inFlight + 1 } := by
      rw [footprint_setCache,hfoot]
    apply processed_of_handled env nowMs args hauth
    rw [hvalidated]
    split
    next status herror => exact releaseAndReturn_handled _ (routeRequest_status_ne env herror) hnext
    · split
      · exact releaseAndReturn_handled _ (by decide) hnext
      · exact enforce_handled env nowMs args _ _ _ hnext

theorem processRequest_processed :
    Processed env nowMs args (footprint gateway) (processRequest env nowMs args gateway) := by
  have hslot := acquire_slot gateway.worker.config (globalState env.slotOf gateway.shm)
    gateway.worker.inFlight
  unfold processRequest
  dsimp only
  split
  next hdenied =>
    refine .refused 503 _ (by decide) ?_
    have hfalse : (acquire gateway.worker.config (globalState env.slotOf gateway.shm)
        gateway.worker.inFlight).1 = false := by simpa using hdenied
    rw [hfalse] at hslot
    rw [footprint_setInFlight,hslot]
    rfl
  next hgranted =>
    have htrue : (acquire gateway.worker.config (globalState env.slotOf gateway.shm)
        gateway.worker.inFlight).1 = true := by simpa using hgranted
    rw [htrue,if_pos rfl] at hslot
    have hheld : footprint (gateway.setInFlight (acquire gateway.worker.config
        (globalState env.slotOf gateway.shm) gateway.worker.inFlight).2) =
          { footprint gateway with inFlight := (footprint gateway).inFlight + 1 } := by
      rw [footprint_setInFlight,hslot]
      rfl
    split
    next authHeader path hauth hpath => exact inspectAndRoute_processed env nowMs args hauth hheld
    · exact processed_of_released env nowMs args (by decide) hheld

end Routiq.Edge.Pipeline
