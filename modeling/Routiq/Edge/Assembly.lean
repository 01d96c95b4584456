import Routiq.Core.Utf8Lossy
import Routiq.Edge.BodyPolicy
import Routiq.Edge.Gates
import Routiq.Edge.Quota
import Routiq.Edge.RateLimit
import Routiq.Edge.Selector
import Routiq.Edge.Waf

/-! One edge node: the stages of the pipeline as they are, over the memory that
they share. Each stage owns a part of the memory and leaves the rest alone. -/
namespace Routiq.Edge.Assembly
open Core CString Config Revocation Auth CircuitBreaker Selector Pipeline Gates

/-- The counters of `telemetry::record_request` that other parts read. -/
structure Metrics where
  (requestsTotal requests401 requests429 requests5xx : Nat)
deriving DecidableEq

def Metrics.recordRequest (metrics : Metrics) (status : Nat) : Metrics :=
  let metrics := { metrics with requestsTotal := metrics.requestsTotal + 1 }
  if status = 401 then { metrics with requests401 := metrics.requests401 + 1 }
  else if status = 429 then { metrics with requests429 := metrics.requests429 + 1 }
  else if 500 ≤ status ∧ status ≤ 599 then { metrics with requests5xx := metrics.requests5xx + 1 }
  else metrics

structure NodeMemory where
  waf : Waf.WafMemory
  rate : RateLimit.RateMemory
  quota : Quota.QuotaMemory
  router : String → Option RouteMeta
  posture : Sentinel.Posture
  health : HealthShm
  latencies : Latencies
  metrics : Metrics

structure Node where
  auth : AuthEnv
  fxHash : FxHash
  fromStr : BodyPolicy.FromStr
  packedHeaders : GatewayConfig → String → String
  processId : Nat
  (gatewayRegionVar ipRateLimitVar : Option String)
  rlRedisEnabled : Bool

namespace Node

variable (node : Node)

def wafEnv : Waf.WafEnv := ⟨node.fxHash,node.ipRateLimitVar⟩
def rateEnv : RateLimit.RateEnv := ⟨node.fxHash,node.rlRedisEnabled⟩
def sha256 : List UInt8 → List UInt8 := node.auth.codecs.sha256

section
variable (memory : NodeMemory) (nowMs : Nat)

def inspect (uri authHeader userAgent body clientIp : String) : WafDecision × NodeMemory :=
  let inspected := Waf.inspect node.wafEnv memory.posture.level nowMs uri authHeader userAgent body
    clientIp memory.waf
  (inspected.1,{ memory with waf := inspected.2 })

def checkRateLimit (memory : NodeMemory) (nowMs maxRps : Nat) (userKey : Option String) : Bool × NodeMemory :=
  let rated := RateLimit.checkRateLimit node.rateEnv nowMs maxRps userKey memory.rate
  (rated.1,{ memory with rate := rated.2 })

def checkQuota (service userId : String) (policy : QuotaPolicy) : Bool × NodeMemory :=
  let counted := Quota.checkQuota node.sha256 nowMs service userId policy memory.quota
  (counted.1,{ memory with quota := counted.2 })

def selectUpstream (shm : Shm)
    (service : ServiceConfig) (region : String) (userId : Option String) (canaryHint : String) :
    Option String × NodeMemory × Shm :=
  let selected := Selector.selectUpstream node.fxHash (nowMs / 1000) memory.latencies service region
    userId canaryHint ⟨shm,memory.health⟩
  (selected.1,{ memory with health := selected.2.health },selected.2.shm)

end

def stages : Stages NodeMemory where
  fromUtf8Lossy := fun bytes => String.ofList (Utf8Lossy.lossy bytes)
  packedHeaders := fun _ config origin => node.packedHeaders config origin
  inspect := node.inspect
  routerAt := fun memory path => memory.router path
  shedAnonymous := fun memory => Sentinel.shedAnonymous memory.posture.level
  validateBody := fun policy contentType body =>
    BodyPolicy.validateBody node.fromStr policy contentType.toList body.toList
  checkRateLimit := node.checkRateLimit
  checkQuota := node.checkQuota
  selectUpstream := node.selectUpstream
  recordRequest := fun memory status _ =>
    { memory with metrics := memory.metrics.recordRequest status }
  recordObservation := fun memory upstream latencyUs =>
    { memory with latencies := recordUpstreamLatency upstream latencyUs memory.latencies }

def env : GatewayEnv NodeMemory where
  auth := node.auth
  slotOf := cbSlot node.fxHash
  stages := node.stages
  processId := node.processId
  gatewayRegionVar := node.gatewayRegionVar

end Node

/-! ## What the gates leave alone -/

variable {identity : UserIdentity}

section

variable {node : Node} {nowMs : Nat} {args : RequestArgs} {gateway : Gateway NodeMemory}
  {passage : Passage NodeMemory}

section
variable (hpasses : Passes node.env nowMs args gateway passage)
include hpasses

theorem inspected_eq : passage.inspected = { gateway.worker.memory with waf := passage.inspected.waf } := by
  have hmemory := congrArg Prod.snd hpasses.allowed
  dsimp only at hmemory
  rw [← hmemory]
  rfl

theorem waf_inspected :
    Waf.inspect node.wafEnv gateway.worker.memory.posture.level nowMs (decode passage.path)
      (decode passage.authHeader) (optionalText args.userAgent) (bodyText node.env args)
      (optionalText args.clientIp) gateway.worker.memory.waf = (.allow,passage.inspected.waf) := by
  have hallowed : node.inspect gateway.worker.memory nowMs (decode passage.path)
      (decode passage.authHeader) (optionalText args.userAgent) (bodyText node.env args)
      (optionalText args.clientIp) = (.allow,passage.inspected) := hpasses.allowed
  unfold Node.inspect at hallowed
  dsimp only at hallowed
  rw [Prod.mk.injEq] at hallowed
  rw [← hallowed.2]
  exact Prod.ext hallowed.1 rfl

end

theorem Node.inspect_with_header (node : Node) (memory : NodeMemory) {nowMs : Nat}
    {uri authHeader userAgent body clientIp : String}
    (hallowed : (Waf.inspect node.wafEnv memory.posture.level nowMs uri authHeader userAgent body
      clientIp memory.waf).1 = .allow) (hheader : authHeader ≠ "") :
    node.inspect memory nowMs uri authHeader userAgent body clientIp = (.allow,memory) := by
  unfold Node.inspect
  dsimp only
  generalize houtcome : Waf.inspect node.wafEnv memory.posture.level nowMs uri authHeader userAgent
    body clientIp memory.waf = outcome at hallowed
  obtain ⟨decision,waf⟩ := outcome
  dsimp only at hallowed ⊢
  rw [hallowed] at houtcome ⊢
  rw [Waf.inspect_with_header houtcome hheader]

section
variable (gateway : Gateway NodeMemory) (passage : Passage NodeMemory)

theorem rated_eq : (rated node.env nowMs gateway passage).2 =
      { passage.inspected with rate := (rated node.env nowMs gateway passage).2.rate } := rfl

theorem counted_eq : (counted node.env nowMs gateway passage).2 =
      { (rated node.env nowMs gateway passage).2 with
        quota := (counted node.env nowMs gateway passage).2.quota } := by
  unfold counted Pipeline.checkQuota
  split
  · rfl
  · rfl

end

theorem counted_quota {policy : QuotaPolicy}
    (hpasses : Passes node.env nowMs args gateway passage)
    (hidentity : identityOf node.env nowMs gateway passage = some identity)
    (hquota : passage.service.quota = some policy) : ((counted node.env nowMs gateway passage).1,
        (counted node.env nowMs gateway passage).2.quota) =
      Quota.checkQuota node.sha256 nowMs passage.service.name identity.userId policy
        gateway.worker.memory.quota := by
  have hbefore : (rated node.env nowMs gateway passage).2.quota = gateway.worker.memory.quota := by
    rw [rated_eq,inspected_eq hpasses]
  unfold counted Pipeline.checkQuota
  rw [hidentity,hquota,← hbefore]
  rfl

def liveness (gateway : Gateway NodeMemory) : Liveness := ⟨gateway.shm,gateway.worker.memory.health⟩

section
variable (hpasses : Passes node.env nowMs args gateway passage)
include hpasses

theorem selected_answers :
    Answers node.fxHash (nowMs / 1000) (poolOf passage.service passage.region) (liveness gateway)
      ((selected node.env nowMs args gateway passage).1,
        ⟨(selected node.env nowMs args gateway passage).2.2,
          (selected node.env nowMs args gateway passage).2.1.health⟩) := by
  have hhealth : (counted node.env nowMs gateway passage).2.health = gateway.worker.memory.health := by
    rw [counted_eq,rated_eq,inspected_eq hpasses]
  unfold liveness
  rw [← hhealth]
  exact selectUpstream_answers node.fxHash (nowMs / 1000)
    (counted node.env nowMs gateway passage).2.latencies passage.service passage.region
    (userKey node.env nowMs gateway passage) (optionalText args.canaryHint)
    ⟨gateway.shm,(counted node.env nowMs gateway passage).2.health⟩

def Serves (node : Node) (nowMs : Nat) (gateway : Gateway NodeMemory) (service : ServiceConfig)
    (region : String) : Prop :=
  ∃ upstream ∈ poolOf service region,
    usable node.fxHash (nowMs / 1000) (liveness gateway) upstream.address = true

theorem selected_isSome_iff : (selected node.env nowMs args gateway passage).1.isSome = true ↔
      Serves node nowMs gateway passage.service passage.region :=
  (selected_answers hpasses).isSome_iff

end

theorem admitted_memory {upstream : String} {final : Gateway NodeMemory}
    (hadmitted : Admitted node.env nowMs args gateway passage upstream final) :
    final.worker.memory = { passage.inspected with
      rate := (rated node.env nowMs gateway passage).2.rate
      quota := (counted node.env nowMs gateway passage).2.quota
      health := final.worker.memory.health } := by
  have hselected : (selected node.env nowMs args gateway passage).2.1 =
      { (counted node.env nowMs gateway passage).2 with
        health := (selected node.env nowMs args gateway passage).2.1.health } := rfl
  rw [hadmitted.memory,hselected,counted_eq,rated_eq]

end

/-! ## A sample node -/

def sampleNode : Node where
  auth := sampleEnv
  fxHash := String.length
  fromStr := fun _ => none
  packedHeaders := fun _ _ => ""
  processId := 1
  gatewayRegionVar := none
  ipRateLimitVar := none
  rlRedisEnabled := false

def sampleService (regions : List String) : ServiceConfig where
  name := "api"
  rateLimitMax := 10
  regionalUpstreams := fun region =>
    if region ∈ regions then some [⟨"a","a:80",1,""⟩] else none
  requireAuth := false
  canary := none
  quota := none

def sampleMemory (policy : Option ValidationConfig) (attempts : List Quota.Attempt) : NodeMemory where
  waf := ⟨0,.empty _⟩
  rate := ⟨.empty _,none⟩
  quota := ⟨false,attempts,fun _ => none⟩
  router := fun _ => some ⟨"api","normal",policy⟩
  posture := .initial
  health := freshHealth
  latencies := fun _ => none
  metrics := ⟨0,0,0,0⟩

def sampleGateway (service : ServiceConfig) (policy : Option ValidationConfig) : Gateway NodeMemory where
  worker :=
    { config := { GatewayConfig.default with services := fun _ => some service }
      snapshot := RevocationSnapshot.empty
      cache := LruCache.empty tokenCacheCapacity
      inFlight := 0
      requestCounter := 0
      memory := sampleMemory policy [] }
  shm := freshShm
  out := OutBuffers.zeroed

def sampleArgs (authHeader : String) : RequestArgs where
  authHeader := some (utf8 authHeader)
  path := some (utf8 "/api")
  userAgent := some (utf8 "curl")
  body := some []
  clientIp := some (utf8 "10.0.0.1")
  canaryHint := some []
  contentType := some []

section
variable (identity : UserIdentity) (service : ServiceConfig) (attempts : List Quota.Attempt)

def sampleKnowing : Gateway NodeMemory :=
  ((sampleGateway service none).setCache ((LruCache.empty tokenCacheCapacity).put "t"
    ⟨identity,2000,none⟩)).setMemory (sampleMemory none attempts)

def samplePassage (service : ServiceConfig) (region : String) (attempts : List Quota.Attempt) :
    Passage NodeMemory where
  authHeader := utf8 "Bearer t"
  path := utf8 "/api"
  inspected := sampleMemory none attempts
  route := ⟨"api","normal",none⟩
  service := service
  region := region

theorem sample_validation :
    (validation sampleNode.env 1000000 (sampleKnowing identity service attempts)
      (utf8 "Bearer t")).1 = some identity := by
  have hdecoded : decode (utf8 "Bearer t") = "Bearer t" := by decide +kernel
  have hstripped : stripBearer "Bearer t" = some "t" := by decide +kernel
  unfold validation validateToken
  rw [hdecoded,hstripped]
  rfl

end

theorem sample_passes {region : String} (service : ServiceConfig)
    (attempts : List Quota.Attempt) (hregion : resolveRegion identity.homeRegion "US" = .ok region) :
    Passes sampleNode.env 1000000 (sampleArgs "Bearer t") (sampleKnowing identity service attempts)
      (samplePassage service region attempts) where
  granted := by
    have hgranted : (acquire GatewayConfig.default .stateClosed 0).1 = true := by decide +kernel
    exact hgranted
  header := rfl
  uri := rfl
  allowed := by
    have hallowed : (Waf.inspect sampleNode.wafEnv 0 1000000 (decode (utf8 "/api"))
        (decode (utf8 "Bearer t")) (decode (utf8 "curl")) "" (decode (utf8 "10.0.0.1"))
        ⟨0,FixedWindow.Table.empty _⟩).1 = .allow := by decide +kernel
    have hheader : decode (utf8 "Bearer t") ≠ "" := by decide +kernel
    have hbody : bodyText sampleNode.env (sampleArgs "Bearer t") = "" := rfl
    rw [hbody]
    exact sampleNode.inspect_with_header (sampleMemory none attempts) hallowed hheader
  matched := rfl
  configured := rfl
  resident := by
    unfold identityOf
    rw [samplePassage,sample_validation]
    exact hregion

end Routiq.Edge.Assembly
