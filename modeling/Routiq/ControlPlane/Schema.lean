import Routiq.Core.Serde

/-! The configuration as the control plane has it: what it accepts as JSON and
what it writes. The policies that belong to the gateway stay JSON values. -/
namespace Routiq.ControlPlane.Schema
open Core.Documents Core.Serde

/-! ## Data -/

structure Upstream where
  (name address : String)
  weight : UInt64
  version : String
deriving DecidableEq

structure CanaryPolicy where
  version : String
  percent : UInt32
deriving DecidableEq

structure Route where
  (pathPrefix serviceName : String)
  stripPrefix : Bool
  tier : String
  validation : Option JsonValue

structure ServiceConfig where
  name : String
  rateLimitMax : UInt64
  regionalUpstreams : Mapping (List Upstream)
  requireAuth : Bool
  canary : Option CanaryPolicy
  quota : Option JsonValue

structure HealthCheckConfig where
  enabled : Bool
  path : String
  (intervalSecs timeoutMs : UInt64)
  (unhealthyThreshold healthyThreshold : UInt32)
deriving DecidableEq

structure ConfigSnapshot where
  version : String
  globalMaxConcurrency : UInt64
  jwtSecret : String
  jwtKeys : Mapping String
  (expectedIssuer expectedAudience : String)
  services : Mapping ServiceConfig
  routes : List Route
  healthCheck : Option HealthCheckConfig
  cors : Option JsonValue

/-! ## Deserialisation -/

def defaultWeight : UInt64 := 1
def defaultRateLimit : UInt64 := 1000
def defaultConcurrency : UInt64 := 10000
def defaultJwt : String := "super_secret_key_for_hmac_sha256"
def defaultIssuer : String := "api-gateway-auth-server"
def defaultAudience : String := "api-gateway-clients"
def defaultHealthPath : String := "/health"
def defaultHealthInterval : UInt64 := 10
def defaultHealthTimeout : UInt64 := 2000
def defaultHealthUnhealthy : UInt32 := 3
def defaultHealthHealthy : UInt32 := 2
section
variable (json : Json)

def Upstream.fromJson : Option Upstream := do
  match ← slotsOf ["name","address","weight","version"] json with
  | [name,address,weight,version] =>
    let name ← required string name
    let address ← required string address
    let weight ← orDefault u64 defaultWeight weight
    let version ← orDefault string "" version
    return { name, address, weight, version }
  | _ => none

def CanaryPolicy.fromJson : Option CanaryPolicy := do
  match ← slotsOf ["version","percent"] json with
  | [version,percent] =>
    let version ← required string version
    let percent ← orDefault u32 0 percent
    return { version, percent }
  | _ => none

def Route.fromJson : Option Route := do
  match ← slotsOf ["path_prefix","service_name","strip_prefix","tier","validation"] json with
  | [pathPrefix,serviceName,stripPrefix,tier,validation] =>
    let pathPrefix ← required string pathPrefix
    let serviceName ← required string serviceName
    let stripPrefix ← orDefault boolean false stripPrefix
    let tier ← orDefault string "" tier
    let validation ← orDefault (option anyValue) none validation
    return { pathPrefix, serviceName, stripPrefix, tier, validation }
  | _ => none

def ServiceConfig.fromJson : Option ServiceConfig := do
  match ← slotsOf ["name","rate_limit_max","regional_upstreams","require_auth","canary","quota"] json with
  | [name,rateLimitMax,regionalUpstreams,requireAuth,canary,quota] =>
    let name ← required string name
    let rateLimitMax ← orDefault u64 defaultRateLimit rateLimitMax
    let regionalUpstreams ← required (mapping (sequence Upstream.fromJson)) regionalUpstreams
    let requireAuth ← orDefault boolean true requireAuth
    let canary ← orDefault (option CanaryPolicy.fromJson) none canary
    let quota ← orDefault (option anyValue) none quota
    return { name, rateLimitMax, regionalUpstreams, requireAuth, canary, quota }
  | _ => none

def HealthCheckConfig.fromJson : Option HealthCheckConfig := do
  match ← slotsOf ["enabled","path","interval_secs","timeout_ms","unhealthy_threshold",
      "healthy_threshold"] json with
  | [enabled,path,intervalSecs,timeoutMs,unhealthyThreshold,healthyThreshold] =>
    let enabled ← orDefault boolean true enabled
    let path ← orDefault string defaultHealthPath path
    let intervalSecs ← orDefault u64 defaultHealthInterval intervalSecs
    let timeoutMs ← orDefault u64 defaultHealthTimeout timeoutMs
    let unhealthyThreshold ← orDefault u32 defaultHealthUnhealthy unhealthyThreshold
    let healthyThreshold ← orDefault u32 defaultHealthHealthy healthyThreshold
    return { enabled, path, intervalSecs, timeoutMs, unhealthyThreshold, healthyThreshold }
  | _ => none

def ConfigSnapshot.fromJson : Option ConfigSnapshot := do
  match ← slotsOf ["version","global_max_concurrency","jwt_secret","jwt_keys","expected_issuer",
      "expected_audience","services","routes","health_check","cors"] json with
  | [version,globalMaxConcurrency,jwtSecret,jwtKeys,expectedIssuer,expectedAudience,services,
      routes,healthCheck,cors] =>
    let version ← required string version
    let globalMaxConcurrency ← orDefault u64 defaultConcurrency globalMaxConcurrency
    let jwtSecret ← orDefault string defaultJwt jwtSecret
    let jwtKeys ← orDefault (mapping string) .empty jwtKeys
    let expectedIssuer ← orDefault string defaultIssuer expectedIssuer
    let expectedAudience ← orDefault string defaultAudience expectedAudience
    let services ← orDefault (mapping ServiceConfig.fromJson) .empty services
    let routes ← orDefault (sequence Route.fromJson) [] routes
    let healthCheck ← orDefault (option HealthCheckConfig.fromJson) none healthCheck
    let cors ← orDefault (option anyValue) none cors
    return { version, globalMaxConcurrency, jwtSecret, jwtKeys, expectedIssuer, expectedAudience,
             services, routes, healthCheck, cors }
  | _ => none

end

/-! ## Serialisation -/

def Upstream.toJson (upstream : Upstream) : Json :=
  .object [("name",.text upstream.name),("address",.text upstream.address),
    ("weight",ofU64 upstream.weight),("version",.text upstream.version)]

def CanaryPolicy.toJson (canary : CanaryPolicy) : Json :=
  .object [("version",.text canary.version),("percent",ofU32 canary.percent)]

def Route.toJson (route : Route) : Json :=
  .object [("path_prefix",.text route.pathPrefix),("service_name",.text route.serviceName),
    ("strip_prefix",.bool route.stripPrefix),("tier",.text route.tier),
    ("validation",ofOption JsonValue.json route.validation)]

def ServiceConfig.toJson (service : ServiceConfig) : Json :=
  .object [("name",.text service.name),("rate_limit_max",ofU64 service.rateLimitMax),
    ("regional_upstreams",ofMapping (ofList Upstream.toJson) service.regionalUpstreams),
    ("require_auth",.bool service.requireAuth),("canary",ofOption CanaryPolicy.toJson service.canary),
    ("quota",ofOption JsonValue.json service.quota)]

def HealthCheckConfig.toJson (check : HealthCheckConfig) : Json :=
  .object [("enabled",.bool check.enabled),("path",.text check.path),
    ("interval_secs",ofU64 check.intervalSecs),("timeout_ms",ofU64 check.timeoutMs),
    ("unhealthy_threshold",ofU32 check.unhealthyThreshold),
    ("healthy_threshold",ofU32 check.healthyThreshold)]

section
variable (snapshot : ConfigSnapshot)

/-- The secret fields are skipped. -/
def ConfigSnapshot.members : List (String × Json) :=
  [("version",.text snapshot.version),("global_max_concurrency",ofU64 snapshot.globalMaxConcurrency),
    ("expected_issuer",.text snapshot.expectedIssuer),("expected_audience",.text snapshot.expectedAudience),
    ("services",ofMapping ServiceConfig.toJson snapshot.services),
    ("routes",ofList Route.toJson snapshot.routes),
    ("health_check",ofOption HealthCheckConfig.toJson snapshot.healthCheck),
    ("cors",ofOption JsonValue.json snapshot.cors)]

def ConfigSnapshot.toJson : Json := .object snapshot.members

/-- The body of `GET /config`: the snapshot's members, then the revision and
the time. -/
def snapshotEnvelope (revision timestamp : UInt64) : Json :=
  .object (snapshot.members ++ [("revision",ofU64 revision),("timestamp",ofU64 timestamp)])

end

/-! ## What is written is read back -/

theorem Upstream.fromJson_toJson (upstream : Upstream) : fromJson upstream.toJson = some upstream := rfl

variable (canary : CanaryPolicy)

theorem CanaryPolicy.slots_toJson : slotsOf ["version","percent"] canary.toJson =
      some [some (.text canary.version),some (ofU32 canary.percent)] := rfl

theorem CanaryPolicy.fromJson_toJson : fromJson canary.toJson = some canary := by
  simp [fromJson,slots_toJson,required,orDefault,string]

theorem option_json (value : Option JsonValue) :
    option anyValue (ofOption JsonValue.json value) = some value := by
  have hread := option_ofOption JsonValue.present anyValue_json value
  rwa [Option.map_id'] at hread

theorem Route.slots_toJson (route : Route) :
    slotsOf ["path_prefix","service_name","strip_prefix","tier","validation"] route.toJson =
      some [some (.text route.pathPrefix),some (.text route.serviceName),some (.bool route.stripPrefix),
        some (.text route.tier),some (ofOption JsonValue.json route.validation)] := rfl

theorem Route.fromJson_toJson (route : Route) : fromJson route.toJson = some route := by
  simp [fromJson,slots_toJson,required,orDefault,string,boolean,option_json]

variable (service : ServiceConfig)

theorem ServiceConfig.slots_toJson :
    slotsOf ["name","rate_limit_max","regional_upstreams","require_auth","canary","quota"]
      service.toJson =
      some [some (.text service.name),some (ofU64 service.rateLimitMax),
        some (ofMapping (ofList Upstream.toJson) service.regionalUpstreams),some (.bool service.requireAuth),
        some (ofOption CanaryPolicy.toJson service.canary),some (ofOption JsonValue.json service.quota)] := rfl

theorem ServiceConfig.fromJson_toJson : fromJson service.toJson = some service := by
  have hupstreams : mapping (sequence Upstream.fromJson)
      (ofMapping (ofList Upstream.toJson) service.regionalUpstreams) = some service.regionalUpstreams := by
    have hlist : ∀ upstreams, sequence Upstream.fromJson (ofList Upstream.toJson upstreams) = some upstreams := by
      intro upstreams
      simpa using sequence_ofList Upstream.fromJson_toJson upstreams
    simpa using mapping_ofMapping hlist service.regionalUpstreams
  have hcanary : option CanaryPolicy.fromJson (ofOption CanaryPolicy.toJson service.canary) =
      some service.canary := by
    simpa using option_ofOption (fun _ => rfl) CanaryPolicy.fromJson_toJson service.canary
  simp [fromJson,slots_toJson,required,orDefault,string,boolean,option_json,hupstreams,hcanary]

variable (check : HealthCheckConfig)

theorem HealthCheckConfig.slots_toJson :
    slotsOf ["enabled","path","interval_secs","timeout_ms","unhealthy_threshold",
      "healthy_threshold"] check.toJson =
      some [some (.bool check.enabled),some (.text check.path),some (ofU64 check.intervalSecs),
        some (ofU64 check.timeoutMs),some (ofU32 check.unhealthyThreshold),
        some (ofU32 check.healthyThreshold)] := rfl

theorem HealthCheckConfig.fromJson_toJson : fromJson check.toJson = some check := by
  simp [fromJson,slots_toJson,orDefault,string,boolean]

theorem ConfigSnapshot.fromJson_toJson (snapshot : ConfigSnapshot) :
    fromJson snapshot.toJson = some { snapshot with jwtSecret := defaultJwt, jwtKeys := .empty } := by
  have hslots : slotsOf ["version","global_max_concurrency","jwt_secret","jwt_keys","expected_issuer",
      "expected_audience","services","routes","health_check","cors"] snapshot.toJson =
      some [some (.text snapshot.version),some (ofU64 snapshot.globalMaxConcurrency),none,none,
        some (.text snapshot.expectedIssuer),some (.text snapshot.expectedAudience),
        some (ofMapping ServiceConfig.toJson snapshot.services),some (ofList Route.toJson snapshot.routes),
        some (ofOption HealthCheckConfig.toJson snapshot.healthCheck),
        some (ofOption JsonValue.json snapshot.cors)] := rfl
  have hservices : mapping ServiceConfig.fromJson (ofMapping ServiceConfig.toJson snapshot.services) =
      some snapshot.services := by
    simpa using mapping_ofMapping ServiceConfig.fromJson_toJson snapshot.services
  have hroutes : sequence Route.fromJson (ofList Route.toJson snapshot.routes) = some snapshot.routes := by
    simpa using sequence_ofList Route.fromJson_toJson snapshot.routes
  have hhealth : option HealthCheckConfig.fromJson (ofOption HealthCheckConfig.toJson snapshot.healthCheck) =
      some snapshot.healthCheck := by
    simpa using option_ofOption (fun _ => rfl) HealthCheckConfig.fromJson_toJson snapshot.healthCheck
  simp [fromJson,hslots,required,orDefault,string,option_json,hservices,hroutes,hhealth]

theorem Upstream.toJson_normal (upstream : Upstream) : upstream.toJson.Normal := rfl

theorem CanaryPolicy.toJson_normal : canary.toJson.Normal := rfl

theorem HealthCheckConfig.toJson_normal : check.toJson.Normal := rfl

theorem Route.toJson_normal (route : Route) : route.toJson.Normal := by
  have hvalidation : (ofOption JsonValue.json route.validation).Normal :=
    normal_ofOption JsonValue.normal route.validation
  apply Json.normal_object
  · simp
  · simp [hvalidation]

theorem ServiceConfig.toJson_normal : service.toJson.Normal := by
  have hupstreams : (ofMapping (ofList Upstream.toJson) service.regionalUpstreams).Normal :=
    normal_ofMapping (normal_ofList Upstream.toJson_normal) service.regionalUpstreams
  have hcanary : (ofOption CanaryPolicy.toJson service.canary).Normal :=
    normal_ofOption CanaryPolicy.toJson_normal service.canary
  have hquota : (ofOption JsonValue.json service.quota).Normal :=
    normal_ofOption JsonValue.normal service.quota
  apply Json.normal_object
  · simp
  · simp [hupstreams,hcanary,hquota]

theorem snapshotEnvelope_normal (snapshot : ConfigSnapshot) (revision timestamp : UInt64) :
    (snapshotEnvelope snapshot revision timestamp).Normal := by
  have hservices : (ofMapping ServiceConfig.toJson snapshot.services).Normal :=
    normal_ofMapping ServiceConfig.toJson_normal snapshot.services
  have hroutes : (ofList Route.toJson snapshot.routes).Normal :=
    normal_ofList Route.toJson_normal snapshot.routes
  have hhealth : (ofOption HealthCheckConfig.toJson snapshot.healthCheck).Normal :=
    normal_ofOption HealthCheckConfig.toJson_normal snapshot.healthCheck
  have hcors : (ofOption JsonValue.json snapshot.cors).Normal :=
    normal_ofOption JsonValue.normal snapshot.cors
  apply Json.normal_object
  · simp [ConfigSnapshot.members]
  · simp [ConfigSnapshot.members,hservices,hroutes,hhealth,hcors]

end Routiq.ControlPlane.Schema
