import Routiq.Core.Serde
import Routiq.Edge.Config

/-! The configuration file as a worker reads it: the typed schema of the
gateway. -/
namespace Routiq.Edge.Schema
open Core.Documents Core.Serde
open Config (Upstream CanaryPolicy QuotaPolicy FieldType RequiredField ValidationConfig ServiceConfig)

/-! ## Data -/

structure Route where
  (pathPrefix serviceName : String)
  stripPrefix : Bool
  tier : String
  validation : Option ValidationConfig
deriving DecidableEq

structure CorsConfig where
  allowedOrigins : List String
  allowCredentials : Bool
  (allowedMethods allowedHeaders : String)
  maxAge : Nat
deriving DecidableEq

structure HealthCheckConfig where
  enabled : Bool
  path : String
  (intervalSecs timeoutMs unhealthyThreshold healthyThreshold : Nat)
deriving DecidableEq

structure GatewayConfig extends Config.GatewayConfig where
  version : String
  routes : List Route
  healthCheck : Option HealthCheckConfig
  cors : Option CorsConfig

/-! ## Policies -/

def ctMethods : String := "GET, POST, PUT, PATCH, DELETE, OPTIONS"
def ctHeaders : String :=
  "Content-Type, Authorization, X-Requested-With, Accept, Origin, X-CSRF-Token, X-Canary, X-Request-ID, traceparent"

section
variable (json : Json)

def usize : Option Nat := (u64 json).map UInt64.toNat
def smallNat : Option Nat := (u32 json).map UInt32.toNat

def fieldTypeName : String → Option FieldType
  | "string" => some .string
  | "number" => some .number
  | "boolean" => some .boolean
  | "object" => some .object
  | "array" => some .array
  | _ => none

def requiredField : Option RequiredField := do
  match ← slotsOf ["field","type"] json with
  | [field,type] =>
    let field ← required string field
    let type ← required (variant fieldTypeName) type
    return { field, type }
  | _ => none

def validationConfig : Option ValidationConfig := do
  match ← slotsOf ["max_body_bytes","require_json","required"] json with
  | [maxBodyBytes,requireJson,requiredFields] =>
    let maxBodyBytes ← orDefault (option usize) none maxBodyBytes
    let requireJson ← orDefault boolean false requireJson
    let required ← orDefault (sequence requiredField) [] requiredFields
    return { maxBodyBytes, requireJson, required }
  | _ => none

def quotaPolicy : Option QuotaPolicy := do
  match ← slotsOf ["daily_limit","borrow_percent"] json with
  | [dailyLimit,borrowPercent] =>
    let dailyLimit ← required usize dailyLimit
    let borrowPercent ← orDefault smallNat 0 borrowPercent
    return { dailyLimit, borrowPercent }
  | _ => none

def corsConfig : Option CorsConfig := do
  match ← slotsOf ["allowed_origins","allow_credentials","allowed_methods","allowed_headers",
      "max_age"] json with
  | [allowedOrigins,allowCredentials,allowedMethods,allowedHeaders,maxAge] =>
    let allowedOrigins ← orDefault (sequence string) [] allowedOrigins
    let allowCredentials ← orDefault boolean true allowCredentials
    let allowedMethods ← orDefault string ctMethods allowedMethods
    let allowedHeaders ← orDefault string ctHeaders allowedHeaders
    let maxAge ← orDefault smallNat 600 maxAge
    return { allowedOrigins, allowCredentials, allowedMethods, allowedHeaders, maxAge }
  | _ => none

/-! ## The file -/

def upstream : Option Upstream := do
  match ← slotsOf ["name","address","weight","version"] json with
  | [name,address,weight,version] =>
    let name ← required string name
    let address ← required string address
    let weight ← orDefault usize 0 weight
    let version ← orDefault string "" version
    return { name, address, weight, version }
  | _ => none

def canaryPolicy : Option CanaryPolicy := do
  match ← slotsOf ["version","percent"] json with
  | [version,percent] =>
    let version ← required string version
    let percent ← orDefault smallNat 0 percent
    return { version, percent }
  | _ => none

def route : Option Route := do
  match ← slotsOf ["path_prefix","service_name","strip_prefix","tier","validation"] json with
  | [pathPrefix,serviceName,stripPrefix,tier,validation] =>
    let pathPrefix ← required string pathPrefix
    let serviceName ← required string serviceName
    let stripPrefix ← orDefault boolean false stripPrefix
    let tier ← orDefault string "" tier
    let validation ← orDefault (option validationConfig) none validation
    return { pathPrefix, serviceName, stripPrefix, tier, validation }
  | _ => none

def serviceConfig : Option ServiceConfig := do
  match ← slotsOf ["name","rate_limit_max","regional_upstreams","require_auth","canary","quota"] json with
  | [name,rateLimitMax,regionalUpstreams,requireAuth,canary,quota] =>
    let name ← required string name
    let rateLimitMax ← required usize rateLimitMax
    let regionalUpstreams ← required (mapping (sequence upstream)) regionalUpstreams
    let requireAuth ← required boolean requireAuth
    let canary ← orDefault (option canaryPolicy) none canary
    let quota ← orDefault (option quotaPolicy) none quota
    return { name, rateLimitMax, regionalUpstreams := regionalUpstreams.get, requireAuth, canary, quota }
  | _ => none

def healthCheckConfig : Option HealthCheckConfig := do
  match ← slotsOf ["enabled","path","interval_secs","timeout_ms","unhealthy_threshold",
      "healthy_threshold"] json with
  | [enabled,path,intervalSecs,timeoutMs,unhealthyThreshold,healthyThreshold] =>
    let enabled ← orDefault boolean true enabled
    let path ← orDefault string "/health" path
    let intervalSecs ← orDefault usize 10 intervalSecs
    let timeoutMs ← orDefault usize 2000 timeoutMs
    let unhealthyThreshold ← orDefault smallNat 3 unhealthyThreshold
    let healthyThreshold ← orDefault smallNat 2 healthyThreshold
    return { enabled, path, intervalSecs, timeoutMs, unhealthyThreshold, healthyThreshold }
  | _ => none

def gatewayConfig : Option GatewayConfig := do
  match ← slotsOf ["version","global_max_concurrency","jwt_secret","jwt_keys","expected_issuer",
      "expected_audience","services","routes","health_check","cors"] json with
  | [version,globalMaxConcurrency,jwtSecret,jwtKeys,expectedIssuer,expectedAudience,services,
      routes,healthCheck,cors] =>
    let version ← required string version
    let globalMaxConcurrency ← required usize globalMaxConcurrency
    let jwtSecret ← orDefault string "default_secret" jwtSecret
    let jwtKeys ← orDefault (mapping string) .empty jwtKeys
    let expectedIssuer ← orDefault string "api-gateway-auth-server" expectedIssuer
    let expectedAudience ← orDefault string "api-gateway-clients" expectedAudience
    let services ← required (mapping serviceConfig) services
    let routes ← required (sequence route) routes
    let healthCheck ← orDefault (option healthCheckConfig) none healthCheck
    let cors ← orDefault (option corsConfig) none cors
    return { globalMaxConcurrency, jwtSecret, jwtKeys := jwtKeys.get, expectedIssuer, expectedAudience,
             services := services.get, version, routes, healthCheck, cors }
  | _ => none

end

/-! ## The shapes of the policies -/

def requiredFieldShape : Json → Prop :=
  RecordOf [⟨"field",true,IsText⟩,⟨"type",true,OneOf ["string","number","boolean","object","array"]⟩]

def validationShape : Json → Prop :=
  RecordOf [⟨"max_body_bytes",false,NullOr IsU64⟩,⟨"require_json",false,IsBool⟩,
    ⟨"required",false,ListOf requiredFieldShape⟩]

def quotaShape : Json → Prop := RecordOf [⟨"daily_limit",true,IsU64⟩,⟨"borrow_percent",false,IsU32⟩]

def corsShape : Json → Prop :=
  RecordOf [⟨"allowed_origins",false,ListOf IsText⟩,⟨"allow_credentials",false,IsBool⟩,
    ⟨"allowed_methods",false,IsText⟩,⟨"allowed_headers",false,IsText⟩,⟨"max_age",false,IsU32⟩]

theorem usize_accepts : Accepts usize IsU64 := by
  intro json
  rw [usize,Option.isSome_map]
  exact u64_accepts json

theorem smallNat_accepts : Accepts smallNat IsU32 := by
  intro json
  rw [smallNat,Option.isSome_map]
  exact u32_accepts json

theorem fieldType_accepts :
    Accepts (variant fieldTypeName) (OneOf ["string","number","boolean","object","array"]) := by
  have hname : ∀ name, (fieldTypeName name).isSome = true ↔
      name ∈ ["string","number","boolean","object","array"] := by
    intro name
    unfold fieldTypeName
    split <;> simp_all
  intro json
  unfold variant
  split
  next name => exact hname name
  next name => exact hname name
  next htext hobject =>
    have hshape : ¬OneOf ["string","number","boolean","object","array"] json := by
      unfold OneOf
      split
      next name => exact absurd rfl (htext name)
      next name => exact absurd rfl (hobject name)
      next => exact id
    simp [hshape]

theorem requiredField_accepts : Accepts requiredField requiredFieldShape := by
  refine record_accepts (fun json => rfl) fun slots hlength => ?_
  match slots, hlength with
  | [field,type], _ =>
    exact isSome_required string_accepts fun _ => isSome_required fieldType_accepts fun _ => isSome_done _

theorem validationConfig_accepts : Accepts validationConfig validationShape := by
  refine record_accepts (fun json => rfl) fun slots hlength => ?_
  match slots, hlength with
  | [maxBodyBytes,requireJson,requiredFields], _ =>
    exact isSome_orDefault (option_accepts usize_accepts) _ fun _ =>
      isSome_orDefault boolean_accepts _ fun _ =>
      isSome_orDefault (sequence_accepts requiredField_accepts) _ fun _ => isSome_done _

theorem quotaPolicy_accepts : Accepts quotaPolicy quotaShape := by
  refine record_accepts (fun json => rfl) fun slots hlength => ?_
  match slots, hlength with
  | [dailyLimit,borrowPercent], _ =>
    exact isSome_required usize_accepts fun _ => isSome_orDefault smallNat_accepts _ fun _ => isSome_done _

theorem corsConfig_accepts : Accepts corsConfig corsShape := by
  refine record_accepts (fun json => rfl) fun slots hlength => ?_
  match slots, hlength with
  | [allowedOrigins,allowCredentials,allowedMethods,allowedHeaders,maxAge], _ =>
    exact isSome_orDefault (sequence_accepts string_accepts) _ fun _ =>
      isSome_orDefault boolean_accepts _ fun _ => isSome_orDefault string_accepts _ fun _ =>
      isSome_orDefault string_accepts _ fun _ => isSome_orDefault smallNat_accepts _ fun _ => isSome_done _

end Routiq.Edge.Schema
