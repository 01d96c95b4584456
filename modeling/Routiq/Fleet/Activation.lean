import Routiq.ControlPlane.Validation
import Routiq.ControlPlane.Sidecar
import Routiq.Edge.Schema

/-! A pushed configuration on its way to a worker: the control plane's schema,
the sidecar's check and the gateway's schema over the same documents. -/
namespace Routiq.Fleet.Activation
open Core.Documents Core.Serde ControlPlane.Schema ControlPlane.Validation ControlPlane.Sidecar
open Edge.Schema (gatewayConfig validationConfig quotaPolicy corsConfig validationShape quotaShape
  corsShape)

def acceptedSnapshot (jwtSecret : String) (body : Json) : Option ConfigSnapshot := do
  let posted ← ConfigSnapshot.fromJson body
  let snapshot := { posted with jwtSecret }
  if (validateConfig snapshot).valid then return snapshot else none

def snapshotView : JsonView Json where
  version json := json.member "version" >>= string
  routes json := (json.member "routes").bind fun
    | .array items => some items.length
    | _ => none
  services json := (json.member "services").bind fun
    | .object members => some members.length
    | _ => none
  revision json := (json.member "revision" >>= u64).map UInt64.toNat

section
variable (snapshot : ConfigSnapshot) (revision timestamp : UInt64)

/-- The file a worker reads: the served body, parsed by the sidecar and written
out again. -/
def activatedFile : Json := (snapshotEnvelope snapshot revision timestamp).value

structure Distributed (jwtSecret : String) (body : Json) (revision timestamp : UInt64)
    (snapshot : ConfigSnapshot) : Prop where
  accepted : acceptedSnapshot jwtSecret body = some snapshot
  validated : (validateSnapshot snapshotView (activatedFile snapshot revision timestamp)).isOk = true

/-- The policies that the control plane passes on unread have the gateway's
shapes. -/
structure EdgePolicies (snapshot : ConfigSnapshot) : Prop where
  validations : ∀ route ∈ snapshot.routes, ∀ policy ∈ route.validation, validationShape policy.json
  quotas : ∀ service ∈ snapshot.services.values, ∀ policy ∈ service.quota, quotaShape policy.json
  cors : ∀ policy ∈ snapshot.cors, corsShape policy.json

/-! ## What arrives -/

def receivedUpstream (upstream : Upstream) : Edge.Config.Upstream :=
  ⟨upstream.name,upstream.address,upstream.weight.toNat,upstream.version⟩

def receivedCanary (canary : CanaryPolicy) : Edge.Config.CanaryPolicy :=
  ⟨canary.version,canary.percent.toNat⟩

def receivedHealthCheck (check : HealthCheckConfig) : Edge.Schema.HealthCheckConfig :=
  ⟨check.enabled,check.path,check.intervalSecs.toNat,check.timeoutMs.toNat,
    check.unhealthyThreshold.toNat,check.healthyThreshold.toNat⟩

def receivedRoute (route : Route) (validation : Option Edge.Config.ValidationConfig) : Edge.Schema.Route :=
  ⟨route.pathPrefix,route.serviceName,route.stripPrefix,route.tier,validation⟩

section
variable (service : ServiceConfig)

def receivedService (quota : Option Edge.Config.QuotaPolicy) : Edge.Config.ServiceConfig where
  name := service.name
  rateLimitMax := service.rateLimitMax.toNat
  regionalUpstreams := (service.regionalUpstreams.mapValues (List.map receivedUpstream)).get
  requireAuth := service.requireAuth
  canary := service.canary.map receivedCanary
  quota := quota

/-- The secret fields are not served and arrive as the gateway's defaults. -/
def receivedConfig (snapshot : ConfigSnapshot) (services : Mapping Edge.Config.ServiceConfig)
    (routes : List Edge.Schema.Route) (cors : Option Edge.Schema.CorsConfig) : Edge.Schema.GatewayConfig where
  globalMaxConcurrency := snapshot.globalMaxConcurrency.toNat
  jwtSecret := "default_secret"
  jwtKeys := Mapping.empty.get
  expectedIssuer := snapshot.expectedIssuer
  expectedAudience := snapshot.expectedAudience
  services := services.get
  version := snapshot.version
  routes := routes
  healthCheck := snapshot.healthCheck.map receivedHealthCheck
  cors := cors

theorem upstream_toJson (upstream : Upstream) :
    Edge.Schema.upstream upstream.toJson = some (receivedUpstream upstream) := rfl

theorem canaryPolicy_toJson (canary : CanaryPolicy) :
    Edge.Schema.canaryPolicy canary.toJson = some (receivedCanary canary) := by
  simp [Edge.Schema.canaryPolicy,CanaryPolicy.slots_toJson,required,orDefault,string,Edge.Schema.smallNat,receivedCanary]

theorem healthCheckConfig_toJson (check : HealthCheckConfig) :
    Edge.Schema.healthCheckConfig check.toJson = some (receivedHealthCheck check) := by
  simp [Edge.Schema.healthCheckConfig,HealthCheckConfig.slots_toJson,orDefault,string,boolean,Edge.Schema.usize,
    Edge.Schema.smallNat,receivedHealthCheck]

theorem route_toJson (route : Route) : Edge.Schema.route route.toJson =
      (option validationConfig (ofOption JsonValue.json route.validation)).map (receivedRoute route) := by
  simp [Edge.Schema.route,Route.slots_toJson,required,orDefault,string,boolean,Option.map_eq_bind,
    Function.comp_def,receivedRoute]

theorem serviceConfig_toJson : Edge.Schema.serviceConfig service.toJson =
      (option quotaPolicy (ofOption JsonValue.json service.quota)).map (receivedService service) := by
  have hupstreams := mapping_ofMapping (sequence_ofList upstream_toJson) service.regionalUpstreams
  have hcanary := option_ofOption (fun _ => rfl) canaryPolicy_toJson service.canary
  simp [Edge.Schema.serviceConfig,ServiceConfig.slots_toJson,required,orDefault,string,boolean,Edge.Schema.usize,hupstreams,
    hcanary,Option.map_eq_bind,Function.comp_def,receivedService]

theorem gatewayConfig_activatedFile : gatewayConfig (activatedFile snapshot revision timestamp) = (do
      let services ← mapping Edge.Schema.serviceConfig (ofMapping ServiceConfig.toJson snapshot.services)
      let routes ← sequence Edge.Schema.route (ofList Route.toJson snapshot.routes)
      let cors ← option corsConfig (ofOption JsonValue.json snapshot.cors)
      return receivedConfig snapshot services routes cors) := by
  have hslots : slotsOf ["version","global_max_concurrency","jwt_secret","jwt_keys","expected_issuer",
      "expected_audience","services","routes","health_check","cors"]
      (snapshotEnvelope snapshot revision timestamp) =
      some [some (.text snapshot.version),some (ofU64 snapshot.globalMaxConcurrency),none,none,
        some (.text snapshot.expectedIssuer),some (.text snapshot.expectedAudience),
        some (ofMapping ServiceConfig.toJson snapshot.services),some (ofList Route.toJson snapshot.routes),
        some (ofOption HealthCheckConfig.toJson snapshot.healthCheck),
        some (ofOption JsonValue.json snapshot.cors)] := rfl
  have hhealth := option_ofOption (fun _ => rfl) healthCheckConfig_toJson snapshot.healthCheck
  rw [activatedFile,snapshotEnvelope_normal]
  simp [gatewayConfig,hslots,required,orDefault,string,Edge.Schema.usize,hhealth,receivedConfig]

theorem received_routes_services {snapshot : ConfigSnapshot} {revision timestamp : UInt64}
    {config : Edge.Schema.GatewayConfig}
    (hconfig : gatewayConfig (activatedFile snapshot revision timestamp) = some config) :
    (∀ received ∈ config.routes, ∃ route ∈ snapshot.routes, ∃ validation,
      received = receivedRoute route validation) ∧
    ∀ name, (snapshot.services.get name).isSome = true → (config.services name).isSome = true := by
  rw [gatewayConfig_activatedFile] at hconfig
  obtain ⟨services,hservices,hrest⟩ := Option.bind_eq_some_iff.mp hconfig
  obtain ⟨routes,hroutes,hrest⟩ := Option.bind_eq_some_iff.mp hrest
  obtain ⟨cors,_,hbuilt⟩ := Option.bind_eq_some_iff.mp hrest
  rw [← Option.some.inj hbuilt]
  constructor
  · intro received hreceived
    obtain ⟨route,hroute,hread⟩ := mem_of_sequence hroutes hreceived
    rw [route_toJson] at hread
    obtain ⟨validation,_,rfl⟩ := Option.map_eq_some_iff.mp hread
    exact ⟨route,hroute,validation,rfl⟩
  · intro name hname
    exact isSome_get_of_mapping hservices hname

/-! ## Which files arrive -/

theorem isSome_policy {Value : Type} {decode : Json → Option Value} {shape : Json → Prop}
    (hdecode : Accepts decode shape) (policy : Option JsonValue) :
    (option decode (ofOption JsonValue.json policy)).isSome = true ↔ ∀ value ∈ policy, shape value.json := by
  cases policy with
  | none => simp [ofOption,option]
  | some value =>
    rw [ofOption,option_of_present value.present,Option.isSome_map,hdecode]
    simp

theorem isSome_route (route : Route) : (Edge.Schema.route route.toJson).isSome = true ↔
      ∀ policy ∈ route.validation, validationShape policy.json := by
  rw [route_toJson,Option.isSome_map]
  exact isSome_policy Edge.Schema.validationConfig_accepts route.validation

theorem isSome_serviceConfig : (Edge.Schema.serviceConfig service.toJson).isSome = true ↔
      ∀ policy ∈ service.quota, quotaShape policy.json := by
  rw [serviceConfig_toJson,Option.isSome_map]
  exact isSome_policy Edge.Schema.quotaPolicy_accepts service.quota

end

theorem isSome_activatedFile :
    (gatewayConfig (activatedFile snapshot revision timestamp)).isSome = true ↔ EdgePolicies snapshot := by
  rw [gatewayConfig_activatedFile,isSome_bind fun services => isSome_bind fun routes =>
    isSome_bind fun cors => iff_true_intro rfl,isSome_mapping,isSome_sequence,
    isSome_policy Edge.Schema.corsConfig_accepts]
  simp only [isSome_serviceConfig,isSome_route,and_true]
  constructor
  · rintro ⟨hquotas,hvalidations,hcors⟩
    exact ⟨hvalidations,hquotas,hcors⟩
  · rintro ⟨hvalidations,hquotas,hcors⟩
    exact ⟨hquotas,hvalidations,hcors⟩

end

/-- A pushed configuration replaces the worker's if and only if the policies
that nobody checked on the way have the gateway's shapes. -/
theorem distributed_activates_iff_edgePolicies (jwtSecret : String) (body : Json) (revision timestamp : UInt64) :
    (∀ snapshot, Distributed jwtSecret body revision timestamp snapshot →
      (gatewayConfig (activatedFile snapshot revision timestamp)).isSome = true) ↔
    ∀ snapshot, Distributed jwtSecret body revision timestamp snapshot → EdgePolicies snapshot :=
  forall₂_congr fun snapshot _ => isSome_activatedFile snapshot revision timestamp

/-! ## A quota that only the gateway reads -/

def quotedQuotaBody : Json := .object [("version",.text "v2"),
    ("services",.object [("users",.object [("name",.text "users"),
      ("regional_upstreams",.object [("us-east",.array [.object [("name",.text "a"),
        ("address",.text "10.0.0.1:80")]])]),
      ("quota",.object [("daily_limit",.text "100")])])]),
    ("routes",.array [.object [("path_prefix",.text "/users"),("service_name",.text "users")]])]

theorem quotedQuota_distributed_not_activated :
    ∃ snapshot, Distributed "secret" quotedQuotaBody 7 0 snapshot ∧
      gatewayConfig (activatedFile snapshot 7 0) = none := by
  have haccepted : (acceptedSnapshot "secret" quotedQuotaBody).isSome = true := by decide +kernel
  obtain ⟨snapshot,hsnapshot⟩ := Option.isSome_iff_exists.mp haccepted
  have hfile : (acceptedSnapshot "secret" quotedQuotaBody).map (fun snapshot =>
      ((validateSnapshot snapshotView (activatedFile snapshot 7 0)).isOk,
        (gatewayConfig (activatedFile snapshot 7 0)).isNone)) = some (true,true) := by decide +kernel
  rw [hsnapshot,Option.map_some,Option.some.injEq,Prod.mk.injEq] at hfile
  exact ⟨snapshot,⟨hsnapshot,hfile.1⟩,Option.isNone_iff_eq_none.mp hfile.2⟩

end Routiq.Fleet.Activation
