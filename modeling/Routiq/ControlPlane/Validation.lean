import Routiq.Core.Strings
import Routiq.ControlPlane.Handlers
import Routiq.ControlPlane.Schema

/-! `validate_config`: the semantic checks of a push. Errors reject it, warnings
do not. -/
namespace Routiq.ControlPlane.Validation
open Core Strings Documents Serde Schema List
open Handlers (ValidationReport)

structure Findings where
  (errors warnings : List String)
deriving DecidableEq

namespace Findings

def none : Findings := ⟨[],[]⟩
def error (message : String) : Findings := ⟨[message],[]⟩
def warning (message : String) : Findings := ⟨[],[message]⟩
def append (first second : Findings) : Findings :=
  ⟨first.errors ++ second.errors,first.warnings ++ second.warnings⟩
def all (findings : List Findings) : Findings := ⟨findings.flatMap errors,findings.flatMap warnings⟩
variable (condition : Bool) (message : String)

def errorIf : Findings := if condition then error message else none
def warningIf : Findings :=
  if condition then warning message else none

end Findings

open Findings (errorIf warningIf)

/-! ## Routes -/

def knownTiers : List String := ["","fast","normal","slow"]
def memberU64 (json : Json) (key : String) : Option UInt64 := (json.member key).bind u64
def routeKey (route : Route) : Text := trim route.pathPrefix.toList
def validPrefix (route : Route) : Bool := (routeKey route).head? = some '/'

def maxBodyWarnings (key : String) (route : Route) : Findings :=
  match route.validation.bind fun value => memberU64 value.json "max_body_bytes" with
  | some max => warningIf (max == 0 || 10485760 < max)
      ("route '" ++ key ++ "' max_body_bytes=" ++ max.toNat.repr ++ " outside sane range (1..10MiB)")
  | Option.none => .none

variable (snapshot : ConfigSnapshot)

def checkRoute (seen : List Text) (route : Route) : Findings :=
  let key := String.ofList (routeKey route)
  if validPrefix route then
    .all [errorIf (routeKey route ∈ seen) ("duplicate route path_prefix '" ++ key ++ "'"),
      errorIf (snapshot.services.get route.serviceName).isNone
        ("route '" ++ key ++ "' references unknown service '" ++ route.serviceName ++ "'"),
      errorIf (route.tier ∉ knownTiers) ("route '" ++ key ++ "' has unknown tier '" ++ route.tier ++ "'"),
      maxBodyWarnings key route]
  else .error ("route '" ++ route.pathPrefix ++ "' has an invalid path_prefix (must start with '/')")

/-- An invalid prefix is not remembered. -/
def checkRoutes (seen : List Text) : List Route → Findings
  | [] => .none
  | route :: routes =>
    (checkRoute snapshot seen route).append
      (checkRoutes (if validPrefix route then routeKey route :: seen else seen) routes)

/-! ## Services -/

def bareAddress (address : Text) : Bool :=
  address.contains ':' && !"http".toList.isPrefixOf address && !address.contains '/' && !address.contains ' '

def checkUpstream (service : String) (upstream : Upstream) : Findings :=
  let address := trim upstream.address.toList
  .all [errorIf (!bareAddress address)
      ("service '" ++ service ++ "' upstream '" ++ upstream.name ++ "' address '" ++ String.ofList address ++
        "' must be bare host:port"),
    warningIf (1000 < upstream.weight)
      ("service '" ++ service ++ "' upstream '" ++ upstream.name ++ "' weight " ++ upstream.weight.toNat.repr ++
        " unusually high")]

def checkRegion (service : String) (region : String × List Upstream) : Findings :=
  .all (errorIf region.2.isEmpty
      ("service '" ++ service ++ "' region '" ++ region.1 ++ "' has an empty pool") ::
    region.2.map (checkUpstream service))

def checkCanary (service : String) (config : ServiceConfig) (canary : CanaryPolicy) : Findings :=
  let pools := config.regionalUpstreams.values.flatten
  .all [warningIf ((pools.filter (·.version = canary.version)).length == 0)
      ("service '" ++ service ++ "' canary.version='" ++ canary.version ++ "' matches no upstream"),
    errorIf (100 < canary.percent)
      ("service '" ++ service ++ "' canary.percent=" ++ canary.percent.toNat.repr ++ " exceeds 100"),
    warningIf (pools.length ≤ 1)
      ("service '" ++ service ++ "' canary set but pool has ≤1 member — split is meaningless")]

def checkService (service : String × ServiceConfig) : Findings :=
  .all [warningIf service.2.regionalUpstreams.entries.isEmpty
      ("service '" ++ service.1 ++ "' has no regional_upstreams"),
    .all (service.2.regionalUpstreams.entries.map (checkRegion service.1)),
    match service.2.canary with
    | some canary => checkCanary service.1 service.2 canary
    | Option.none => .none]

/-! ## The report -/

def checkHealth (check : HealthCheckConfig) : Findings :=
  if check.enabled then
    .all [errorIf (check.intervalSecs < 1) "health_check.interval_secs must be ≥ 1",
      errorIf (!"/".toList.isPrefixOf check.path.toList) "health_check.path must start with '/'",
      errorIf (check.unhealthyThreshold == 0 || check.healthyThreshold == 0)
        "health_check thresholds must be ≥ 1"]
  else .none

def findings : Findings :=
  .all [errorIf (trim snapshot.version.toList).isEmpty "version must be non-empty",
    checkRoutes snapshot [] snapshot.routes,
    .all (snapshot.services.entries.map checkService),
    match snapshot.healthCheck with
    | some check => checkHealth check
    | Option.none => .none]

def validateConfig : ValidationReport :=
  let findings := findings snapshot
  ⟨findings.errors.isEmpty,findings.errors,findings.warnings⟩

/-! ## What an accepted configuration has -/

theorem Findings.errors_all_eq_nil {findings : List Findings} :
    (Findings.all findings).errors = [] ↔ ∀ finding ∈ findings, finding.errors = [] :=
  flatMap_eq_nil_iff

theorem errorIf_eq_nil {condition : Bool} {message : String} :
    (errorIf condition message).errors = [] ↔ condition = false := by
  cases condition <;> simp [errorIf,Findings.error,Findings.none]

structure SoundRoute (seen : List Text) (route : Route) : Prop where
  rooted : validPrefix route = true
  fresh : routeKey route ∉ seen
  served : (snapshot.services.get route.serviceName).isSome = true
  tier : route.tier ∈ knownTiers

variable {snapshot}

theorem checkRoute_sound {seen : List Text} {route : Route}
    (hclean : (checkRoute snapshot seen route).errors = []) : SoundRoute snapshot seen route := by
  unfold checkRoute at hclean
  dsimp only at hclean
  split at hclean
  next hrooted =>
    rw [Findings.errors_all_eq_nil] at hclean
    simp only [forall_mem_cons,errorIf_eq_nil] at hclean
    obtain ⟨hfresh,hserved,htier,_⟩ := hclean
    exact ⟨hrooted,by simpa using hfresh,by simpa using hserved,by simpa using htier⟩
  next => contradiction

theorem checkRoutes_sound {seen : List Text} {routes : List Route}
    (hclean : (checkRoutes snapshot seen routes).errors = []) :
    (∀ route ∈ routes, SoundRoute snapshot seen route) ∧ (routes.map routeKey).Nodup := by
  induction routes generalizing seen with
  | nil => exact ⟨fun _ hmem => absurd hmem not_mem_nil,nodup_nil⟩
  | cons route routes ih =>
    obtain ⟨hfirst,hrest⟩ := append_eq_nil_iff.mp hclean
    have hsound := checkRoute_sound hfirst
    rw [if_pos hsound.rooted] at hrest
    obtain ⟨hroutes,hnodup⟩ := ih hrest
    constructor
    · intro other hother
      rcases mem_cons.mp hother with rfl | hlater
      · exact hsound
      · have hother := hroutes other hlater
        exact { hother with fresh := fun hseen => hother.fresh (mem_cons_of_mem _ hseen) }
    · rw [map_cons,nodup_cons]
      refine ⟨fun hmem => ?_,hnodup⟩
      obtain ⟨other,hother,hkey⟩ := mem_map.mp hmem
      exact (hroutes other hother).fresh (hkey ▸ mem_cons_self)

theorem validateConfig_routes (hvalid : (validateConfig snapshot).valid = true) :
    (∀ route ∈ snapshot.routes, SoundRoute snapshot [] route) ∧ (snapshot.routes.map routeKey).Nodup := by
  have hclean : (findings snapshot).errors = [] := isEmpty_iff.mp hvalid
  rw [findings,Findings.errors_all_eq_nil] at hclean
  exact checkRoutes_sound (hclean _ (mem_cons_of_mem _ mem_cons_self))

end Routiq.ControlPlane.Validation
