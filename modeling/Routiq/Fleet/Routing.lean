import Mathlib.Data.List.MinMax
import Routiq.Edge.Router
import Routiq.Fleet.Activation

/-! Longest-prefix routing: which route an accepted configuration promises for
a path, and which one the router of a worker that activated it finds. -/
namespace Routiq.Fleet.Routing
open Core Strings PathRouter List
open ControlPlane.Schema (ConfigSnapshot)
open ControlPlane.Validation (validateConfig validateConfig_routes)
open Edge.Router Activation
open Edge.Schema (Route GatewayConfig gatewayConfig)

/-! ## The promise -/

/-- The prefix is the path or a whole-segment prefix of it; a slash at the end
of either makes no difference. -/
def Covers (path : Text) (route : Route) : Prop := slashed (prefixOf route) <+: slashed path

instance (path : Text) : DecidablePred (Covers path) := fun _ => inferInstanceAs (Decidable (_ <+: _))

instance (path : Text) : DecidablePred fun route => Below route path :=
  fun _ => inferInstanceAs (Decidable (_ <+: _ ∧ _ ≠ _))

def longestWhere (property : Route → Prop) [DecidablePred property] (routes : List Route) : Option Route :=
  (routes.filter property).argmax fun route => (slashed (prefixOf route)).length

section
variable (config : GatewayConfig)

def resolutionOf : Option Route → Resolution
  | some route => ⟨config.services route.serviceName,effectiveTier route,route.validation⟩
  | none => ⟨none,"normal",none⟩

def promised (path : Text) : Resolution :=
  resolutionOf config (longestWhere (Covers path) config.routes)

/-- What it is given if it only goes to routes that it continues below. -/
def fallback (path : Text) : Resolution :=
  resolutionOf config (longestWhere (fun route => Below route path) config.routes)

end

/-- Some prefix differs from the path in nothing but a slash at the end, and
none is the path itself. -/
structure SlashApart (routes : List Route) (path : Text) : Prop where
  apart : ∃ route ∈ routes, slashed (prefixOf route) = slashed path
  unequal : ∀ route ∈ routes, prefixOf route ≠ path

/-! ## Longest prefixes -/

variable {route : Route}

section Longest
variable {property : Route → Prop} [DecidablePred property] {routes : List Route}

theorem longestWhere_eq_none : longestWhere property routes = none ↔ ∀ route ∈ routes, ¬property route := by
  rw [longestWhere,argmax_eq_none,filter_eq_nil_iff]
  simp

theorem longestWhere_eq_some (hlongest : longestWhere property routes = some route) :
    route ∈ routes ∧ property route ∧ ∀ other ∈ routes, property other →
      (slashed (prefixOf other)).length ≤ (slashed (prefixOf route)).length := by
  have hmem := mem_filter.mp (argmax_mem hlongest)
  refine ⟨hmem.1,by simpa using hmem.2,?_⟩
  intro other hother hproperty
  have hcandidate : other ∈ routes.filter property := mem_filter.mpr ⟨hother,by simpa using hproperty⟩
  exact le_of_mem_argmax (f := fun route => (slashed (prefixOf route)).length) hcandidate hlongest

end Longest

/-! ## Covering and going on below -/

section Paths
variable {route : Route} {path : Text}

theorem isPrefix_slashed (text : Text) : text <+: slashed text := by
  unfold slashed
  split
  · exact prefix_rfl
  · exact prefix_append _ _

theorem below_of_covers (hcovers : Covers path route)
    (hother : slashed (prefixOf route) ≠ slashed path) : Below route path := by
  by_cases hslash : path.getLast? = some '/'
  · have hpath : slashed path = path := if_pos hslash
    rw [Covers,hpath] at hcovers
    rw [hpath] at hother
    exact ⟨hcovers,hother⟩
  · have hpath : slashed path = path ++ ['/'] := if_neg hslash
    rw [Covers,hpath, prefix_concat_iff] at hcovers
    rw [hpath] at hother
    refine ⟨hcovers.resolve_left hother,fun hsame => hslash ?_⟩
    rw [← hsame]
    exact slashed_getLast? (prefixOf route)

end Paths

/-! ## What the router finds -/

section Found
variable {config : GatewayConfig} {path : Text}

theorem findService_of_some (hfound : lookup (updateRouter config) path = some (metaOf route)) :
    findService (updateRouter config) path config = resolutionOf config (some route) := by
  unfold findService
  rw [hfound]
  rfl

variable (hplain : PlainRoutes config.routes) (hpath : path.head? = some '/')
include hplain hpath

theorem findService_fallback (hunequal : ∀ route ∈ config.routes, prefixOf route ≠ path) :
    findService (updateRouter config) path config = fallback config path := by
  unfold fallback
  cases hlongest : longestWhere (fun route => Below route path) config.routes with
  | none =>
    unfold findService
    rw [lookup_nowhere hplain hunequal (longestWhere_eq_none.mp hlongest)]
    rfl
  | some route =>
    obtain ⟨hroute,hbelow,hall⟩ := longestWhere_eq_some hlongest
    exact findService_of_some (lookup_below hplain hpath hroute hbelow hunequal hall)

theorem findService_promised (htogether : ¬SlashApart config.routes path) :
    findService (updateRouter config) path config = promised config path := by
  unfold promised
  by_cases hequal : ∃ route ∈ config.routes, prefixOf route = path
  · obtain ⟨route,hroute,rfl⟩ := hequal
    have hcovers : Covers (prefixOf route) route := prefix_rfl
    cases hlongest : longestWhere (Covers (prefixOf route)) config.routes with
    | none => exact absurd hcovers (longestWhere_eq_none.mp hlongest route hroute)
    | some longest =>
      obtain ⟨hmem,hfront,hall⟩ := longestWhere_eq_some hlongest
      have hsame := hfront.eq_of_length (Nat.le_antisymm hfront.length_le (hall route hroute hcovers))
      rw [inj_on_of_nodup_map hplain.distinct hmem hroute hsame]
      exact findService_of_some (lookup_exact hplain hroute)
  · have hunequal : ∀ route ∈ config.routes, prefixOf route ≠ path :=
      fun route hroute hsame => hequal ⟨route,hroute,hsame⟩
    have hbelow : ∀ route ∈ config.routes, (Covers path route ↔ Below route path) := by
      intro route hroute
      refine ⟨fun hcovers => below_of_covers hcovers fun hsame => ?_,
    fun hbelow => hbelow.1.trans (isPrefix_slashed path)⟩
      exact htogether ⟨⟨route,hroute,hsame⟩,hunequal⟩
    have hlongest : longestWhere (Covers path) config.routes =
        longestWhere (fun route => Below route path) config.routes := by
      unfold longestWhere
      rw [filter_congr fun route hroute => decide_eq_decide.mpr (hbelow route hroute)]
    rw [hlongest]
    exact findService_fallback hplain hpath hunequal

end Found

/-! ## Accepted configurations -/

/-- A configuration that a worker runs with after a push: the overrides from its
environment leave the routes and the names of the services alone. -/
structure Loaded (snapshot : ConfigSnapshot) (config : GatewayConfig) : Prop where
  accepted : (validateConfig snapshot).valid = true
  activated : ∃ revision timestamp decoded,
    gatewayConfig (activatedFile snapshot revision timestamp) = some decoded ∧
      config.routes = decoded.routes ∧ ∀ name, (config.services name).isSome = (decoded.services name).isSome

theorem isSome_service {snapshot : ConfigSnapshot} {config : GatewayConfig} (hloaded : Loaded snapshot config) (hroute : route ∈ config.routes) : (config.services route.serviceName).isSome = true := by
  obtain ⟨revision,timestamp,decoded,hdecoded,hroutes,hservices⟩ := hloaded.activated
  obtain ⟨hreceived,hnames⟩ := received_routes_services hdecoded
  rw [hroutes] at hroute
  obtain ⟨pushed,hpushed,validation,rfl⟩ := hreceived route hroute
  rw [hservices]
  exact hnames _ ((validateConfig_routes hloaded.accepted).1 pushed hpushed).served

def sampleService (name : String) : ControlPlane.Schema.ServiceConfig :=
  ⟨name,1000,.ofList [("us-east",[⟨"upstream","10.0.0.1:80",1,""⟩])],true,none,none⟩

def sampleSnapshot (routes : List (String × String)) : ConfigSnapshot where
  version := "v2"
  globalMaxConcurrency := 10000
  jwtSecret := "secret"
  jwtKeys := .empty
  expectedIssuer := "issuer"
  expectedAudience := "audience"
  services := .ofList [("orders",sampleService "orders"),("users",sampleService "users")]
  routes := routes.map fun route => ⟨route.1,route.2,false,"",none⟩
  healthCheck := none
  cors := none

/-- The names of the services that the router finds and that are promised. -/
def services (routes : List (String × String)) (path : String) : Option (Option String × Option String) :=
  (gatewayConfig (activatedFile (sampleSnapshot routes) 7 0)).map fun config =>
    ((findService (updateRouter config) path.toList config).service.map (·.name),
      (promised config path.toList).service.map (·.name))

end Routiq.Fleet.Routing
