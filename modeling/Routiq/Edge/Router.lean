import Routiq.Core.PathRouter
import Routiq.Edge.Schema

/-! The routing engine of a worker: the router that is built from the routes of
a configuration, and the service, timeout tier and validation policy that it
gives a request. -/
namespace Routiq.Edge.Router
open Core.Strings Core.PathRouter List
open Config (ValidationConfig ServiceConfig)
open Schema (Route GatewayConfig)

structure RouteMeta where
  (serviceName tier : String)
  validation : Option ValidationConfig
deriving DecidableEq

section
variable (route : Route)

def effectiveTier : String :=
  match route.tier with
  | "fast" => "fast"
  | "slow" => "slow"
  | _ => "normal"

def metaOf : RouteMeta := ⟨route.serviceName,effectiveTier route,route.validation⟩
def slashed (text : Text) : Text := if text.getLast? = some '/' then text else text ++ ['/']
def prefixOf : Text := route.pathPrefix.toList

/-- Two inserts for a route, first for what is below it, and the errors of both
are ignored. -/
def insertRoute (router : Routes RouteMeta) (route : Route) : Routes RouteMeta :=
  let path := slashed (prefixOf route) ++ "*path".toList
  let router := (insert router path (metaOf route)).getD router
  (insert router (prefixOf route) (metaOf route)).getD router

def updateRouter (config : GatewayConfig) : Routes RouteMeta := config.routes.foldl insertRoute []

structure Resolution where
  service : Option ServiceConfig
  tier : String
  validation : Option ValidationConfig

def findService (router : Routes RouteMeta) (path : Text) (config : GatewayConfig) : Resolution :=
  match lookup router path with
  | some found => ⟨config.services found.serviceName,found.tier,found.validation⟩
  | none => ⟨none,"normal",none⟩

/-! ## Routers of plain prefixes -/

theorem slashed_getLast? (text : Text) : (slashed text).getLast? = some '/' := by
  unfold slashed
  split
  next hslash => exact hslash
  next => exact getLast?_concat

def entries : Routes RouteMeta := (if (slashed (prefixOf route)).head? = some '/' then
      [(catchPieces "path".toList (slashed (prefixOf route)),metaOf route)] else []) ++
    [(textPieces (prefixOf route),metaOf route)]

end

variable {text : Text}

theorem literal_slashed (hliteral : Literal text) : Literal (slashed text) := by
  unfold slashed
  split
  · exact hliteral
  · intro character hmem
    rcases mem_append.mp hmem with hmem | hmem
    · exact hliteral character hmem
    · rw [mem_singleton.mp hmem]
      decide

variable {router : Routes RouteMeta} {pieces : List Piece} {value : RouteMeta}

theorem insert_fresh {pattern : Text} (hparse : parse pattern = some pieces)
    (hplain : ∀ entry ∈ router ++ [(pieces,value)], Plain "path".toList entry.1)
    (hnodup : ((router ++ [(pieces,value)]).map Prod.fst).Nodup) :
    insert router pattern value = some (router ++ [(pieces,value)]) := by
  have hclear : (router.any fun route => conflicts pieces route.1) = false := by
    rw [any_eq_false]
    intro route hroute hconflict
    have hpieces := hplain _ (mem_append_right router mem_cons_self)
    have hsame := eq_of_conflicts hpieces (hplain route (mem_append_left _ hroute)) hconflict
    rw [map_append,nodup_append] at hnodup
    exact hnodup.2.2 _ (mem_map_of_mem hroute) pieces mem_cons_self hsame.symm
  unfold Core.PathRouter.insert
  rw [hparse,Option.bind_some,hclear]
  rfl

theorem plain_entries (route : Route) : ∀ entry ∈ entries route, Plain "path".toList entry.1 := by
  intro entry hentry
  rcases mem_append.mp hentry with hcatch | htext
  · split at hcatch
    · rw [mem_singleton.mp hcatch]
      exact .inr ⟨_,rfl⟩
    · contradiction
  · rw [mem_singleton.mp htext]
    exact .inl ⟨_,rfl⟩

theorem parse_below (hliteral : Literal text) : parse (slashed text ++ "*path".toList) =
      if (slashed text).head? = some '/' then some (catchPieces "path".toList (slashed text)) else none := by
  have hname : Literal "path".toList := literal_of_all (by decide)
  exact parse_catchAll (literal_slashed hliteral) hname (by decide) (by decide) (slashed_getLast? text)

variable {route : Route}

theorem insertRoute_fresh (hliteral : Literal (prefixOf route))
    (hplain : ∀ entry ∈ router ++ entries route, Plain "path".toList entry.1)
    (hnodup : ((router ++ entries route).map Prod.fst).Nodup) :
    insertRoute router route = router ++ entries route := by
  have hbelow := parse_below hliteral
  have hexact := parse_literal hliteral
  unfold insertRoute
  unfold entries at hplain hnodup ⊢
  by_cases hrooted : (slashed (prefixOf route)).head? = some '/'
  · rw [if_pos hrooted] at hbelow hplain hnodup ⊢
    rw [← append_assoc] at hplain hnodup ⊢
    have hfirst := insert_fresh hbelow (fun entry hentry => hplain entry (mem_append_left _ hentry))
      (hnodup.sublist ((sublist_append_left _ _).map _))
    have hsecond := insert_fresh hexact hplain hnodup
    dsimp only
    rw [hfirst,Option.getD_some,hsecond,Option.getD_some]
  · rw [if_neg hrooted] at hbelow hplain hnodup ⊢
    rw [nil_append] at hplain hnodup ⊢
    have hfirst : insert router (slashed (prefixOf route) ++ "*path".toList) (metaOf route) = none := by
      unfold Core.PathRouter.insert
      rw [hbelow]
      rfl
    dsimp only
    rw [hfirst,Option.getD_none,insert_fresh hexact hplain hnodup,Option.getD_some]

variable {routes : List Route}

theorem foldl_insertRoute (hliteral : ∀ route ∈ routes, Literal (prefixOf route))
    (hplain : ∀ entry ∈ router, Plain "path".toList entry.1)
    (hnodup : ((router ++ routes.flatMap entries).map Prod.fst).Nodup) :
    routes.foldl insertRoute router = router ++ routes.flatMap entries := by
  induction routes generalizing router with
  | nil => simp
  | cons route routes ih =>
    rw [flatMap_cons,← append_assoc] at hnodup ⊢
    have hfirst : ∀ entry ∈ router ++ entries route, Plain "path".toList entry.1 := by
      intro entry hentry
      rcases mem_append.mp hentry with hentry | hentry
      · exact hplain entry hentry
      · exact plain_entries route entry hentry
    rw [foldl_cons,insertRoute_fresh (hliteral route mem_cons_self) hfirst
      (hnodup.sublist ((sublist_append_left _ _).map _))]
    exact ih (fun other hother => hliteral other (mem_cons_of_mem route hother)) hfirst hnodup

theorem mem_entries : (pieces,value) ∈ entries route ↔
      value = metaOf route ∧ (pieces = textPieces (prefixOf route) ∨
        (slashed (prefixOf route)).head? = some '/' ∧
          pieces = catchPieces "path".toList (slashed (prefixOf route))) := by
  unfold entries
  by_cases hrooted : (slashed (prefixOf route)).head? = some '/'
  · simp [hrooted,or_comm,and_comm,and_or_left]
  · simp [hrooted,and_comm]

variable {first second : Text}

theorem textPieces_injective (hsame : textPieces first = textPieces second) : first = second :=
  map_injective_iff.mpr (fun _ _ => Piece.char.inj) hsame

theorem catchPieces_injective {name : Text}
    (hsame : catchPieces name first = catchPieces name second) : first = second :=
  textPieces_injective (append_cancel_right hsame)

theorem textPieces_ne_catchPieces (text name base : Text) : textPieces text ≠ catchPieces name base := by
  intro hsame
  have hmem : Piece.catchAll name ∈ textPieces text := by
    rw [hsame]
    exact mem_append_right _ mem_cons_self
  obtain ⟨character,_,hcharacter⟩ := mem_map.mp hmem
  contradiction

/-- Prefixes without wildcards that differ in more than a slash at the end. -/
structure PlainRoutes (routes : List Route) : Prop where
  literal : ∀ route ∈ routes, Literal (prefixOf route)
  distinct : (routes.map fun route => slashed (prefixOf route)).Nodup

theorem slashed_eq_of_pieces {first second : Route} {other : RouteMeta}
    (hfirst : (pieces,value) ∈ entries first) (hsecond : (pieces,other) ∈ entries second) :
    slashed (prefixOf first) = slashed (prefixOf second) := by
  rw [mem_entries] at hfirst hsecond
  rcases hfirst.2 with hfirst | ⟨_,hfirst⟩
  · rcases hsecond.2 with hsecond | ⟨_,hsecond⟩
    · rw [textPieces_injective (hfirst.symm.trans hsecond)]
    · exact absurd (hfirst.symm.trans hsecond) (textPieces_ne_catchPieces _ _ _)
  · rcases hsecond.2 with hsecond | ⟨_,hsecond⟩
    · exact absurd (hsecond.symm.trans hfirst) (textPieces_ne_catchPieces _ _ _)
    · exact catchPieces_injective (hfirst.symm.trans hsecond)

theorem nodup_entries (route : Route) : ((entries route).map Prod.fst).Nodup := by
  unfold entries
  split
  · simpa using (textPieces_ne_catchPieces _ _ _).symm
  · exact nodup_singleton _

theorem nodup_flatMap_entries (hdistinct : (routes.map fun route => slashed (prefixOf route)).Nodup) :
    ((routes.flatMap entries).map Prod.fst).Nodup := by
  induction routes with
  | nil => exact nodup_nil
  | cons route routes ih =>
    rw [map_cons,nodup_cons] at hdistinct
    rw [flatMap_cons,map_append,nodup_append]
    refine ⟨nodup_entries route,ih hdistinct.2,?_⟩
    rintro first hfirst second hsecond rfl
    obtain ⟨⟨pieces,value⟩,hentry,rfl⟩ := mem_map.mp hfirst
    obtain ⟨⟨pieces,other⟩,hlater,rfl⟩ := mem_map.mp hsecond
    obtain ⟨later,hroute,hlater⟩ := mem_flatMap.mp hlater
    apply hdistinct.1
    rw [slashed_eq_of_pieces hentry hlater]
    exact mem_map_of_mem hroute

def Below (route : Route) (path : Text) : Prop :=
  slashed (prefixOf route) <+: path ∧ slashed (prefixOf route) ≠ path

section PlainLookup
variable {config : GatewayConfig} (hplain : PlainRoutes config.routes) {path : Text}
include hplain

theorem updateRouter_plain : updateRouter config = config.routes.flatMap entries := by
  have hempty : ∀ entry ∈ ([] : Routes RouteMeta), Plain "path".toList entry.1 :=
    fun _ hentry => absurd hentry not_mem_nil
  exact foldl_insertRoute hplain.literal hempty (nodup_flatMap_entries hplain.distinct)

theorem plain_updateRouter : ∀ entry ∈ updateRouter config, Plain "path".toList entry.1 := by
  rw [updateRouter_plain hplain]
  intro entry hentry
  obtain ⟨route,_,hentry⟩ := mem_flatMap.mp hentry
  exact plain_entries route entry hentry

theorem unique_updateRouter : Unique (updateRouter config) := by
  rw [updateRouter_plain hplain]
  intro pieces value other hvalue hother
  have hsame := inj_on_of_nodup_map (nodup_flatMap_entries hplain.distinct) hvalue hother rfl
  exact (Prod.mk.inj hsame).2

variable {value : RouteMeta}

theorem text_mem_updateRouter : (textPieces path,value) ∈ updateRouter config ↔
      ∃ route ∈ config.routes, prefixOf route = path ∧ value = metaOf route := by
  rw [updateRouter_plain hplain,mem_flatMap]
  refine exists_congr fun route => and_congr_right fun _ => ?_
  rw [mem_entries]
  constructor
  · rintro ⟨hvalue,htext | ⟨_,hcatch⟩⟩
    · exact ⟨(textPieces_injective htext).symm,hvalue⟩
    · exact absurd hcatch (textPieces_ne_catchPieces _ _ _)
  · rintro ⟨rfl,hvalue⟩
    exact ⟨hvalue,.inl rfl⟩

theorem catch_mem_updateRouter {base : Text} :
    (catchPieces "path".toList base,value) ∈ updateRouter config ↔
      ∃ route ∈ config.routes, slashed (prefixOf route) = base ∧ base.head? = some '/' ∧ value = metaOf route := by
  rw [updateRouter_plain hplain,mem_flatMap]
  refine exists_congr fun route => and_congr_right fun _ => ?_
  rw [mem_entries]
  constructor
  · rintro ⟨hvalue,htext | ⟨hrooted,hcatch⟩⟩
    · exact absurd htext.symm (textPieces_ne_catchPieces _ _ _)
    · obtain rfl := catchPieces_injective hcatch
      exact ⟨rfl,hrooted,hvalue⟩
  · rintro ⟨rfl,hrooted,hvalue⟩
    exact ⟨hvalue,.inr ⟨hrooted,rfl⟩⟩

theorem lookup_exact (hroute : route ∈ config.routes) :
    lookup (updateRouter config) (prefixOf route) = some (metaOf route) := by
  apply find_exact (plain_updateRouter hplain) (unique_updateRouter hplain)
  rw [text_mem_updateRouter hplain]
  exact ⟨route,hroute,rfl,rfl⟩

theorem lookup_below (hpath : path.head? = some '/') (hroute : route ∈ config.routes)
    (hbelow : Below route path) (hexact : ∀ other ∈ config.routes, prefixOf other ≠ path)
    (hlongest : ∀ other ∈ config.routes, Below other path →
      (slashed (prefixOf other)).length ≤ (slashed (prefixOf route)).length) :
    lookup (updateRouter config) path = some (metaOf route) := by
  have hrooted : (slashed (prefixOf route)).head? = some '/' := by
    obtain ⟨rest,hrest⟩ := hbelow.1
    rw [← hrest] at hpath
    cases htext : slashed (prefixOf route) with
    | nil =>
      have hlast := slashed_getLast? (prefixOf route)
      rw [htext] at hlast
      contradiction
    | cons first others =>
      rw [htext] at hpath
      exact hpath
  refine find_caught (plain_updateRouter hplain) (unique_updateRouter hplain) ?_
    ((catch_mem_updateRouter hplain).mpr ⟨route,hroute,rfl,hrooted,rfl⟩) hbelow.1 hbelow.2 ?_
  · intro value hmem
    obtain ⟨other,hother,hsame,_⟩ := (text_mem_updateRouter hplain).mp hmem
    exact hexact other hother hsame
  · intro base value hfront hproper hlonger hmem
    obtain ⟨other,hother,rfl,_⟩ := (catch_mem_updateRouter hplain).mp hmem
    have hshorter := hlongest other hother ⟨hfront,hproper⟩
    omega

theorem lookup_nowhere (hexact : ∀ other ∈ config.routes, prefixOf other ≠ path)
    (hbelow : ∀ other ∈ config.routes, ¬Below other path) : lookup (updateRouter config) path = none := by
  apply find_none (plain_updateRouter hplain)
  · intro value hmem
    obtain ⟨other,hother,hsame,_⟩ := (text_mem_updateRouter hplain).mp hmem
    exact hexact other hother hsame
  · intro base value hfront hproper hmem
    obtain ⟨other,hother,rfl,_⟩ := (catch_mem_updateRouter hplain).mp hmem
    exact hbelow other hother ⟨hfront,hproper⟩

end PlainLookup

end Routiq.Edge.Router
