import Routiq.Core.Processes
import Routiq.Edge.Router

/-! A reload swaps two cells, the router and then the configuration; a request
loads them in the other order. -/
namespace Routiq.Edge.HotSwap
open Core Runs Processes Strings PathRouter Option Router
open Schema (GatewayConfig)

/-! ## Cells and threads -/

structure Cells where
  router : Routes RouteMeta
  config : GatewayConfig

inductive Command where
  | loadConfig | loadRouter
  | storeRouter (router : Routes RouteMeta)
  | storeConfig (config : GatewayConfig)

abbrev Answer : Command → Type
  | .loadConfig => GatewayConfig
  | .loadRouter => Routes RouteMeta
  | .storeRouter _ => Unit
  | .storeConfig _ => Unit

def exec (_ : Unit) (cells : Cells) : (command : Command) → Answer command × Cells
  | .loadConfig => (cells.config,cells)
  | .loadRouter => (cells.router,cells)
  | .storeRouter router => ((),{ cells with router })
  | .storeConfig config => ((),{ cells with config })

def machine : Machine Command Answer Cells Unit := ⟨fun _ _ => true,exec⟩
abbrev Thread := Process Command Answer (Option Resolution)
def perform (command : Command) : Process Command Answer (Answer command) := .perform command
def reloadConfig (config : GatewayConfig) : Thread := do
  perform (.storeRouter (updateRouter config))
  perform (.storeConfig config)
  return none

def routeRequest (path : Text) : Thread := do
  let config ← perform .loadConfig
  let router ← perform .loadRouter
  return some (findService router path config)

section Interleavings
variable {Reader : Type} [DecidableEq Reader]

def threads (new : GatewayConfig) (path : Reader → Text) : Option Reader → Thread
  | none => reloadConfig new
  | some reader => routeRequest (path reader)

abbrev Worker (Reader : Type) := System (Option Reader) Command Answer Cells (Option Resolution)

section
variable (old new : GatewayConfig) (path : Reader → Text)

def start : Worker Reader :=
  .start ⟨updateRouter old,old⟩ (threads new path)

def interleaved (schedule : List (Option Reader)) : Worker Reader :=
  run (.step machine) (start old new path) (schedule.map (·,()))

end

/-! ## The order of loads and stores -/

structure Order where
  (routerStored configStored : Bool)
  /-- The request loaded the configuration before the reload stored its own. -/
  stale : Bool
  /-- And it loaded the router after the reload had stored its own. -/
  torn : Bool
deriving DecidableEq

def Order.start : Order := ⟨false,false,false,false⟩

def Order.after (reader : Reader) (order : Order) : Option Reader × Entry Command Answer → Order
  | (none,⟨.storeRouter _,_⟩) => { order with routerStored := true }
  | (none,⟨.storeConfig _,_⟩) => { order with configStored := true }
  | (some other,⟨.loadConfig,_⟩) =>
    if other = reader then { order with stale := !order.configStored } else order
  | (some other,⟨.loadRouter,_⟩) =>
    if other = reader then { order with torn := order.stale && order.routerStored } else order
  | _ => order

theorem Order.after_other {reader other : Reader} (hother : other ≠ reader) (order : Order)
    (entry : Entry Command Answer) : order.after reader (some other,entry) = order := by
  obtain ⟨command,answer⟩ := entry
  cases command with
  | loadConfig | loadRouter => exact if_neg hother
  | storeRouter _ | storeConfig _ => rfl

def orderFor (reader : Reader) (worker : Worker Reader) : Order :=
  worker.log.foldl (.after reader) .start

/-! ## What every interleaving keeps -/

variable {old new : GatewayConfig} {path : Reader → Text} {reader : Reader} {worker : Worker Reader}

section
variable (old new : GatewayConfig) (path : Text) (order : Order)

def reloading : Thread :=
  if order.configStored then .done none
  else if order.routerStored then .call (.storeConfig new) fun _ => .done none
  else reloadConfig new

/-- What a request is given, by what it has seen of the reload. -/
def given : Resolution :=
  if order.torn then findService (updateRouter new) path old
  else if order.stale then findService (updateRouter old) path old
  else findService (updateRouter new) path new

inductive Request : Thread → Prop where
  | waiting : Request (routeRequest path)
  | loaded (hfresh : order.stale = false → order.routerStored = true) :
    Request (.call .loadRouter fun router =>
      .done (some (findService router path (if order.stale then old else new))))
  | finished : Request (.done (some (given old new path order)))

end

structure Tracks (old new : GatewayConfig) (path : Reader → Text) (reader : Reader) (order : Order)
    (worker : Worker Reader) : Prop where
  ordered : order.configStored = true → order.routerStored = true
  watcher : worker.processes none = reloading new order
  config : worker.world.config = if order.configStored then new else old
  router : worker.world.router = updateRouter (if order.routerStored then new else old)
  request : Request old new (path reader) order (worker.processes (some reader))

theorem orderFor_perform (reader : Reader) (worker : Worker Reader) (index : Option Reader)
    (command : Command) (next : Answer command → Thread) :
    orderFor reader (worker.perform machine () index command next) =
      (orderFor reader worker).after reader (index,⟨command,(exec () worker.world command).1⟩) := by
  unfold orderFor System.perform
  rw [List.foldl_append]
  rfl

theorem request_stored {order later : Order} {thread : Thread} {path : Text}
    (hrequest : Request old new path order thread) (hstale : later.stale = order.stale)
    (htorn : later.torn = order.torn) (hkept : order.routerStored = true → later.routerStored = true) :
    Request old new path later thread := by
  cases hrequest with
  | waiting => exact .waiting
  | loaded hfresh =>
    rw [← hstale]
    refine .loaded fun hlater => hkept (hfresh ?_)
    rw [← hstale,hlater]
  | finished =>
    have hgiven : given old new path order = given old new path later := by
      unfold given
      rw [hstale,htorn]
    rw [hgiven]
    exact .finished

section Perform
variable (worker : Worker Reader) (index : Option Reader) (command : Command)
  (next : Answer command → Thread)

theorem processes_perform_self :
    (worker.perform machine () index command next).processes index = next (exec () worker.world command).1 := by
  simp [System.perform,machine]

theorem processes_perform_other {other : Option Reader} (hother : other ≠ index) :
    (worker.perform machine () index command next).processes other = worker.processes other := by
  simp [System.perform,Function.update_of_ne hother]

end Perform

variable {command : Command}

section
variable {command : Command} {next : Answer command → Thread}

theorem tracks_watcher (hprocess : worker.processes none = .call command next)
    (htracks : Tracks old new path reader (orderFor reader worker) worker) :
    Tracks old new path reader (orderFor reader (worker.perform machine () none command next))
      (worker.perform machine () none command next) := by
  have hself := processes_perform_self worker none command next
  have hother := processes_perform_other worker none command next (some_ne_none reader)
  have hwatcher := htracks.watcher
  have hconfig := htracks.config
  rw [hprocess] at hwatcher
  rw [orderFor_perform]
  unfold reloading at hwatcher
  split at hwatcher
  · contradiction
  next hpending =>
    rw [if_neg hpending] at hconfig
    split at hwatcher
    next hstored =>
      cases hwatcher
      constructor
      · exact fun _ => hstored
      · rw [hself]
        rfl
      · rfl
      · exact htracks.router
      · rw [hother]
        exact request_stored htracks.request rfl rfl id
    next hfirst =>
      cases hwatcher
      constructor
      · exact fun _ => rfl
      · rw [hself]
        simp only [reloading,Order.after,hpending]
        rfl
      · simp only [Order.after,hpending]
        exact hconfig
      · rfl
      · rw [hother]
        exact request_stored htracks.request rfl rfl fun _ => rfl

theorem request_loads {order : Order} {thread : Thread} {path : Text} (hrequest : Request old new path order thread) {next : Answer command → Thread} (hcall : thread = .call command next) (cells : Cells) :
    (exec () cells command).2 = cells := by
  subst hcall
  cases hrequest with
  | waiting | loaded hfresh => rfl

theorem tracks_self (hprocess : worker.processes (some reader) = .call command next)
    (htracks : Tracks old new path reader (orderFor reader worker) worker) :
    Tracks old new path reader (orderFor reader (worker.perform machine () (some reader) command next))
      (worker.perform machine () (some reader) command next) := by
  have hself := processes_perform_self worker (some reader) command next
  have hother := processes_perform_other worker (some reader) command next (some_ne_none reader).symm
  have hworld : (worker.perform machine () (some reader) command next).world = worker.world :=
    request_loads htracks.request hprocess worker.world
  have hrequest := htracks.request
  have hconfig := htracks.config
  have hrouter := htracks.router
  rw [hprocess] at hrequest
  rw [orderFor_perform]
  cases hrequest with
  | waiting =>
    rw [Order.after,if_pos rfl]
    constructor
    · exact htracks.ordered
    · rw [hother]
      exact htracks.watcher
    · rw [hworld]
      exact hconfig
    · rw [hworld]
      exact hrouter
    · rw [hself]
      have hloaded : worker.world.config = if (!(orderFor reader worker).configStored) = true then old else new := by
        rw [hconfig]
        cases (orderFor reader worker).configStored <;> rfl
      have hanswer : (exec () worker.world .loadConfig).1 =
        if (!(orderFor reader worker).configStored) = true then old else new := hloaded
      rw [hanswer]
      refine .loaded fun hfresh => htracks.ordered ?_
      simpa using hfresh
  | loaded hfresh =>
    rw [Order.after,if_pos rfl]
    constructor
    · exact htracks.ordered
    · rw [hother]
      exact htracks.watcher
    · rw [hworld]
      exact hconfig
    · rw [hworld]
      exact hrouter
    · rw [hself]
      have hgiven : findService worker.world.router (path reader)
          (if (orderFor reader worker).stale = true then old else new) =
          given old new (path reader) { orderFor reader worker with
            torn := (orderFor reader worker).stale && (orderFor reader worker).routerStored } := by
        rw [hrouter]
        unfold given
        cases hstale : (orderFor reader worker).stale with
        | true => cases (orderFor reader worker).routerStored <;> rfl
        | false =>
          rw [hfresh hstale]
          rfl
      have hanswer : (exec () worker.world .loadRouter).1 = worker.world.router := rfl
      rw [hanswer]
      dsimp only
      rw [hgiven]
      exact .finished

end

theorem tracks_other {other : Reader} {next : Answer command → Thread}
    (hother : other ≠ reader) (hprocess : worker.processes (some other) = .call command next)
    (hloads : Tracks old new path other (orderFor other worker) worker)
    (htracks : Tracks old new path reader (orderFor reader worker) worker) :
    Tracks old new path reader (orderFor reader (worker.perform machine () (some other) command next))
      (worker.perform machine () (some other) command next) := by
  have hworld : (worker.perform machine () (some other) command next).world = worker.world :=
    request_loads hloads.request hprocess worker.world
  have hwatcher := processes_perform_other worker (some other) command next (some_ne_none other).symm
  have hreader := processes_perform_other worker (some other) command next
    (fun hsame => hother (some.inj hsame).symm)
  have horder : orderFor reader (worker.perform machine () (some other) command next) = orderFor reader worker := by
    rw [orderFor_perform]
    exact Order.after_other hother _ _
  rw [horder]
  constructor
  · exact htracks.ordered
  · rw [hwatcher]
    exact htracks.watcher
  · rw [hworld]
    exact htracks.config
  · rw [hworld]
    exact htracks.router
  · rw [hreader]
    exact htracks.request

theorem tracks_step (htracks : ∀ reader, Tracks old new path reader (orderFor reader worker) worker)
    (event : Option Reader × Unit) (reader : Reader) :
    Tracks old new path reader (orderFor reader (worker.step machine event)) (worker.step machine event) := by
  rcases System.step_cases machine worker event with hsame | ⟨command,next,hprocess,_,hstep⟩
  · rw [hsame]
    exact htracks reader
  · rw [hstep]
    obtain ⟨index,_⟩ := event
    cases index with
    | none => exact tracks_watcher hprocess (htracks reader)
    | some other =>
      by_cases hother : other = reader
      · subst hother
        exact tracks_self hprocess (htracks other)
      · exact tracks_other hother hprocess (htracks other) (htracks reader)

theorem tracks_interleaved (old new : GatewayConfig) (path : Reader → Text)
    (schedule : List (Option Reader)) (reader : Reader) :
    Tracks old new path reader (orderFor reader (interleaved old new path schedule))
      (interleaved old new path schedule) := by
  have hstart : ∀ reader, Tracks old new path reader (orderFor reader (start old new path)) (start old new path) :=
    fun reader => ⟨id,rfl,rfl,rfl,.waiting⟩
  have hstep : ∀ (worker : Worker Reader) event,
      (∀ reader, Tracks old new path reader (orderFor reader worker) worker) →
      ∀ reader, Tracks old new path reader (orderFor reader (worker.step machine event)) (worker.step machine event) :=
    fun worker event hworker => tracks_step hworker event
  exact invariant_run_always hstep (schedule.map (·,())) hstart reader

/-! ## Atomicity -/

/-- The new routes resolve the path in the old services as the old ones did, or
name a service that both configurations have alike. -/
def Compatible (old new : GatewayConfig) (path : Text) : Prop :=
  findService (updateRouter new) path old = findService (updateRouter old) path old ∨
    ∀ found, lookup (updateRouter new) path = some found →
      old.services found.serviceName = new.services found.serviceName

omit [DecidableEq Reader] in
theorem compatible_iff {path : Text} : Compatible old new path ↔
      findService (updateRouter new) path old = findService (updateRouter old) path old ∨
        findService (updateRouter new) path old = findService (updateRouter new) path new := by
  refine or_congr_right ?_
  unfold findService
  cases lookup (updateRouter new) path with
  | none | some found => simp

/-- A request during a reload is routed as before it or as after it, if and only
if it does not load the old configuration and the new router, or that makes no
difference. -/
theorem hot_swap_atomic_iff (old new : GatewayConfig) (path : Reader → Text) (schedule : List (Option Reader))
    (reader : Reader) (result : Resolution)
    (hresult : ((interleaved old new path schedule).processes (some reader)).result = some (some result)) :
    (result = findService (updateRouter old) (path reader) old ∨
      result = findService (updateRouter new) (path reader) new) ↔
    ((orderFor reader (interleaved old new path schedule)).torn = false ∨ Compatible old new (path reader)) := by
  have hdone := Process.eq_done_of_result hresult
  have hrequest := (tracks_interleaved old new path schedule reader).request
  rw [hdone] at hrequest
  rw [compatible_iff]
  cases hrequest with
  | finished =>
    unfold given
    cases (orderFor reader (interleaved old new path schedule)).torn with
    | true => simp
    | false =>
      cases (orderFor reader (interleaved old new path schedule)).stale with
      | true | false => simp

end Interleavings

/-! ## A new service on a new route -/

def namedService (name : String) : Config.ServiceConfig := ⟨name,1000,fun _ => none,true,none,none⟩

def sampleConfig (routes : List Schema.Route) (names : List String) : GatewayConfig :=
  { Config.GatewayConfig.default with
    services := fun name => if name ∈ names then some (namedService name) else none
    version := "v", routes, healthCheck := none, cors := none }

def oldSample : GatewayConfig := sampleConfig [⟨"/","users",false,"",none⟩] ["users"]

def newSample : GatewayConfig :=
  sampleConfig [⟨"/","users",false,"",none⟩,⟨"/orders","orders",false,"",none⟩] ["users","orders"]

def sampleResult (schedule : List (Option Unit)) : Option (Option (Option String)) :=
  ((interleaved oldSample newSample (fun _ => "/orders/7".toList) schedule).processes (some ())).result.map fun result =>
    result.map fun resolution => resolution.service.map (·.name)

/-- The request is done before the reload. -/
theorem hot_swap_loads_first : ∃ result, ((interleaved oldSample newSample (fun _ => "/orders/7".toList)
        [some (),some (),none,none]).processes (some ())).result = some (some result) ∧
      (result = findService (updateRouter oldSample) "/orders/7".toList oldSample ∨
        result = findService (updateRouter newSample) "/orders/7".toList newSample) := by
  refine ⟨_,rfl,?_⟩
  exact (hot_swap_atomic_iff oldSample newSample (fun _ : Unit => "/orders/7".toList) [some (),some (),none,none]
    () _ rfl).mpr (.inl (by decide +kernel))

/-- The old configuration has a service for every path and so has the new one;
in between the request gets none. -/
theorem hot_swap_torn : sampleResult [some (),none,some (),none] = some (some none) ∧
      (findService (updateRouter oldSample) "/orders/7".toList oldSample).service.map (·.name) = some "users" ∧
      (findService (updateRouter newSample) "/orders/7".toList newSample).service.map (·.name) = some "orders" := by
  decide +kernel

end Routiq.Edge.HotSwap
