import Routiq.Edge.Pipeline

/-! The gates of the request pipeline, one after the other, over arbitrary
stages. A passage records what the gates before the body policy decided; the
rest of a call is a function of it, so a result about admitted requests never
unfolds the pipeline again. -/
namespace Routiq.Edge.Gates
open Core CString Bool Config Auth CircuitBreaker Pipeline

/-- What a request was found to be on its way to the body policy. -/
structure Passage (Memory : Type) where
  (authHeader path : List UInt8)
  inspected : Memory
  route : RouteMeta
  service : ServiceConfig
  region : String

variable {Memory : Type}

def Passage.resolved (passage : Passage Memory) : ResolvedRoute :=
  ⟨some passage.service,passage.region,passage.route.tier,passage.route.validation⟩

variable (env : GatewayEnv Memory) (nowMs : Nat) (args : RequestArgs)

def validation (gateway : Gateway Memory) (authHeader : List UInt8) : Option UserIdentity × TokenCache :=
  validateToken env.auth gateway.worker.config gateway.worker.snapshot nowMs gateway.worker.cache
    (decode authHeader)

section
variable (gateway : Gateway Memory) (passage : Passage Memory)

def identityOf : Option UserIdentity := (validation env nowMs gateway passage.authHeader).1

/-- The gates before the body policy let a request through. -/
structure Passes : Prop where
  granted : (acquire gateway.worker.config (globalState env.slotOf gateway.shm)
    gateway.worker.inFlight).1 = true
  header : args.authHeader = some passage.authHeader
  uri : args.path = some passage.path
  allowed : env.stages.inspect gateway.worker.memory nowMs (decode passage.path)
    (decode passage.authHeader) (optionalText args.userAgent) (bodyText env args)
    (optionalText args.clientIp) = (.allow,passage.inspected)
  matched : env.stages.routerAt passage.inspected (routePath (decode passage.path)) = some passage.route
  configured : gateway.worker.config.services passage.route.serviceName = some passage.service
  resident : resolveRegion ((identityOf env nowMs gateway passage).bind UserIdentity.homeRegion)
    env.currentRegion = .ok passage.region

def held : Gateway Memory :=
  ((writeRequestId env.processId (gateway.setInFlight (acquire gateway.worker.config
    (globalState env.slotOf gateway.shm) gateway.worker.inFlight).2)).setMemory
      passage.inspected).setCache (validation env nowMs gateway passage.authHeader).2

theorem held_memory : (held env nowMs gateway passage).worker.memory = passage.inspected := rfl

theorem held_config : (held env nowMs gateway passage).worker.config = gateway.worker.config := rfl

theorem held_shm : (held env nowMs gateway passage).shm = gateway.shm := rfl

theorem releaseAndReturn_shm (status : Nat) (gateway : Gateway Memory) :
    (releaseAndReturn status gateway).2.shm = gateway.shm := rfl

end

variable {gateway : Gateway Memory} {passage : Passage Memory}

theorem routeRequest_of_passes (hpasses : Passes env nowMs args gateway passage) (cbState : CircuitState) :
    routeRequest env (held env nowMs gateway passage).worker (routePath (decode passage.path))
      (identityOf env nowMs gateway passage) cbState = .ok passage.resolved := by
  unfold routeRequest findService
  rw [held_memory,hpasses.matched,held_config]
  dsimp only
  rw [hpasses.resident,hpasses.configured]
  rfl

variable {resolved : ResolvedRoute} {service : ServiceConfig}

theorem processRequest_of_passes (hpasses : Passes env nowMs args gateway passage) :
    processRequest env nowMs args gateway =
      enforce env nowMs args (identityOf env nowMs gateway passage) passage.resolved passage.service
        (held env nowMs gateway passage) := by
  unfold processRequest
  dsimp only
  rw [hpasses.granted,hpasses.header,hpasses.uri]
  dsimp only [Bool.not_true]
  rw [if_neg (by decide)]
  unfold inspectAndRoute
  dsimp only
  erw [hpasses.allowed]
  dsimp only
  erw [routeRequest_of_passes env nowMs args hpasses]
  rfl

theorem exists_route_of_routeRequest {worker : Worker Memory} {path : String} {identity : Option UserIdentity}
    {cbState : CircuitState}
    (hrouted : routeRequest env worker path identity cbState = .ok resolved)
    (hservice : resolved.service = some service) :
    ∃ route, env.stages.routerAt worker.memory path = some route ∧
      worker.config.services route.serviceName = some service ∧
      resolveRegion (identity.bind UserIdentity.homeRegion) env.currentRegion = .ok resolved.region := by
  unfold routeRequest findService at hrouted
  cases hmatched : env.stages.routerAt worker.memory path with
  | none =>
    rw [hmatched] at hrouted
    dsimp only at hrouted
    split at hrouted
    · cases hrouted
    · cases hrouted
      cases hservice
  | some route =>
    rw [hmatched] at hrouted
    dsimp only at hrouted
    split at hrouted
    · cases hrouted
    next region hregion =>
      cases hrouted
      exact ⟨route,rfl,hservice,hregion⟩

/-- A request that does not pass is turned away, and at most the firewall has
changed anything by then. -/
inductive TurnedAway (gateway : Gateway Memory) : Nat × Gateway Memory → Prop where
  | early (status : Nat) (after : Gateway Memory) (hstatus : status ≠ 200)
      (hmemory : after.worker.memory = gateway.worker.memory) : TurnedAway gateway (status,after)
  | inspected (authHeader path : List UInt8) (status : Nat) (after : Gateway Memory)
      (hstatus : status ≠ 200)
      (hmemory : after.worker.memory = (env.stages.inspect gateway.worker.memory nowMs (decode path)
        (decode authHeader) (optionalText args.userAgent) (bodyText env args)
        (optionalText args.clientIp)).2) : TurnedAway gateway (status,after)

theorem passes_or_turnedAway (gateway : Gateway Memory) : (∃ passage, Passes env nowMs args gateway passage) ∨
      TurnedAway env nowMs args gateway (processRequest env nowMs args gateway) ∧
        (processRequest env nowMs args gateway).2.shm = gateway.shm := by
  unfold processRequest
  dsimp only
  split
  · exact Or.inr ⟨.early 503 _ (by decide) rfl,rfl⟩
  rename_i hgranted
  rw [not_eq_true,not_eq_false'] at hgranted
  split
  next authHeader path hheader huri =>
    unfold inspectAndRoute
    dsimp only
    split
    next reason memory hblocked =>
      refine Or.inr ⟨.inspected authHeader path _ _ (wafBlock_status_ne reason) ?_,releaseAndReturn_shm _ _⟩
      exact (congrArg Prod.snd hblocked).symm
    next memory hallowed =>
      split
      next status herror =>
        refine Or.inr ⟨.inspected authHeader path _ _ (routeRequest_status_ne env herror) ?_,
          releaseAndReturn_shm _ _⟩
        exact (congrArg Prod.snd hallowed).symm
      next resolved hrouted =>
        split
        · refine Or.inr ⟨.inspected authHeader path _ _ (by decide) ?_,releaseAndReturn_shm _ _⟩
          exact (congrArg Prod.snd hallowed).symm
        next service hservice =>
          obtain ⟨route,hmatched,hconfigured,hregion⟩ := exists_route_of_routeRequest env hrouted hservice
          exact Or.inl ⟨⟨authHeader,path,memory,route,service,resolved.region⟩,
            ⟨hgranted,hheader,huri,hallowed,hmatched,hconfigured,hregion⟩⟩
  · exact Or.inr ⟨.early 500 _ (by decide) rfl,rfl⟩

/-! ## Behind the route -/

variable (gateway passage)

structure Cleared : Prop where
  kept : (env.stages.shedAnonymous passage.inspected &&
    (identityOf env nowMs gateway passage).isNone) = false
  sound : bodyViolation env args passage.resolved = none
  known : (passage.service.requireAuth && (identityOf env nowMs gateway passage).isNone) = false

def userKey : Option String :=
  (identityOf env nowMs gateway passage).map UserIdentity.userId

/-- The answers of the two limits and of the selection, each on the memory that
the one before it left. -/
def rated : Bool × Memory :=
  env.stages.checkRateLimit passage.inspected nowMs passage.service.rateLimitMax
    (userKey env nowMs gateway passage)

def counted : Bool × Memory :=
  checkQuota env nowMs (identityOf env nowMs gateway passage) passage.service
    (rated env nowMs gateway passage).2

def selected : Option String × Memory × Shm :=
  env.stages.selectUpstream (counted env nowMs gateway passage).2 nowMs gateway.shm passage.service
    passage.region (userKey env nowMs gateway passage) (optionalText args.canaryHint)

structure Admitted (upstream : String) (after : Gateway Memory) : Prop where
  cleared : Cleared env nowMs args gateway passage
  rated : (rated env nowMs gateway passage).1 = true
  counted : (counted env nowMs gateway passage).1 = true
  selected : (selected env nowMs args gateway passage).1 = some upstream
  memory : after.worker.memory = (Gates.selected env nowMs args gateway passage).2.1
  upstream : after.out.upstream = store (utf8 upstream) gateway.out.upstream

inductive Ended : Nat × Gateway Memory → Prop where
  | shed (after : Gateway Memory)
      (hshed : (env.stages.shedAnonymous passage.inspected &&
        (identityOf env nowMs gateway passage).isNone) = true)
      (hmemory : after.worker.memory = passage.inspected) : Ended (503,after)
  | malformed (violation : Violation) (after : Gateway Memory)
      (hviolation : bodyViolation env args passage.resolved = some violation)
      (hmemory : after.worker.memory = passage.inspected) :
      Ended (violation.response.1,after)
  | unauthenticated (after : Gateway Memory)
      (hsound : bodyViolation env args passage.resolved = none)
      (hunknown : (passage.service.requireAuth &&
        (identityOf env nowMs gateway passage).isNone) = true)
      (hmemory : after.worker.memory = passage.inspected) : Ended (401,after)
  | limited (after : Gateway Memory) (hcleared : Cleared env nowMs args gateway passage)
      (hrated : (rated env nowMs gateway passage).1 = false)
      (hmemory : after.worker.memory = (rated env nowMs gateway passage).2) :
      Ended (429,after)
  | overQuota (after : Gateway Memory) (hcleared : Cleared env nowMs args gateway passage)
      (hrated : (rated env nowMs gateway passage).1 = true)
      (hcounted : (counted env nowMs gateway passage).1 = false)
      (hmemory : after.worker.memory = (counted env nowMs gateway passage).2) :
      Ended (429,after)
  | unserved (after : Gateway Memory) (hcleared : Cleared env nowMs args gateway passage)
      (hrated : (rated env nowMs gateway passage).1 = true)
      (hcounted : (counted env nowMs gateway passage).1 = true)
      (hselected : (selected env nowMs args gateway passage).1 = none)
      (hmemory : after.worker.memory = (selected env nowMs args gateway passage).2.1) :
      Ended (503,after)
  | admitted (upstream : String) (after : Gateway Memory)
      (hadmitted : Admitted env nowMs args gateway passage upstream after) :
      Ended (200,after)

variable {gateway passage}

theorem forward_ended {before : Gateway Memory} (hcleared : Cleared env nowMs args gateway passage)
    (hrated : (rated env nowMs gateway passage).1 = true)
    (hcounted : (counted env nowMs gateway passage).1 = true)
    (hmemory : before.worker.memory = (counted env nowMs gateway passage).2) (hshm : before.shm = gateway.shm)
    (hout : before.out.upstream = gateway.out.upstream) :
    Ended env nowMs args gateway passage
      (forward env nowMs args (identityOf env nowMs gateway passage) passage.resolved
        passage.service before) := by
  have hselected : env.stages.selectUpstream before.worker.memory nowMs before.shm passage.service
      passage.resolved.region ((identityOf env nowMs gateway passage).map UserIdentity.userId)
      (optionalText args.canaryHint) = selected env nowMs args gateway passage := by
    rw [hmemory,hshm]
    rfl
  unfold forward
  rw [hselected]
  split
  next upstream memory shm houtcome =>
    refine .admitted upstream _ ⟨hcleared,hrated,hcounted,by rw [houtcome],?_,?_⟩
    · rw [houtcome]
      rfl
    · rw [← hout]
      rfl
  next memory shm houtcome =>
    refine .unserved _ hcleared hrated hcounted (by rw [houtcome]) ?_
    rw [houtcome]
    rfl

/-- The whole of `process_request`, for a request that passes. Only the
selection writes to the shared memory. -/
theorem processRequest_ended (hpasses : Passes env nowMs args gateway passage) :
    Ended env nowMs args gateway passage (processRequest env nowMs args gateway) ∧
      ((processRequest env nowMs args gateway).2.shm = gateway.shm ∨
        Cleared env nowMs args gateway passage ∧ (rated env nowMs gateway passage).1 = true ∧
          (counted env nowMs gateway passage).1 = true) := by
  rw [processRequest_of_passes env nowMs args hpasses]
  unfold enforce
  split
  next hshed => exact ⟨.shed _ hshed rfl,Or.inl (releaseAndReturn_shm _ _)⟩
  rename_i hkept
  dsimp only
  split
  next violation hviolation =>
    exact ⟨.malformed violation _ hviolation rfl,Or.inl (releaseAndReturn_shm _ _)⟩
  rename_i hsound
  split
  next hunknown => exact ⟨.unauthenticated _ hsound hunknown rfl,Or.inl (releaseAndReturn_shm _ _)⟩
  rename_i hknown
  have hcleared : Cleared env nowMs args gateway passage :=
    ⟨not_eq_true _ ▸ hkept,hsound,not_eq_true _ ▸ hknown⟩
  split
  next hlimited =>
    rw [not_eq_true'] at hlimited
    refine ⟨.limited _ hcleared hlimited rfl,Or.inl ?_⟩
    rw [releaseAndReturn_shm]
    simp only [Gateway.setMemory,writeTier,held_shm]
  rename_i hrated
  rw [not_eq_true,not_eq_false'] at hrated
  split
  next hrejected =>
    rw [not_eq_true'] at hrejected
    refine ⟨.overQuota _ hcleared hrated hrejected rfl,Or.inl ?_⟩
    rw [releaseAndReturn_shm]
    simp only [Gateway.setMemory,writeTier,held_shm]
  rename_i hcounted
  rw [not_eq_true,not_eq_false'] at hcounted
  refine ⟨forward_ended env nowMs args hcleared hrated hcounted rfl ?_ ?_,
    Or.inr ⟨hcleared,hrated,hcounted⟩⟩
  · simp only [Gateway.setMemory,writeTier,held_shm]
  · simp only [Gateway.setMemory,writeTier,held,Gateway.setCache,writeRequestId,Gateway.setInFlight]

theorem processRequest_tooLarge_iff (hpasses : Passes env nowMs args gateway passage)
    (hkept : (env.stages.shedAnonymous passage.inspected &&
      (identityOf env nowMs gateway passage).isNone) = false) :
    (processRequest env nowMs args gateway).1 = 413 ↔
      ∃ violation, bodyViolation env args passage.resolved = some violation ∧ violation.response.1 = 413 := by
  have hended := (processRequest_ended env nowMs args hpasses).1
  generalize processRequest env nowMs args gateway = outcome at hended
  cases hended with
  | shed after hshed =>
    rw [hkept] at hshed
    contradiction
  | malformed violation after hviolation =>
    rw [hviolation]
    simp
  | unauthenticated after hsound => simp [hsound]
  | limited after hcleared => simp [hcleared.sound]
  | overQuota after hcleared => simp [hcleared.sound]
  | unserved after hcleared => simp [hcleared.sound]
  | admitted upstream after hall => simp [hall.cleared.sound]

theorem exists_passage_of_admitted (hadmitted : (processRequest env nowMs args gateway).1 = 200) :
    ∃ passage, Passes env nowMs args gateway passage := by
  rcases passes_or_turnedAway env nowMs args gateway with hpasses | ⟨haway,_⟩
  · exact hpasses
  · generalize processRequest env nowMs args gateway = outcome at haway hadmitted
    cases haway with
    | early status after hstatus => exact absurd hadmitted hstatus
    | inspected authHeader path status after hstatus => exact absurd hadmitted hstatus

theorem exists_upstream_of_admitted (hpasses : Passes env nowMs args gateway passage)
    (hadmitted : (processRequest env nowMs args gateway).1 = 200) :
    ∃ upstream, Admitted env nowMs args gateway passage upstream
      (processRequest env nowMs args gateway).2 := by
  have hended := (processRequest_ended env nowMs args hpasses).1
  generalize processRequest env nowMs args gateway = outcome at hended hadmitted
  cases hended with
  | shed | unauthenticated | limited | overQuota | unserved => simp at hadmitted
  | malformed violation => exact absurd hadmitted (violation_status_ne violation)
  | admitted upstream after hall => exact ⟨upstream,hall⟩

theorem processRequest_admitted_iff (hpasses : Passes env nowMs args gateway passage) :
    (processRequest env nowMs args gateway).1 = 200 ↔
      Cleared env nowMs args gateway passage ∧ (rated env nowMs gateway passage).1 = true ∧
        (counted env nowMs gateway passage).1 = true ∧
        (selected env nowMs args gateway passage).1.isSome = true := by
  constructor
  · intro hadmitted
    obtain ⟨upstream,hall⟩ := exists_upstream_of_admitted env nowMs args hpasses hadmitted
    exact ⟨hall.cleared,hall.rated,hall.counted,by rw [hall.selected]; rfl⟩
  · rintro ⟨hcleared,hrated,hcounted,hselected⟩
    have hended := (processRequest_ended env nowMs args hpasses).1
    generalize processRequest env nowMs args gateway = outcome at hended
    cases hended with
    | shed after hshed =>
      rw [hcleared.kept] at hshed
      contradiction
    | malformed violation after hviolation =>
      rw [hcleared.sound] at hviolation
      contradiction
    | unauthenticated after _ hunknown =>
      rw [hcleared.known] at hunknown
      contradiction
    | limited after _ hlimited =>
      rw [hrated] at hlimited
      contradiction
    | overQuota after _ _ hrejected =>
      rw [hcounted] at hrejected
      contradiction
    | unserved after _ _ _ hnobody =>
      rw [hnobody] at hselected
      contradiction
    | admitted upstream after => rfl

end Routiq.Edge.Gates
