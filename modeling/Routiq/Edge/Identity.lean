import Routiq.Edge.Access

/-! Forwarded identity. The identity headers of an admitted request are read
from per-worker scratch buffers that only requests with an identity write, so
they are the request's own exactly when nothing is left over in a buffer the
request does not write. -/
namespace Routiq.Edge.Identity
open Core CString Runs Config Revocation Auth CircuitBreaker Pipeline Access

def ownUserId : Option UserIdentity → List UInt8
  | some identity => utf8 identity.userId
  | none => []

def ownHomeRegion (identity : Option UserIdentity) : List UInt8 :=
  match identity.bind UserIdentity.homeRegion with
  | some home => utf8 home
  | none => []

def Safe (identity : UserIdentity) : Prop :=
  '\x00' ∉ identity.userId.toList ∧ ∀ home, identity.homeRegion = some home → '\x00' ∉ home.toList

def FitsBuffers (identity : UserIdentity) : Prop := (utf8 identity.userId).length < 128 ∧
    ∀ home, identity.homeRegion = some home → (utf8 home).length < 16

section

variable {Memory : Type} (env : GatewayEnv Memory)

section
variable (system : System Memory)

/-- What the request of an access event forwards is its own identity. -/
def Faithful : Event Memory → Prop
  | .access id nowMs request =>
      exchangeOf system.live id = none → (access env nowMs request system.gateway).1.code = some 200 →
          (access env nowMs request system.gateway).1.vars.gatewayUserId =
              ownUserId (validated env nowMs request (footprint system.gateway)).1 ∧
            (access env nowMs request system.gateway).1.vars.gatewayHomeRegion =
              ownHomeRegion (validated env nowMs request (footprint system.gateway)).1
  | _ => True

/-- An admitted request finds a buffer empty if it will not write it. -/
def NothingLeftOver : Event Memory → Prop
  | .access id nowMs request =>
      exchangeOf system.live id = none → (access env nowMs request system.gateway).1.code = some 200 →
          ((validated env nowMs request (footprint system.gateway)).1 = none →
              load system.gateway.out.userId = []) ∧
            ((validated env nowMs request (footprint system.gateway)).1.bind
                UserIdentity.homeRegion = none → load system.gateway.out.homeRegion = [])
  | _ => True

def Fits : Event Memory → Prop
  | .access _ nowMs request =>
      ∀ identity, (validated env nowMs request (footprint system.gateway)).1 = some identity →
        FitsBuffers identity
  | _ => True

def CacheSafe : Prop :=
  ∀ entry ∈ system.gateway.worker.cache.entries, Safe entry.2.identity

end

variable {env}

theorem safe_of_full {auth : AuthEnv} {config : GatewayConfig} {snapshot : RevocationSnapshot} {now : Nat}
    {token : String} {entry : CachedToken}
    (hfull : validateFull auth config snapshot now token = some entry) : Safe entry.identity := by
  obtain ⟨claims,exp,hfilled⟩ := validateFull_filled hfull
  exact ⟨hfilled.userIdSafe,hfilled.homeRegionSafe⟩

variable {system : System Memory}

theorem safe_validated {nowMs : Nat} {request : ClientRequest} {identity : UserIdentity}
    (hcache : CacheSafe system)
    (hidentity : (validated env nowMs request (footprint system.gateway)).1 = some identity) :
    Safe identity := by
  obtain ⟨token,entry,-,hsame,-,hcase⟩ := validateToken_accepted hidentity
  rw [← hsame]
  rcases hcase with ⟨hcached,-,-⟩ | hfull
  · exact hcache _ hcached
  · exact safe_of_full hfull

theorem cacheSafe_step (event : Event Memory) (hcache : CacheSafe system) :
    CacheSafe (systemStep env system event) := by
  cases event with
  | access id nowMs request =>
    cases hfound : exchangeOf system.live id with
    | some exchange =>
      rw [systemStep_access_of_live hfound]
      exact hcache
    | none =>
      rw [systemStep_access hfound]
      unfold CacheSafe
      rcases cache_access env nowMs request system.gateway with hsame | hvalidated
      · rw [hsame]
        exact hcache
      · rw [hvalidated]
        intro entry hentry
        rcases validateToken_entries hentry with hold | ⟨-,hfull⟩
        · exact hcache entry hold
        · exact safe_of_full hfull
  | log id nowMs status latencyUs =>
    cases hfound : exchangeOf system.live id with
    | none =>
      rw [systemStep_log_of_gone hfound]
      exact hcache
    | some exchange =>
      have hlogged := footprint_log env nowMs status latencyUs exchange system.gateway
      have hsame : (Access.log env nowMs status latencyUs exchange system.gateway).worker.cache =
          system.gateway.worker.cache := by
        split at hlogged
        · exact congrArg Footprint.cache hlogged
        · exact congrArg Footprint.cache hlogged
      rw [systemStep_log hfound]
      unfold CacheSafe
      rw [hsame]
      exact hcache
  | reload config | publish snapshot | background memory shm => exact hcache

variable {identity : Option UserIdentity}

/-- The header read back from a buffer is the request's own value exactly when
the request writes the buffer or finds it empty. -/
theorem load_writeUserId_iff (buffer : Buffer 128) (hsafe : ∀ found, identity = some found → Safe found)
    (hfits : ∀ found, identity = some found → FitsBuffers found) :
    load (writeUserId identity buffer) = ownUserId identity ↔ (identity = none → load buffer = []) := by
  cases identity with
  | none => simp [writeUserId,ownUserId]
  | some found =>
    have hstored := load_store (utf8 found.userId) buffer (hfits found rfl).1
      (zero_not_mem_utf8 (hsafe found rfl).1)
    simp [writeUserId,ownUserId,hstored]

theorem load_writeHomeRegion_iff (buffer : Buffer 16) (hsafe : ∀ found, identity = some found → Safe found)
    (hfits : ∀ found, identity = some found → FitsBuffers found) :
    load (writeHomeRegion identity buffer) = ownHomeRegion identity ↔
      (identity.bind UserIdentity.homeRegion = none → load buffer = []) := by
  cases identity with
  | none => simp [writeHomeRegion,ownHomeRegion]
  | some found =>
    cases hhome : found.homeRegion with
    | none => simp [writeHomeRegion,ownHomeRegion,hhome]
    | some home =>
      have hstored := load_store (utf8 home) buffer ((hfits found rfl).2 home hhome)
        (zero_not_mem_utf8 ((hsafe found rfl).2 home hhome))
      simp [writeHomeRegion,ownHomeRegion,hhome,hstored]

theorem faithful_iff (system : System Memory) (event : Event Memory) (hfits : Fits env system event)
    (hcache : CacheSafe system) : Faithful env system event ↔ NothingLeftOver env system event := by
  cases event with
  | access id nowMs request =>
    refine imp_congr_right fun _ => ?_
    have hsafe : ∀ found, (validated env nowMs request (footprint system.gateway)).1 = some found →
        Safe found := fun found hfound => safe_validated hcache hfound
    refine imp_congr_right fun hadmitted => ?_
    have hforwarded := (access_of_admitted env nowMs request hadmitted).2
    rw [hforwarded.1,hforwarded.2]
    exact and_congr (load_writeUserId_iff _ hsafe hfits) (load_writeHomeRegion_iff _ hsafe hfits)
  | log id nowMs status latencyUs | reload config | publish snapshot | background memory shm =>
    exact Iff.rfl

end

/-- Over every run of a worker whose ids fit: every admitted request forwards
its own identity exactly when each finds the buffers it does not write empty. -/
theorem forwarded_own_iff_nothingLeftOver {Memory : Type} (env : GatewayEnv Memory) (config : GatewayConfig)
    (memory : Memory) (shm : Shm) (inFlight : Int) (events : List (Event Memory))
    (hfits : Along (systemStep env) (Fits env) (System.initial config memory shm inFlight) events) :
    Along (systemStep env) (Faithful env) (System.initial config memory shm inFlight) events ↔
      Along (systemStep env) (NothingLeftOver env) (System.initial config memory shm inFlight) events := by
  have hstart : CacheSafe (System.initial config memory shm inFlight) := by
    intro entry hentry
    simp [System.initial,LruCache.empty] at hentry
  exact along_congr (fun system event _ _ hcache => cacheSafe_step event hcache)
    (fun system event hevent hcache => faithful_iff system event hevent hcache) hfits hstart

/-! ## A leftover identity -/

def sampleStart : System Unit := .initial sampleGatewayConfig () freshShm 0
def signedRequest : ClientRequest := sampleRequest (some (utf8 sampleAuthHeader))

def signedThenAnonymous : List (Event Unit) :=
  [.access 1 1000000 signedRequest,.access 2 1001000 (sampleRequest none)]

theorem validated_signed :
    (validated sampleGatewayEnv 1000000 signedRequest (footprint sampleStart.gateway)).1 =
      some ⟨"alice",some "us"⟩ := by
  decide +kernel

theorem anonymous_after_signed :
    let system := systemStep sampleGatewayEnv sampleStart (.access 1 1000000 signedRequest)
    let served := access sampleGatewayEnv 1001000 (sampleRequest none) system.gateway
    exchangeOf system.live 2 = none ∧ served.1.code = some 200 ∧
      served.1.vars.gatewayUserId = utf8 "alice" := by
  decide +kernel

theorem fitsBuffers_signed : FitsBuffers ⟨"alice",some "us"⟩ := by
  refine ⟨by decide,?_⟩
  intro home hhome
  cases hhome
  decide

theorem fits_signedThenAnonymous :
    Along (systemStep sampleGatewayEnv) (Fits sampleGatewayEnv) sampleStart signedThenAnonymous := by
  refine ⟨?_,?_,trivial⟩
  · intro identity hidentity
    rw [validated_signed] at hidentity
    cases hidentity
    exact fitsBuffers_signed
  · intro identity hidentity
    rw [validated_anonymous] at hidentity
    contradiction

theorem forwarded_own_iff_signedThenAnonymous :
    Along (systemStep sampleGatewayEnv) (Fits sampleGatewayEnv) sampleStart signedThenAnonymous ∧
      (Along (systemStep sampleGatewayEnv) (Faithful sampleGatewayEnv) sampleStart
          signedThenAnonymous ↔
        Along (systemStep sampleGatewayEnv) (NothingLeftOver sampleGatewayEnv) sampleStart
          signedThenAnonymous) :=
  ⟨fits_signedThenAnonymous,
    forwarded_own_iff_nothingLeftOver sampleGatewayEnv sampleGatewayConfig () freshShm 0
      signedThenAnonymous fits_signedThenAnonymous⟩

/-- The anonymous request goes upstream as the user before it; without that
earlier request it goes as nobody. -/
theorem anonymous_forwards_leftover :
    Along (systemStep sampleGatewayEnv) (Fits sampleGatewayEnv) sampleStart signedThenAnonymous ∧
      ¬Along (systemStep sampleGatewayEnv) (Faithful sampleGatewayEnv) sampleStart
        signedThenAnonymous ∧
      (access sampleGatewayEnv 1001000 (sampleRequest none)
        (access sampleGatewayEnv 1000000 signedRequest
          sampleStart.gateway).2).1.vars.gatewayUserId = utf8 "alice" ∧
      (access sampleGatewayEnv 1001000 (sampleRequest none)
        sampleStart.gateway).1.vars.gatewayUserId = [] := by
  refine ⟨fits_signedThenAnonymous,?_,anonymous_after_signed.2.2,by decide +kernel⟩
  intro hfaithful
  obtain ⟨hfresh,hcode,hleftover⟩ := anonymous_after_signed
  have hown := (hfaithful.2.1 hfresh hcode).1
  rw [validated_anonymous,hleftover] at hown
  have hnonempty : utf8 "alice" ≠ [] := by decide
  exact hnonempty hown

/-! ## Telling identities apart -/

/-- A request that went upstream with an identity, and the headers it had. -/
structure Forwarded where
  identity : UserIdentity
  (userId homeRegion : List UInt8)
deriving DecidableEq

def Forwarded.Own (forwarded : Forwarded) : Prop := forwarded.userId = utf8 forwarded.identity.userId ∧
    forwarded.homeRegion = utf8 (forwarded.identity.homeRegion.getD "")

section
variable {Memory : Type} (env : GatewayEnv Memory) (system : System Memory)

def forwardedBy : Event Memory → List Forwarded
  | .access id nowMs request =>
      let served := (access env nowMs request system.gateway).1
      if exchangeOf system.live id = none ∧ served.code = some 200 then
        (validated env nowMs request (footprint system.gateway)).1.toList.map fun identity =>
          ⟨identity,served.vars.gatewayUserId,served.vars.gatewayHomeRegion⟩
      else []
  | _ => []

/-- An accepted identity fits, and one without a home region finds the buffer
for it empty. -/
def Kept : Event Memory → Prop
  | .access _ nowMs request =>
      ∀ identity, (validated env nowMs request (footprint system.gateway)).1 = some identity →
        FitsBuffers identity ∧ (identity.homeRegion = none → load system.gateway.out.homeRegion = [])
  | _ => True

variable {env system}

theorem own_of_kept {event : Event Memory} (hkept : Kept env system event) (hcache : CacheSafe system) :
    ∀ forwarded ∈ forwardedBy env system event, forwarded.Own := by
  intro forwarded hforwarded
  cases event with
  | access id nowMs request =>
    unfold forwardedBy at hforwarded
    dsimp only at hforwarded
    split at hforwarded
    next hserved =>
      obtain ⟨identity,hidentity,rfl⟩ := List.mem_map.mp hforwarded
      rw [Option.mem_toList] at hidentity
      obtain ⟨-,huser,hhome⟩ := access_of_admitted env nowMs request hserved.2
      unfold Forwarded.Own
      dsimp only
      rw [huser,hhome,hidentity]
      have hsafe : ∀ found, some identity = some found → Safe found := by
        rintro found ⟨⟩
        exact safe_validated hcache hidentity
      have hfits : ∀ found, some identity = some found → FitsBuffers found := by
        rintro found ⟨⟩
        exact (hkept identity hidentity).1
      rw [(load_writeUserId_iff _ hsafe hfits).mpr (fun hnone => by contradiction),
        (load_writeHomeRegion_iff _ hsafe hfits).mpr (hkept identity hidentity).2]
      refine ⟨rfl,?_⟩
      unfold ownHomeRegion
      cases hregion : identity.homeRegion with
      | none => simp [hregion]; rfl
      | some home => simp [hregion]
    · contradiction
  | log id nowMs status latencyUs | reload config | publish snapshot | background memory shm =>
    contradiction

end

def ProperPart (part whole : List UInt8) : Prop := part <+: whole ∧ part ≠ whole

/-- In every run of a worker whose accepted tokens keep the condition, equal
headers mean equal identities, and none is cut short. -/
theorem forwarded_tells_identities {Memory : Type} (env : GatewayEnv Memory) (config : GatewayConfig)
    (memory : Memory) (shm : Shm) (inFlight : Int) (events : List (Event Memory))
    (hkept : Along (systemStep env) (Kept env) (System.initial config memory shm inFlight) events) :
    let forwarded := trail (systemStep env) (forwardedBy env) (System.initial config memory shm inFlight) events
    (∀ first ∈ forwarded, ∀ second ∈ forwarded,
      (first.userId = second.userId → first.identity.userId = second.identity.userId) ∧
        (first.homeRegion = second.homeRegion →
          first.identity.homeRegion.getD "" = second.identity.homeRegion.getD "")) ∧
      ∀ request ∈ forwarded, ¬ProperPart request.userId (utf8 request.identity.userId) ∧
        ¬ProperPart request.homeRegion (utf8 (request.identity.homeRegion.getD "")) := by
  have hstep : ∀ system event (seen : Unit → List Forwarded), Kept env system event →
      (CacheSafe system ∧ ∀ forwarded ∈ seen (), forwarded.Own) →
      CacheSafe (systemStep env system event) ∧
        ∀ forwarded ∈ seen () ++ forwardedBy env system event, forwarded.Own := by
    intro system event seen hevent ⟨hcache,hseen⟩
    exact ⟨cacheSafe_step event hcache,List.forall_mem_append.mpr ⟨hseen,own_of_kept hevent hcache⟩⟩
  have hown := (@invariant_trail _ _ _ Unit (systemStep env) (fun _ => forwardedBy env) (Kept env)
    (fun system seen => CacheSafe system ∧ ∀ forwarded ∈ seen (), forwarded.Own) hstep _ events (fun _ => []) hkept
    ⟨by simp [CacheSafe,System.initial,LruCache.empty],by simp⟩).2
  refine ⟨?_,?_⟩
  · intro first hfirst second hsecond
    rw [(hown first hfirst).1,(hown first hfirst).2,(hown second hsecond).1,(hown second hsecond).2]
    exact ⟨utf8_injective,utf8_injective⟩
  · intro request hrequest
    exact ⟨fun hpart => hpart.2 (hown request hrequest).1,fun hpart => hpart.2 (hown request hrequest).2⟩

theorem forwarded_tells_identities_signed :
    Kept sampleGatewayEnv sampleStart (.access 1 1000000 signedRequest) ∧
    ∀ request ∈ trail (systemStep sampleGatewayEnv) (forwardedBy sampleGatewayEnv) sampleStart
      [.access 1 1000000 signedRequest], ¬ProperPart request.userId (utf8 request.identity.userId) := by
  have hforwarded := fun hkept => forwarded_tells_identities sampleGatewayEnv sampleGatewayConfig () freshShm 0
    [.access 1 1000000 signedRequest] ⟨hkept,trivial⟩
  refine (fun hkept => ⟨hkept,fun request hrequest => ((hforwarded hkept).2 request hrequest).1⟩) ?_
  intro identity hidentity
  rw [validated_signed] at hidentity
  cases hidentity
  exact ⟨fitsBuffers_signed,fun hnone => by contradiction⟩

/-! ### Regions that share a beginning -/

/-- Tokens whose payload is the home region itself. -/
def plainCodecs : Codecs where
  decodeBase64 := fun text => some (utf8 text)
  parseHeader := fun _ => some ⟨"HS256",""⟩
  parseClaims := fun payload => some { sampleClaims with homeRegion := some (decode payload) }
  extractUserIdField := fun _ => none
  hmacSha256 := fun _ _ => utf8 "s"
  sha256 := id

def plainEnv : GatewayEnv Unit :=
  { sampleGatewayEnv with auth := ⟨plainCodecs,none,none,none⟩, gatewayRegionVar := some "GLOBAL" }

def requestFrom (home : String) : ClientRequest := sampleRequest (some (utf8 ("Bearer h." ++ home ++ ".s")))

theorem long_regions_collide : trail (systemStep plainEnv) (forwardedBy plainEnv) sampleStart
        [.access 1 1000000 (requestFrom "ap-southeast-ea-1"),.access 2 1000000 (requestFrom "ap-southeast-ea-2")] =
      [⟨⟨"alice",some "ap-southeast-ea-1"⟩,utf8 "alice",utf8 "ap-southeast-ea"⟩,
        ⟨⟨"alice",some "ap-southeast-ea-2"⟩,utf8 "alice",utf8 "ap-southeast-ea"⟩] := by
  decide +kernel

end Routiq.Edge.Identity
