import Routiq.Core.Runs
import Routiq.Edge.Auth
import Mathlib.Data.List.Induction

/-! Soundness of the token cache over whole histories. A hit skips every check
but expiry and token version, so what an acceptance guarantees comes from
where its entry came from: an earlier full validation, whose time bounds how
long a revocation can go unnoticed. -/
namespace Routiq.Edge.AuthHistory
open Core Runs Config Revocation Auth

structure AuthState where
  config : GatewayConfig
  snapshot : RevocationSnapshot
  cache : TokenCache
  nowMs : Nat

inductive AuthEvent where
  | validate (nowMs : Nat) (authHeader : String)
  | configure (nowMs : Nat) (config : GatewayConfig)
  | publish (nowMs : Nat) (snapshot : RevocationSnapshot)

def AuthEvent.nowMs : AuthEvent → Nat
  | .validate nowMs _ => nowMs
  | .configure nowMs _ => nowMs
  | .publish nowMs _ => nowMs

def AuthState.initial (config : GatewayConfig) (snapshot : RevocationSnapshot) (nowMs : Nat) :
    AuthState := ⟨config,snapshot,.empty tokenCacheCapacity,nowMs⟩

def SameSigning (left right : GatewayConfig) : Prop :=
  left.jwtSecret = right.jwtSecret ∧ left.jwtKeys = right.jwtKeys ∧
    left.expectedIssuer = right.expectedIssuer ∧ left.expectedAudience = right.expectedAudience

def Timely (state : AuthState) (event : AuthEvent) : Prop := state.nowMs ≤ event.nowMs ∧
    match event with
    | .configure _ config => SameSigning state.config config
    | _ => True

def KeyListed (key : String) (state : AuthState) (event : AuthEvent) : Prop :=
  listed state.snapshot (event.nowMs / 1000) key = true

section

variable (env : AuthEnv)

def answer (state : AuthState) (nowMs : Nat) (authHeader : String) : Option UserIdentity × TokenCache :=
  validateToken env state.config state.snapshot nowMs state.cache authHeader

def authStep (state : AuthState) : AuthEvent → AuthState
  | .validate nowMs authHeader =>
      { state with cache := (answer env state nowMs authHeader).2, nowMs := nowMs }
  | .configure nowMs config => { state with config := config, nowMs := nowMs }
  | .publish nowMs snapshot => { state with snapshot := snapshot, nowMs := nowMs }

section
variable (start : AuthState) (history : List AuthEvent)

/-- The entry was filled by a full validation earlier in the history, against
the snapshot of that moment and the signing keys in force. -/
def Provenance (config : GatewayConfig) (latestMs : Nat) (token : String) (entry : CachedToken) : Prop :=
  ∃ before nowMs authHeader after claims exp,
    history = before ++ .validate nowMs authHeader :: after ∧ nowMs ≤ latestMs ∧
      stripBearer authHeader = some token ∧
      FilledAt env config (run (authStep env) start before).snapshot (nowMs / 1000)
        token entry claims exp

/-- What the acceptance of a token at `nowMs` after a history guarantees. The
revocation bound counts from any moment since which the snapshots have listed
one of the token's revocation keys. -/
structure AcceptanceBounds (nowMs : Nat)
    (authHeader token : String) (identity : UserIdentity) (claims : JwtClaims) (exp : UInt64) :
    Prop where
  carried : tokenClaims env.codecs token = some claims
  expiry : claims.exp = some exp
  unexpired : nowMs / 1000 < exp.toNat
  floor : identity.userId ≠ "" → tvStatus (run (authStep env) start history).snapshot identity.userId
      (claims.tv.map UInt64.toNat) = .valid
  fresh : env.revocationFailClosed = true →
    snapshotStale env.syncIntervalSecs (run (authStep env) start history).snapshot nowMs = false
  revocation : ∀ before after key, history = before ++ after →
    key ∈ revocationKeys claims.jti (tokenHashHex env.codecs token) →
    Along (authStep env) (KeyListed key) (run (authStep env) start before)
      (after ++ [.validate nowMs authHeader]) →
    nowMs / 1000 < (run (authStep env) start before).nowMs / 1000 + env.cacheTtlSecs

end

variable {env}

theorem nowMs_authStep (state : AuthState) (event : AuthEvent) :
    (authStep env state event).nowMs = event.nowMs := by
  cases event <;> rfl

variable {left right : GatewayConfig} {token : String}

theorem signed_of_sameSigning {codecs : Codecs} (hsame : SameSigning left right)
    (hsigned : Signed codecs left token) : Signed codecs right token := by
  cases hsigned with
  | intro headerB64 payloadB64 sigB64 header secret hsplit hheader halg hsecret hsignature =>
    refine ⟨headerB64,payloadB64,sigB64,header,secret,hsplit,hheader,halg,?_,hsignature⟩
    rw [← hsecret]
    simp only [signingSecret,hsame.1,hsame.2.1]

variable {entry : CachedToken} {claims : JwtClaims} {snapshot : RevocationSnapshot}

variable {start : AuthState} {history : List AuthEvent} {config : GatewayConfig} {latestMs : Nat}

theorem provenance_append {laterMs : Nat} (event : AuthEvent) (hlater : latestMs ≤ laterMs)
    (hentry : Provenance env start history config latestMs token entry) :
    Provenance env start (history ++ [event]) config laterMs token entry := by
  obtain ⟨before,nowMs,authHeader,after,claims,exp,hsplit,hms,hrest⟩ := hentry
  refine ⟨before,nowMs,authHeader,after ++ [event],claims,exp,?_,?_,hrest⟩
  · simp [hsplit]
  · omega

theorem provenance_reconfigure (hsame : SameSigning left right)
    (hentry : Provenance env start history left latestMs token entry) :
    Provenance env start history right latestMs token entry := by
  obtain ⟨before,nowMs,authHeader,after,claims,exp,hsplit,hms,hbearer,hfilled⟩ := hentry
  exact ⟨before,nowMs,authHeader,after,claims,exp,hsplit,hms,hbearer,{ hfilled with
    signed := signed_of_sameSigning hsame hfilled.signed
    issuer := hsame.2.2.1 ▸ hfilled.issuer
    audience := hsame.2.2.2 ▸ hfilled.audience }⟩

theorem provenance_run (hempty : start.cache.entries = []) (history : List AuthEvent)
    (htimely : Along (authStep env) Timely start history) (entry : String × CachedToken)
    (hentry : entry ∈ (run (authStep env) start history).cache.entries) :
    Provenance env start history (run (authStep env) start history).config
      (run (authStep env) start history).nowMs entry.1 entry.2 := by
  induction history using List.reverseRecOn with
  | nil => simp [hempty] at hentry
  | append_singleton history event ih =>
    rw [along_append] at htimely
    have hevent := htimely.2.1
    have hold := ih htimely.1
    rw [run_append,run_cons,run_nil] at hentry ⊢
    rw [nowMs_authStep]
    cases event with
    | validate nowMs authHeader =>
      rcases validateToken_entries hentry with hkept | ⟨hbearer,hfull⟩
      · exact provenance_append _ hevent.1 (hold hkept)
      · obtain ⟨claims,exp,hfilled⟩ := validateFull_filled hfull
        exact ⟨history,nowMs,authHeader,[],claims,exp,rfl,Nat.le_refl _,hbearer,hfilled⟩
    | configure nowMs config =>
      exact provenance_append _ hevent.1 (provenance_reconfigure hevent.2 (hold hentry))
    | publish nowMs snapshot => exact provenance_append _ hevent.1 (hold hentry)

theorem expiresAt_le (hentry : Provenance env start history config latestMs token entry) :
    entry.expiresAt ≤ latestMs / 1000 + env.cacheTtlSecs := by
  obtain ⟨before,nowMs,authHeader,after,claims,exp,-,hms,-,hfilled⟩ := hentry
  have hseconds : nowMs / 1000 ≤ latestMs / 1000 := Nat.div_le_div_right hms
  rw [hfilled.expiresAt]
  omega

variable {key : String}

section
variable (hclaims : tokenClaims env.codecs token = some claims)
  (hkey : key ∈ revocationKeys claims.jti (tokenHashHex env.codecs token))
include hclaims hkey

theorem validateFull_of_listed {now : Nat} (hlisted : listed snapshot now key = true) :
    validateFull env config snapshot now token ≠ some entry := by
  intro hfull
  obtain ⟨found,exp,hfilled⟩ := validateFull_filled hfull
  have hsame : found = claims := Option.some.inj (hfilled.carried.symm.trans hclaims)
  have hrevoked := (isRevoked_iff snapshot now claims.jti (tokenHashHex env.codecs token)).mpr
    ⟨key,hkey,hlisted⟩
  rw [← hsame,hfilled.notRevoked] at hrevoked
  contradiction

theorem bounded_step {bound : Nat} (state : AuthState) (event : AuthEvent)
    (hlisted : KeyListed key state event)
    (hbound : ∀ entry, (token,entry) ∈ state.cache.entries → entry.expiresAt ≤ bound) :
    ∀ entry, (token,entry) ∈ (authStep env state event).cache.entries → entry.expiresAt ≤ bound := by
  cases event with
  | validate nowMs authHeader =>
    intro entry hentry
    rcases validateToken_entries hentry with hkept | ⟨-,hfull⟩
    · exact hbound entry hkept
    · exact absurd hfull (validateFull_of_listed hclaims hkey hlisted)
  | configure nowMs config | publish nowMs snapshot => exact hbound

end

theorem revocation_bound (hempty : start.cache.entries = []) {before after : List AuthEvent}
    (htimely : Along (authStep env) Timely start (before ++ after)) {nowMs : Nat}
    {authHeader : String} {identity : UserIdentity} (hbearer : stripBearer authHeader = some token)
    (haccept : (answer env (run (authStep env) start (before ++ after)) nowMs authHeader).1 =
      some identity) (hclaims : tokenClaims env.codecs token = some claims)
    (hkey : key ∈ revocationKeys claims.jti (tokenHashHex env.codecs token))
    (hlisted : Along (authStep env) (KeyListed key) (run (authStep env) start before)
      (after ++ [.validate nowMs authHeader])) :
    nowMs / 1000 < (run (authStep env) start before).nowMs / 1000 + env.cacheTtlSecs := by
  rw [along_append] at htimely hlisted
  have hfirst : ∀ entry, (token,entry) ∈ (run (authStep env) start before).cache.entries →
      entry.expiresAt ≤ (run (authStep env) start before).nowMs / 1000 + env.cacheTtlSecs :=
    fun entry hentry => expiresAt_le (provenance_run hempty before htimely.1 _ hentry)
  have hlast := invariant_run (bounded_step hclaims hkey) hlisted.1 hfirst
  rw [run_append] at haccept
  obtain ⟨found,entry,hfound,-,-,hcase⟩ := validateToken_accepted haccept
  have hsame : found = token := Option.some.inj (hfound.symm.trans hbearer)
  subst hsame
  rcases hcase with ⟨hcached,hlive,-⟩ | hfull
  · exact Nat.lt_of_lt_of_le hlive (hlast entry hcached)
  · exact absurd hfull (validateFull_of_listed hclaims hkey hlisted.2.1)

end

/-- After every timely history from an empty cache, each entry stems from a
full validation in it and expires at the earlier of the token's expiry and the
end of the caching window; and every acceptance is within the bounds. -/
theorem tokenCache_sound (env : AuthEnv) (config : GatewayConfig) (snapshot : RevocationSnapshot)
    (startMs : Nat) (history : List AuthEvent)
    (htimely : Along (authStep env) Timely (.initial config snapshot startMs) history) :
    (∀ entry ∈ (run (authStep env) (.initial config snapshot startMs) history).cache.entries,
      Provenance env (.initial config snapshot startMs) history
        (run (authStep env) (.initial config snapshot startMs) history).config
        (run (authStep env) (.initial config snapshot startMs) history).nowMs
        entry.1 entry.2) ∧
      ∀ nowMs authHeader identity,
        (run (authStep env) (.initial config snapshot startMs) history).nowMs ≤ nowMs →
        (answer env (run (authStep env) (.initial config snapshot startMs) history) nowMs
          authHeader).1 = some identity →
        ∃ token claims exp, stripBearer authHeader = some token ∧
          AcceptanceBounds env (.initial config snapshot startMs) history nowMs
            authHeader token identity claims exp := by
  have hempty : (AuthState.initial config snapshot startMs).cache.entries = [] := rfl
  have hprovenance := provenance_run hempty history htimely
  refine ⟨hprovenance,?_⟩
  intro nowMs authHeader identity hlater haccept
  obtain ⟨token,entry,hbearer,hidentity,hfresh,hcase⟩ := validateToken_accepted haccept
  have hbounds : ∃ claims exp, tokenClaims env.codecs token = some claims ∧ claims.exp = some exp ∧
      nowMs / 1000 < exp.toNat ∧ (identity.userId ≠ "" →
        tvStatus (run (authStep env) (.initial config snapshot startMs) history).snapshot
          identity.userId (claims.tv.map UInt64.toNat) = .valid) := by
    rcases hcase with ⟨hcached,hlive,hfloor⟩ | hfull
    · obtain ⟨before,fillMs,header,after,claims,exp,-,-,-,hfilled⟩ := hprovenance _ hcached
      rw [hfilled.expiresAt] at hlive
      rw [hfilled.version] at hfloor
      exact ⟨claims,exp,hfilled.carried,hfilled.expiry,by omega,fun _ => hfloor⟩
    · obtain ⟨claims,exp,hfilled⟩ := validateFull_filled hfull
      refine ⟨claims,exp,hfilled.carried,hfilled.expiry,hfilled.unexpired,?_⟩
      rw [← hidentity,← hfilled.version]
      exact hfilled.floor
  obtain ⟨claims,exp,hcarried,hexpiry,hunexpired,hfloor⟩ := hbounds
  refine ⟨token,claims,exp,hbearer,hcarried,hexpiry,hunexpired,hfloor,hfresh,?_⟩
  intro before after key hsplit hkey hlisted
  subst hsplit
  exact revocation_bound hempty htimely hbearer haccept hcarried hkey hlisted

/-- The sample token is validated at second 1000 and accepted from the cache
ten seconds later. -/
theorem tokenCache_sound_sample :
    Along (authStep sampleEnv) Timely (.initial sampleConfig .empty 1000000)
        [.validate 1000000 sampleAuthHeader] ∧
      ∃ token claims exp, stripBearer sampleAuthHeader = some token ∧
        AcceptanceBounds sampleEnv (.initial sampleConfig .empty 1000000)
          [.validate 1000000 sampleAuthHeader] 1010000 sampleAuthHeader token ⟨"alice",some "us"⟩
          claims exp := by
  have htimely : Along (authStep sampleEnv) Timely
      (.initial sampleConfig .empty 1000000)
      [.validate 1000000 sampleAuthHeader] := ⟨⟨Nat.le_refl _,trivial⟩,trivial⟩
  refine ⟨htimely,?_⟩
  exact (tokenCache_sound sampleEnv sampleConfig .empty 1000000
    [.validate 1000000 sampleAuthHeader] htimely).2 1010000 sampleAuthHeader _ (by decide)
      (by decide +kernel)

end Routiq.Edge.AuthHistory
