import Routiq.Core.LruCache
import Routiq.Core.CString
import Routiq.Edge.Config
import Routiq.Edge.Revocation
import Mathlib.Data.List.TakeDrop

/-! Bearer-token validation with a per-worker positive cache. Base64, JSON,
HMAC and SHA-256 are third-party code and enter as parameters; everything the
gateway itself decides is here. One call reads the clock once. -/
namespace Routiq.Edge.Auth
open Core CString Config Revocation Option List

structure UserIdentity where
  userId : String
  homeRegion : Option String
deriving DecidableEq

structure JwtHeader where
  (alg kid : String)
deriving DecidableEq

structure JwtClaims where
  userId : String
  homeRegion : Option String
  (exp nbf iat : Option UInt64)
  (iss aud jti : Option String)
  tv : Option UInt64
deriving DecidableEq

structure CachedToken where
  identity : UserIdentity
  expiresAt : Nat
  tv : Option Nat
deriving DecidableEq

abbrev TokenCache := LruCache String CachedToken
def tokenCacheCapacity : Nat := 8192

structure Codecs where
  decodeBase64 : String → Option (List UInt8)
  parseHeader : List UInt8 → Option JwtHeader
  parseClaims : List UInt8 → Option JwtClaims
  extractUserIdField : List UInt8 → Option String
  hmacSha256 : List UInt8 → List UInt8 → List UInt8
  sha256 : List UInt8 → List UInt8

structure AuthEnv where
  codecs : Codecs
  (revocationFailClosedVar authCacheTtlSecsVar authSnapshotSyncSecsVar : Option String)

def AuthEnv.revocationFailClosed (env : AuthEnv) : Bool :=
  match env.revocationFailClosedVar with
  | some value => value = "1" || value.map Char.toLower = "true"
  | none => false

def AuthEnv.cacheTtlSecs (env : AuthEnv) : Nat :=
  match env.authCacheTtlSecsVar.bind parseU64 with
  | some value => max 1 (min value 300)
  | none => 30

def AuthEnv.syncIntervalSecs (env : AuthEnv) : Nat := Revocation.syncIntervalSecs env.authSnapshotSyncSecsVar

/-- The sum saturates at the largest 64-bit value. -/
def effectiveCacheExpiry (tokenExp now ttl : Nat) : Nat := min tokenExp (min (now + ttl) (2^64 - 1))

def tokenHashHex (codecs : Codecs) (token : String) : String := hex (codecs.sha256 (utf8 token))

def stripBearer (authHeader : String) : Option String :=
  if "Bearer ".toList.isPrefixOf authHeader.toList then
    some (String.ofList (authHeader.toList.drop 7))
  else none

def splitDot (chars : List Char) : Option (List Char × List Char) :=
  match chars.span (· ≠ '.') with
  | (_,[]) => none
  | (first,_ :: rest) => some (first,rest)

/-- `splitn(3, '.')` with all three parts present. -/
def splitToken (token : String) : Option (String × String × String) :=
  (splitDot token.toList).bind fun header =>
    (splitDot header.2).map fun payload =>
      (String.ofList header.1,String.ofList payload.1,String.ofList payload.2)

def signingSecret (config : GatewayConfig) (kid : String) : Option String :=
  if kid.isEmpty then some config.jwtSecret else config.jwtKeys kid

def signingInput (headerB64 payloadB64 : String) : List UInt8 := utf8 headerB64 ++ utf8 "." ++ utf8 payloadB64

def constantTimeEq (left right : List UInt8) : Bool :=
  if left.length ≠ right.length then false
  else (left.zip right).foldl (fun diff pair => diff ||| (pair.1 ^^^ pair.2)) 0 = 0

/-- Sections 2 to 6 of the validation: the payload of a token whose signature
verifies, and its claims. -/
def authenticate (codecs : Codecs) (config : GatewayConfig) (token : String) :
    Option (List UInt8 × JwtClaims) :=
  (splitToken token).bind fun (headerB64,payloadB64,sigB64) =>
    (codecs.decodeBase64 headerB64).bind fun headerBytes =>
    (codecs.parseHeader headerBytes).bind fun header =>
      if header.alg ≠ "HS256" then none
      else
        (signingSecret config header.kid).bind fun secret =>
        (codecs.decodeBase64 sigB64).bind fun provided =>
          let expected := codecs.hmacSha256 (utf8 secret) (signingInput headerB64 payloadB64)
          if !constantTimeEq expected provided then none
          else
            (codecs.decodeBase64 payloadB64).bind fun payloadBytes =>
            (codecs.parseClaims payloadBytes).map fun claims => (payloadBytes,claims)

/-- The sum wraps, as it does in a release build. -/
def tooOld (now : Nat) (iat : Option UInt64) : Bool :=
  match iat with
  | some iat => (iat + 86400).toNat < now
  | none => false

def notYetValid (now : Nat) (nbf : Option UInt64) : Bool :=
  match nbf with
  | some nbf => now < nbf.toNat
  | none => false

/-- The expiry of claims that pass every check on time, issuer and audience. -/
def acceptedExpiry (config : GatewayConfig) (now : Nat) (claims : JwtClaims) : Option UInt64 :=
  match claims.exp with
  | none => none
  | some exp =>
      if exp.toNat ≤ now then none
      else if notYetValid now claims.nbf then none
      else if tooOld now claims.iat then none
      else if claims.iss ≠ some config.expectedIssuer then none
      else if claims.aud ≠ some config.expectedAudience then none
      else some exp

def rawUserId (codecs : Codecs) (payloadBytes : List UInt8) (claims : JwtClaims) : Option String :=
  if claims.userId.isEmpty then codecs.extractUserIdField payloadBytes else some claims.userId

/-- The floor check of a first validation; an empty user id has no floor. -/
def floorStale (snapshot : RevocationSnapshot) (userId : String) (claims : JwtClaims) : Bool :=
  !userId.isEmpty && tvStatus snapshot userId (claims.tv.map UInt64.toNat) = .stale

def sanitizeHeaderVal (value : String) : Option String :=
  if value.toList.any fun char => char = '\r' || char = '\n' || char = '\x00' then none
  else some value

def sanitizeHomeRegion (homeRegion : Option String) : Option (Option String) :=
  match homeRegion with
  | some region => (sanitizeHeaderVal region).map some
  | none => some none

section
variable (env : AuthEnv) (config : GatewayConfig) (snapshot : RevocationSnapshot)

/-- Every check of a cache miss; the result is the entry that is cached. -/
def validateFull (now : Nat) (token : String) : Option CachedToken :=
  (authenticate env.codecs config token).bind fun (payloadBytes,claims) =>
    (acceptedExpiry config now claims).bind fun exp =>
      if isRevoked snapshot now claims.jti (tokenHashHex env.codecs token) then none
      else if floorStale snapshot ((rawUserId env.codecs payloadBytes claims).getD "") claims then none
      else
        (rawUserId env.codecs payloadBytes claims).bind fun raw =>
        (sanitizeHeaderVal raw).bind fun userId =>
        (sanitizeHomeRegion claims.homeRegion).map fun homeRegion =>
          { identity := ⟨userId,homeRegion⟩
            expiresAt := effectiveCacheExpiry exp.toNat now env.cacheTtlSecs
            tv := claims.tv.map UInt64.toNat }

def validateMiss (now : Nat) (cache : TokenCache) (token : String) : Option UserIdentity × TokenCache :=
  match validateFull env config snapshot now token with
  | none => (none,cache)
  | some entry => (some entry.identity,cache.put token entry)

def validateToken
    (nowMs : Nat) (cache : TokenCache) (authHeader : String) : Option UserIdentity × TokenCache :=
  match stripBearer authHeader with
  | none => (none,cache)
  | some token =>
      if env.revocationFailClosed && snapshotStale env.syncIntervalSecs snapshot nowMs then (none,cache)
      else
        match cache.get token with
        | (some entry,cache) =>
            if nowMs / 1000 < entry.expiresAt then
              if tvStatus snapshot entry.identity.userId entry.tv = .stale then
                (none,cache.pop token)
              else (some entry.identity,cache)
            else validateMiss env config snapshot (nowMs / 1000) (cache.pop token) token
        | (none,cache) => validateMiss env config snapshot (nowMs / 1000) cache token

/-! ## What an entry stands for -/

theorem foldl_or_eq_zero_iff (pairs : List (UInt8 × UInt8)) (diff : UInt8) :
    pairs.foldl (fun diff pair => diff ||| (pair.1 ^^^ pair.2)) diff = 0 ↔
      diff = 0 ∧ ∀ pair ∈ pairs, pair.1 = pair.2 := by
  induction pairs generalizing diff with
  | nil => simp
  | cons pair pairs ih =>
    rw [foldl_cons,ih,UInt8.or_eq_zero_iff,UInt8.xor_eq_zero_iff]
    simp [and_assoc]

theorem constantTimeEq_iff (left right : List UInt8) : constantTimeEq left right = true ↔ left = right := by
  unfold constantTimeEq
  split
  next hlength =>
    simp only [Bool.false_eq_true,false_iff]
    intro heq
    exact hlength (congrArg List.length heq)
  next hlength =>
    rw [decide_eq_true_iff,foldl_or_eq_zero_iff]
    have hsame : left.length = right.length := by simpa using hlength
    constructor
    · intro hall
      apply ext_getElem hsame
      intro i hleft hright
      exact hall.2 (left[i],right[i]) (mem_iff_getElem.mpr ⟨i,by simp; omega,by simp⟩)
    · intro heq
      subst heq
      refine ⟨rfl,?_⟩
      intro pair hpair
      obtain ⟨i,hi,hget⟩ := mem_iff_getElem.mp hpair
      rw [← hget]
      simp

def tokenClaims (codecs : Codecs) (token : String) : Option JwtClaims := (splitToken token).bind fun parts =>
    (codecs.decodeBase64 parts.2.1).bind codecs.parseClaims

inductive Signed (codecs : Codecs) (config : GatewayConfig) (token : String) : Prop where
  | intro (headerB64 payloadB64 sigB64 : String) (header : JwtHeader) (secret : String)
      (hsplit : splitToken token = some (headerB64,payloadB64,sigB64))
      (hheader : (codecs.decodeBase64 headerB64).bind codecs.parseHeader = some header)
      (halg : header.alg = "HS256")
      (hsecret : signingSecret config header.kid = some secret)
      (hsignature : codecs.decodeBase64 sigB64 =
        some (codecs.hmacSha256 (utf8 secret) (signingInput headerB64 payloadB64)))

structure ValidatedAt (now : Nat) (token : String) (claims : JwtClaims) (exp : UInt64) : Prop where
  carried : tokenClaims env.codecs token = some claims
  signed : Signed env.codecs config token
  expiry : claims.exp = some exp
  unexpired : now < exp.toNat
  begun : ∀ nbf, claims.nbf = some nbf → nbf.toNat ≤ now
  issuer : claims.iss = some config.expectedIssuer
  audience : claims.aud = some config.expectedAudience
  notRevoked : isRevoked snapshot now claims.jti (tokenHashHex env.codecs token) = false

structure FilledAt
    (now : Nat) (token : String) (entry : CachedToken) (claims : JwtClaims) (exp : UInt64) : Prop
    extends ValidatedAt env config snapshot now token claims exp where
  expiresAt : entry.expiresAt = min exp.toNat (now + env.cacheTtlSecs)
  version : entry.tv = claims.tv.map UInt64.toNat
  floor : entry.identity.userId ≠ "" → tvStatus snapshot entry.identity.userId entry.tv = .valid
  userIdSafe : '\x00' ∉ entry.identity.userId.toList
  homeRegionSafe : ∀ region, entry.identity.homeRegion = some region → '\x00' ∉ region.toList

end

variable {config : GatewayConfig} {token : String} {claims : JwtClaims}

theorem authenticate_eq_some {codecs : Codecs} {payloadBytes : List UInt8}
    (hauth : authenticate codecs config token = some (payloadBytes,claims)) :
    tokenClaims codecs token = some claims ∧ Signed codecs config token := by
  obtain ⟨⟨headerB64,payloadB64,sigB64⟩,hsplit,hauth⟩ := bind_eq_some_iff.mp hauth
  obtain ⟨headerBytes,hheaderBytes,hauth⟩ := bind_eq_some_iff.mp hauth
  obtain ⟨header,hheader,hauth⟩ := bind_eq_some_iff.mp hauth
  split at hauth
  · contradiction
  rename_i halg
  obtain ⟨secret,hsecret,hauth⟩ := bind_eq_some_iff.mp hauth
  obtain ⟨provided,hprovided,hauth⟩ := bind_eq_some_iff.mp hauth
  dsimp only at hauth
  split at hauth
  · contradiction
  rename_i hequal
  obtain ⟨payload,hpayload,hauth⟩ := bind_eq_some_iff.mp hauth
  obtain ⟨parsed,hparsed,hpair⟩ := map_eq_some_iff.mp hauth
  cases hpair
  have hsignature : codecs.hmacSha256 (utf8 secret) (signingInput headerB64 payloadB64) = provided :=
    (constantTimeEq_iff _ _).mp (by simpa using hequal)
  constructor
  · simp [tokenClaims,hsplit,hpayload,hparsed]
  · exact ⟨headerB64,payloadB64,sigB64,header,secret,hsplit,by simp [hheaderBytes,hheader],
      not_not.mp halg,hsecret,hsignature ▸ hprovided⟩

variable {now : Nat}

theorem acceptedExpiry_eq_some {exp : UInt64} (haccept : acceptedExpiry config now claims = some exp) :
    claims.exp = some exp ∧ now < exp.toNat ∧ (∀ nbf, claims.nbf = some nbf → nbf.toNat ≤ now) ∧
      claims.iss = some config.expectedIssuer ∧ claims.aud = some config.expectedAudience := by
  unfold acceptedExpiry at haccept
  split at haccept
  · contradiction
  rename_i found hfound
  split at haccept
  · contradiction
  rename_i hunexpired
  split at haccept
  · contradiction
  rename_i hbegun
  split at haccept
  · contradiction
  split at haccept
  · contradiction
  rename_i hissuer
  split at haccept
  · contradiction
  rename_i haudience
  cases haccept
  refine ⟨hfound,Nat.lt_of_not_le hunexpired,?_,not_not.mp hissuer,not_not.mp haudience⟩
  intro nbf hnbf
  simpa [notYetValid,hnbf] using hbegun

theorem sanitizeHeaderVal_eq_some {value clean : String}
    (hclean : sanitizeHeaderVal value = some clean) : clean = value ∧ '\x00' ∉ clean.toList := by
  unfold sanitizeHeaderVal at hclean
  split at hclean
  · contradiction
  rename_i hsafe
  cases hclean
  refine ⟨rfl,?_⟩
  intro hnul
  exact hsafe (any_eq_true.mpr ⟨_,hnul,by decide⟩)

theorem sanitizeHomeRegion_safe {homeRegion clean : Option String}
    (hclean : sanitizeHomeRegion homeRegion = some clean) :
    ∀ region, clean = some region → '\x00' ∉ region.toList := by
  intro region hregion
  subst hregion
  cases homeRegion with
  | none => simp [sanitizeHomeRegion] at hclean
  | some value =>
    obtain ⟨checked,hchecked,heq⟩ := map_eq_some_iff.mp hclean
    cases heq
    exact (sanitizeHeaderVal_eq_some hchecked).2

theorem effectiveCacheExpiry_eq (exp : UInt64) (now ttl : Nat) :
    effectiveCacheExpiry exp.toNat now ttl = min exp.toNat (now + ttl) := by
  have hbound := exp.toNat_lt
  unfold effectiveCacheExpiry
  omega

theorem validateFull_filled {env : AuthEnv} {snapshot : RevocationSnapshot} {entry : CachedToken} (hfull : validateFull env config snapshot now token = some entry) :
    ∃ claims exp, FilledAt env config snapshot now token entry claims exp := by
  obtain ⟨⟨payloadBytes,claims⟩,hauth,hfull⟩ := bind_eq_some_iff.mp hfull
  obtain ⟨exp,hexp,hfull⟩ := bind_eq_some_iff.mp hfull
  split at hfull
  · contradiction
  rename_i hrevoked
  split at hfull
  · contradiction
  rename_i hfloor
  obtain ⟨raw,hraw,hfull⟩ := bind_eq_some_iff.mp hfull
  obtain ⟨userId,huserId,hfull⟩ := bind_eq_some_iff.mp hfull
  obtain ⟨homeRegion,hhome,hentry⟩ := map_eq_some_iff.mp hfull
  have hclaims := authenticate_eq_some hauth
  have hchecks := acceptedExpiry_eq_some hexp
  have hsafe := sanitizeHeaderVal_eq_some huserId
  subst hentry
  refine ⟨claims,exp,
    { carried := hclaims.1, signed := hclaims.2, expiry := hchecks.1, unexpired := hchecks.2.1
      begun := hchecks.2.2.1, issuer := hchecks.2.2.2.1, audience := hchecks.2.2.2.2
      notRevoked := by simpa using hrevoked
      expiresAt := effectiveCacheExpiry_eq exp now env.cacheTtlSecs
      version := rfl, floor := ?_, userIdSafe := hsafe.2
      homeRegionSafe := sanitizeHomeRegion_safe hhome }⟩
  intro hnonempty
  rw [hraw,getD_some,← hsafe.1] at hfloor
  cases hstatus : tvStatus snapshot userId (claims.tv.map UInt64.toNat) with
  | valid => rfl
  | stale => simp_all [floorStale]

/-! ## What a call can do -/

section

variable (env : AuthEnv) (config : GatewayConfig) (snapshot : RevocationSnapshot) (nowMs : Nat)
  (cache : TokenCache) (authHeader : String)

/-- The ways through `validateToken`, with the cache lookups they rest on. -/
inductive Outcome : Option UserIdentity × TokenCache → Prop where
  | rejected : Outcome (none,cache)
  | staleHit (token : String) : Outcome (none,(cache.get token).2.pop token)
  | hit (token : String) (entry : CachedToken) (hbearer : stripBearer authHeader = some token)
      (hfresh : env.revocationFailClosed = true → snapshotStale env.syncIntervalSecs snapshot nowMs = false)
      (hcached : (cache.get token).1 = some entry) (hlive : nowMs / 1000 < entry.expiresAt)
      (hfloor : tvStatus snapshot entry.identity.userId entry.tv = .valid) :
      Outcome (some entry.identity,(cache.get token).2)
  | miss (token : String) (rest : TokenCache) (hbearer : stripBearer authHeader = some token)
      (hfresh : env.revocationFailClosed = true → snapshotStale env.syncIntervalSecs snapshot nowMs = false)
      (hrest : ∀ entry ∈ rest.entries, entry ∈ cache.entries) :
      Outcome (validateMiss env config snapshot (nowMs / 1000) rest token)

theorem validateToken_outcome : Outcome env config snapshot nowMs cache authHeader
      (validateToken env config snapshot nowMs cache authHeader) := by
  unfold validateToken
  split
  · exact .rejected
  rename_i token hbearer
  split
  · exact .rejected
  rename_i hguard
  have hfresh : env.revocationFailClosed = true →
      snapshotStale env.syncIntervalSecs snapshot nowMs = false := by
    intro hclosed
    simpa [hclosed] using hguard
  cases hget : cache.get token with
  | mk found looked =>
    have hlooked : looked = (cache.get token).2 := by rw [hget]
    cases found with
    | none =>
      refine .miss token looked hbearer hfresh ?_
      intro entry hentry
      exact LruCache.mem_of_mem_get (hlooked ▸ hentry)
    | some entry =>
      dsimp only
      split
      next hlive =>
        split
        · rw [hlooked]
          exact .staleHit token
        next hfloor =>
          rw [hlooked]
          refine .hit token entry hbearer hfresh (by rw [hget]) hlive ?_
          cases hstatus : tvStatus snapshot entry.identity.userId entry.tv with
          | valid => rfl
          | stale => exact absurd hstatus hfloor
      · refine .miss token (looked.pop token) hbearer hfresh ?_
        intro held hheld
        exact LruCache.mem_of_mem_get (hlooked ▸ LruCache.mem_of_mem_pop hheld)

variable {env config snapshot nowMs cache authHeader}

/-- Nothing new is cached except what a full validation of the presented
token has produced. -/
theorem validateToken_entries {entry : String × CachedToken}
    (hentry : entry ∈ (validateToken env config snapshot nowMs cache authHeader).2.entries) :
    entry ∈ cache.entries ∨ stripBearer authHeader = some entry.1 ∧
        validateFull env config snapshot (nowMs / 1000) entry.1 = some entry.2 := by
  have houtcome := validateToken_outcome env config snapshot nowMs cache authHeader
  generalize validateToken env config snapshot nowMs cache authHeader = result at hentry houtcome
  cases houtcome with
  | rejected => exact Or.inl hentry
  | staleHit token => exact Or.inl (LruCache.mem_of_mem_get (LruCache.mem_of_mem_pop hentry))
  | hit token found hbearer hfresh hcached hlive hfloor => exact Or.inl (LruCache.mem_of_mem_get hentry)
  | miss token rest hbearer hfresh hrest =>
    unfold validateMiss at hentry
    split at hentry
    · exact Or.inl (hrest entry hentry)
    next filled hfull =>
      rcases LruCache.mem_put hentry with heq | hold
      · subst heq
        exact Or.inr ⟨hbearer,hfull⟩
      · exact Or.inl (hrest entry hold)

/-- An accepted token has a live cache entry that agrees with the current
floor, or has just been validated in full. -/
theorem validateToken_accepted {identity : UserIdentity}
    (haccept : (validateToken env config snapshot nowMs cache authHeader).1 = some identity) :
    ∃ token entry, stripBearer authHeader = some token ∧ entry.identity = identity ∧
      (env.revocationFailClosed = true → snapshotStale env.syncIntervalSecs snapshot nowMs = false) ∧
      ((token,entry) ∈ cache.entries ∧ nowMs / 1000 < entry.expiresAt ∧
          tvStatus snapshot identity.userId entry.tv = .valid ∨
        validateFull env config snapshot (nowMs / 1000) token = some entry) := by
  have houtcome := validateToken_outcome env config snapshot nowMs cache authHeader
  generalize validateToken env config snapshot nowMs cache authHeader = result at haccept houtcome
  cases houtcome with
  | rejected | staleHit token => contradiction
  | hit token entry hbearer hfresh hcached hlive hfloor =>
    cases haccept
    exact ⟨token,entry,hbearer,rfl,hfresh,Or.inl ⟨LruCache.mem_of_get hcached,hlive,hfloor⟩⟩
  | miss token rest hbearer hfresh hrest =>
    unfold validateMiss at haccept
    split at haccept
    · contradiction
    next filled hfull => exact ⟨token,filled,hbearer,some.inj haccept,hfresh,Or.inr hfull⟩

end

/-! ## A sample token -/

def sampleHeaderB64 : String := "eyJhbGciOiJIUzI1NiJ9"

def samplePayloadB64 : String :=
  "eyJzdWIiOiJhbGljZSIsImhvbWVfcmVnaW9uIjoidXMiLCJleHAiOjIwMDAsImlzcyI6ImF1dGgiLCJhdWQiOiJhcGkifQ"

def sampleSigB64 : String := "3mxhtx5eTZupJTfJeVNMiHBRYIa9e6_4C6xL73wZqgs"

@[irreducible] def sampleToken : String := sampleHeaderB64 ++ "." ++ samplePayloadB64 ++ "." ++ sampleSigB64

def sampleHeaderJson : String := "\x7b\"alg\":\"HS256\"\x7d"

def samplePayloadJson : String :=
  "\x7b\"sub\":\"alice\",\"home_region\":\"us\",\"exp\":2000,\"iss\":\"auth\",\"aud\":\"api\"\x7d"

def sampleSignature : List UInt8 := [222,108,97,183,30,94,77,155,169,37,55,201,121,83,76,136,
    112,81,96,134,189,123,175,248,11,172,75,239,124,25,170,11]

def sampleClaims : JwtClaims where
  userId := "alice"
  homeRegion := some "us"
  exp := some 2000
  nbf := none
  iat := none
  iss := some "auth"
  aud := some "api"
  jti := none
  tv := none

def sampleCodecs : Codecs where
  decodeBase64 := fun text =>
    if text = sampleHeaderB64 then some (utf8 sampleHeaderJson)
    else if text = samplePayloadB64 then some (utf8 samplePayloadJson)
    else if text = sampleSigB64 then some sampleSignature
    else none
  parseHeader := fun bytes => if bytes = utf8 sampleHeaderJson then some ⟨"HS256",""⟩ else none
  parseClaims := fun bytes => if bytes = utf8 samplePayloadJson then some sampleClaims else none
  extractUserIdField := fun _ => none
  hmacSha256 := fun key message =>
    if key = utf8 "secret" ∧ message = signingInput sampleHeaderB64 samplePayloadB64 then
      sampleSignature
    else []
  sha256 := fun bytes =>
    if bytes = utf8 sampleToken then
      [69,150,197,175,163,86,210,223,187,17,75,9,87,129,88,20,
        42,202,22,27,194,137,24,29,139,81,33,166,205,156,252,147]
    else []

def sampleEnv : AuthEnv := ⟨sampleCodecs,none,none,none⟩
def sampleConfig : GatewayConfig := { GatewayConfig.default with
    jwtSecret := "secret", expectedIssuer := "auth", expectedAudience := "api" }

def sampleAuthHeader : String := "Bearer " ++ sampleToken

end Routiq.Edge.Auth
