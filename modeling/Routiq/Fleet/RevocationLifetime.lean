import Routiq.Edge.Auth

/-! How long a revocation lasts. The issuer gives an access token its lifetime,
whoever revokes it sends a lifetime for the revocation, and the edge accepts the
token by its expiry and its age. -/
namespace Routiq.Fleet.RevocationLifetime
open Edge.Config Edge.Auth Option

def unitSecs : Char → Option Nat
  | 's' => some 1
  | 'm' => some 60
  | 'h' => some 3600
  | 'd' => some 86400
  | _ => none

/-- Digits and a unit; everything else counts as fifteen minutes. -/
def parseExpiry (expiry : String) : Nat :=
  match expiry.toList.span Char.isDigit with
  | (digits,[unit]) =>
    match unitSecs unit with
    | some secs => if digits.isEmpty then 900 else Nat.ofDigitChars 10 digits 0 * secs
    | none => 900
  | _ => 900

/-- The claims of a token as the edge reads them; a time beyond 64 bits does not
parse. -/
def generateAccessToken (accessExpiresIn : String) (issuedMs : Nat) (payload : JwtClaims) :
    Option JwtClaims :=
  let iat := issuedMs / 1000
  let exp := iat + parseExpiry accessExpiresIn
  if exp < 2^64 then
    some { payload with exp := some (.ofNat exp), iat := some (.ofNat iat), nbf := none }
  else none

def remainingTtlSecs (exp nowMs : Nat) : Nat :=
  if exp = 0 then 3600
  else if exp ≤ nowMs / 1000 then 60
  else min (max (exp - nowMs / 1000) 60) 86400

def accessRevokeTtlSecs : Nat := 900

/-- A logout has the token, a session kill only its id. -/
inductive Revoker where
  | revokeAccessToken | revokeAllTrackedAccessJtis
deriving DecidableEq

def ttlSecs (exp nowMs : Nat) : Revoker → Nat
  | .revokeAccessToken => remainingTtlSecs exp nowMs
  | .revokeAllTrackedAccessJtis => accessRevokeTtlSecs

def accepted (config : GatewayConfig) (claims : JwtClaims) (atMs : Nat) : Bool :=
  (acceptedExpiry config (atMs / 1000) claims).isSome

/-- No token that was issued with this lifetime is accepted at a time that its
revocation does not reach. -/
def RevocationsOutlive (accessExpiresIn : String) : Prop :=
  ∀ config payload claims revoker issuedMs revokedMs atMs,
    generateAccessToken accessExpiresIn issuedMs payload = some claims → issuedMs ≤ revokedMs →
    accepted config claims atMs = true →
    atMs ≤ revokedMs + 1000 * ttlSecs (issuedMs / 1000 + parseExpiry accessExpiresIn) revokedMs revoker

variable {accessExpiresIn : String} {issuedMs : Nat} {payload claims : JwtClaims}

section
variable (hissued : generateAccessToken accessExpiresIn issuedMs payload = some claims)
include hissued

theorem exp_of_generated :
    claims.exp.map UInt64.toNat = some (issuedMs / 1000 + parseExpiry accessExpiresIn) := by
  unfold generateAccessToken at hissued
  dsimp only at hissued
  split at hissued
  next hfits =>
    rw [← some.inj hissued]
    exact congrArg some (UInt64.toNat_ofNat_of_lt' hfits)
  · contradiction

theorem lt_of_accepted {config : GatewayConfig} {atMs : Nat}
    (haccepted : accepted config claims atMs = true) :
    atMs / 1000 < issuedMs / 1000 + parseExpiry accessExpiresIn := by
  obtain ⟨exp,hexp⟩ := isSome_iff_exists.mp haccepted
  obtain ⟨hclaims,hunexpired,_⟩ := acceptedExpiry_eq_some hexp
  have htime := exp_of_generated hissued
  rw [hclaims,map_some,some.injEq] at htime
  rwa [← htime]

end

def samplePayload : JwtClaims where
  userId := "u"
  homeRegion := none
  exp := none
  nbf := none
  iat := none
  iss := some GatewayConfig.default.expectedIssuer
  aud := some GatewayConfig.default.expectedAudience
  jti := some "j"
  tv := some 0

theorem revocations_outlive_iff (accessExpiresIn : String) : RevocationsOutlive accessExpiresIn ↔
    parseExpiry accessExpiresIn ≤ 900 ∨ 2^64 ≤ parseExpiry accessExpiresIn := by
  constructor
  · intro houtlive
    by_contra hlifetime
    have hexp : 900 < parseExpiry accessExpiresIn % 2^64 := by omega
    have hreached := houtlive .default samplePayload _ .revokeAllTrackedAccessJtis 0 0 900001
      (if_pos (by simp; omega)) (le_refl 0)
      (by simpa [accepted,acceptedExpiry,notYetValid,tooOld,samplePayload] using hexp)
    simp only [ttlSecs,accessRevokeTtlSecs] at hreached
    omega
  · intro hlifetime config payload claims revoker issuedMs revokedMs atMs hissued hlater haccepted
    have hunexpired := lt_of_accepted hissued haccepted
    have hfits : issuedMs / 1000 + parseExpiry accessExpiresIn < 2^64 := by
      have hexp := exp_of_generated hissued
      obtain ⟨exp,_,hexp⟩ := map_eq_some_iff.mp hexp
      rw [← hexp]
      exact exp.toNat_lt
    cases revoker with
    | revokeAccessToken =>
      simp only [ttlSecs,remainingTtlSecs]
      split
      · omega
      · split
        · omega
        · omega
    | revokeAllTrackedAccessJtis =>
      simp only [ttlSecs,accessRevokeTtlSecs]
      omega

/-- With a lifetime of an hour, a token whose session is killed a minute after
the login is accepted again a quarter of an hour later. -/
theorem hour_token_accepted_again :
    ∃ claims, generateAccessToken "1h" 1700000000000 samplePayload = some claims ∧
      1700000060000 + 1000 * ttlSecs (1700000000 + parseExpiry "1h") 1700000060000 .revokeAllTrackedAccessJtis <
        1700000961000 ∧ accepted .default claims 1700000961000 = true :=
  ⟨_,rfl,by decide,by decide⟩

end Routiq.Fleet.RevocationLifetime
