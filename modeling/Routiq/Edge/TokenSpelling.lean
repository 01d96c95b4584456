import Routiq.Core.Base64
import Routiq.Edge.Auth
import Mathlib.Data.Set.Function

/-! A signed header and payload have one spelling. -/
namespace Routiq.Edge.TokenSpelling
open Core Auth Config Option List

theorem splitDot_eq_some {chars : List Char} {parts : List Char × List Char}
    (hsplit : splitDot chars = some parts) : chars = parts.1 ++ '.' :: parts.2 := by
  rw [splitDot,span_eq_takeWhile_dropWhile] at hsplit
  split at hsplit
  · contradiction
  next first dot rest hspan =>
    obtain ⟨hfirst,hrest⟩ := Prod.mk.inj hspan
    have hdot := head?_dropWhile_not (· ≠ '.') chars
    have hchars := takeWhile_append_dropWhile (p := (· ≠ '.')) (l := chars)
    cases hsplit
    simp_all

theorem splitToken_eq_some {token headerB64 payloadB64 sigB64 : String}
    (hsplit : splitToken token = some (headerB64,payloadB64,sigB64)) :
    token = headerB64 ++ "." ++ payloadB64 ++ "." ++ sigB64 := by
  obtain ⟨header,hheader,hrest⟩ := bind_eq_some_iff.mp hsplit
  obtain ⟨payload,hpayload,hparts⟩ := map_eq_some_iff.mp hrest
  cases hparts
  apply String.toList_injective
  rw [splitDot_eq_some hheader,splitDot_eq_some hpayload]
  simp

/-- The environment with base64 0.22's `URL_SAFE_NO_PAD`. -/
def strict (env : AuthEnv) : AuthEnv :=
  { env with codecs := { env.codecs with decodeBase64 := Base64.decode } }

/-- Tokens of one configuration, accepted at whatever times. -/
theorem accepted_injOn (env : AuthEnv) (config : GatewayConfig) :
    Set.InjOn (fun token => (splitToken token).map fun parts => (parts.1,parts.2.1))
      {token | ∃ snapshot now, (validateFull (strict env) config snapshot now token).isSome} := by
  have hsigned : ∀ token, (∃ snapshot now, (validateFull (strict env) config snapshot now token).isSome) →
      Signed (strict env).codecs config token := by
    rintro token ⟨snapshot,now,haccepted⟩
    obtain ⟨entry,hentry⟩ := isSome_iff_exists.mp haccepted
    obtain ⟨claims,exp,hfilled⟩ := validateFull_filled hentry
    exact hfilled.signed
  intro left hleft right hright hsame
  obtain ⟨headerB64,payloadB64,leftB64,header,secret,hsplit,hheader,-,hsecret,hsignature⟩ := hsigned left hleft
  obtain ⟨_,_,rightB64,_,_,hsplit',hheader',-,hsecret',hsignature'⟩ := hsigned right hright
  simp only [hsplit,hsplit',map_some,some_inj,Prod.mk.injEq] at hsame
  obtain ⟨rfl,rfl⟩ := hsame
  obtain rfl := some.inj (hheader.symm.trans hheader')
  obtain rfl := some.inj (hsecret.symm.trans hsecret')
  rw [splitToken_eq_some hsplit,splitToken_eq_some hsplit',← Base64.encode_decode hsignature,
    ← Base64.encode_decode hsignature']

end Routiq.Edge.TokenSpelling
