import Routiq.Edge.Waf

/-! What the firewall sees of an encoded URI. Its own decoder lets a percent sign
take two characters with it, digits or not, so an escape right after a stray
percent sign is passed over. -/
namespace Routiq.Edge.FormDecoding
open Core.Strings Waf List

/-- Form decoding as the standard has it: a percent sign without two digits
stays, and what follows it is decoded. -/
def formDecode : Text → Text
  | [] => []
  | '%' :: h1 :: h2 :: rest =>
      match toDigit h1, toDigit h2 with
      | some d1, some d2 => Char.ofNat (d1 * 16 + d2) :: formDecode rest
      | _, _ => '%' :: formDecode (h1 :: h2 :: rest)
  | '+' :: rest => ' ' :: formDecode rest
  | character :: rest => character :: formDecode rest

/-- A pattern is shown by the raw URI or by what up to three rounds make of it. -/
def Shown (pattern : String) (uri : Text) : Prop :=
  ∃ rounds ≤ maxDecodePasses, isMatch [pattern] (formDecode^[rounds] uri) = true

/-- Every URI that shows the pattern is blocked with 403; those with something to
decode may be left out of account. -/
def AlwaysSeen (encoded : Bool) (pattern : String) : Prop :=
  ∀ (env : WafEnv) (level nowMs : Nat) (uri authHeader userAgent body clientIp : String) (memory : WafMemory),
    (utf8 uri.toList).length ≤ maxUriLen → (utf8 authHeader.toList).length ≤ maxAuthHeaderLen →
    ('%' ∈ uri.toList ∨ '+' ∈ uri.toList → encoded = true) → Shown pattern uri.toList →
    ∃ reason, (inspect env level nowMs uri authHeader userAgent body clientIp memory).1 = .block reason ∧
      reason.status = 403

/-! ## Nothing to decode -/

section Plain
variable {text : Text} (hplain : ¬('%' ∈ text ∨ '+' ∈ text))
include hplain

theorem formDecode_of_plain : formDecode text = text := by
  fun_induction formDecode text with
  | case1 => rfl
  | case2 | case3 | case4 => simp at hplain
  | case5 character rest _ _ ih =>
    rw [ih fun hmem => hplain (hmem.imp (mem_cons_of_mem _) (mem_cons_of_mem _))]

theorem urlDecodeRecursive_of_plain : urlDecodeRecursive text = text := by
  have hdecode : urlDecode text = text := by
    fun_induction urlDecode text with
    | case1 => rfl
    | case2 | case3 | case4 | case5 => simp at hplain
    | case6 character rest _ _ _ ih =>
      rw [ih fun hmem => hplain (hmem.imp (mem_cons_of_mem _) (mem_cons_of_mem _))]
  rw [urlDecodeRecursive,hdecode,maxDecodePasses,urlDecodeAgain,hdecode,if_pos rfl]

end Plain

theorem alwaysSeen_unencoded {pattern : String} (hpattern : pattern ∈ injectionPatterns) :
    AlwaysSeen false pattern := by
  intro env level nowMs uri authHeader userAgent body clientIp memory huri hheader hplain hshown
  have hplain : ¬('%' ∈ uri.toList ∨ '+' ∈ uri.toList) := fun hmem => Bool.false_ne_true (hplain hmem)
  obtain ⟨rounds,_,hmatch⟩ := hshown
  rw [Function.iterate_fixed (formDecode_of_plain hplain)] at hmatch
  simp only [isMatch,any_cons,any_nil,Bool.or_false] at hmatch
  have hseen : isMatch injectionPatterns (urlDecodeRecursive uri.toList) = true := by
    rw [urlDecodeRecursive_of_plain hplain]
    exact any_eq_true.mpr ⟨pattern,hpattern,hmatch⟩
  have hscan : scan uri.toList authHeader.toList userAgent.toList body.toList = some .injectionInUri := by
    rw [scan,if_neg (Nat.not_lt.mpr huri),if_neg (Nat.not_lt.mpr hheader),if_pos hseen]
  exact ⟨.injectionInUri,by simp only [inspect,hscan,block],rfl⟩

/-! ## Behind a stray percent sign -/

/-- The first character of the pattern is escaped, right after a percent sign. -/
def hide (pattern : String) : String :=
  match pattern.toList with
  | [] => ""
  | first :: rest => String.ofList
      ('%' :: '%' :: Nat.digitChar (first.toNat / 16) :: Nat.digitChar (first.toNat % 16) :: rest)

theorem hide_unseen : ∀ pattern ∈ injectionPatterns, (utf8 (hide pattern).toList).length ≤ maxUriLen ∧
    isMatch [pattern] (formDecode (hide pattern).toList) = true ∧ scan (hide pattern).toList [] [] [] = none := by
  decide +kernel

def sampleEnv : WafEnv := ⟨String.length,none⟩
def sampleMemory : WafMemory := ⟨0,Core.FixedWindow.Table.empty ipRateLimitSlots⟩

end Routiq.Edge.FormDecoding
