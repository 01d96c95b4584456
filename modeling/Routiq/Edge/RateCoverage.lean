import Routiq.Edge.Assembly

/-! Which admitted requests a rate limit has counted. The firewall counts by
address and looks at the header alone; the limit per user counts validated
identities. A header that is neither empty nor a valid token falls between. -/
namespace Routiq.Edge.RateCoverage
open Core.CString Core.FixedWindow Option Pipeline Gates Assembly

variable (node : Node) (nowMs : Nat) (args : RequestArgs) (gateway : Gateway NodeMemory)

def after : NodeMemory := (processRequest node.env nowMs args gateway).2.worker.memory
def CountedByAddress : Prop := (after node nowMs args gateway).waf.buckets
      (Waf.ipSlot node.wafEnv (optionalText args.clientIp)) =
    (gateway.worker.memory.waf.buckets
      (Waf.ipSlot node.wafEnv (optionalText args.clientIp))).counted (nowSecsU32 nowMs)

def CountedByUser (passage : Passage NodeMemory) : Prop :=
  ∃ identity, identityOf node.env nowMs gateway passage = some identity ∧
    (after node nowMs args gateway).rate.buckets (RateLimit.userSlot node.rateEnv identity.userId) =
      (gateway.worker.memory.rate.buckets
        (RateLimit.userSlot node.rateEnv identity.userId)).counted (nowSecsU32 nowMs)

variable {node nowMs args gateway} {passage : Passage NodeMemory}

section
variable (hpasses : Passes node.env nowMs args gateway passage)
  (hadmitted : (processRequest node.env nowMs args gateway).1 = 200)
include hpasses hadmitted

theorem after_waf : (after node nowMs args gateway).waf = passage.inspected.waf := by
  obtain ⟨upstream,hall⟩ := exists_upstream_of_admitted node.env nowMs args hpasses hadmitted
  unfold after
  rw [admitted_memory hall]

theorem after_rate : (after node nowMs args gateway).rate =
      (RateLimit.checkRateLimit node.rateEnv nowMs passage.service.rateLimitMax
        (userKey node.env nowMs gateway passage) gateway.worker.memory.rate).2 := by
  obtain ⟨upstream,hall⟩ := exists_upstream_of_admitted node.env nowMs args hpasses hadmitted
  have hrate : passage.inspected.rate = gateway.worker.memory.rate := by rw [inspected_eq hpasses]
  unfold after
  rw [admitted_memory hall,← hrate]
  rfl

theorem countedByAddress_iff (hip : optionalText args.clientIp ≠ "") :
    CountedByAddress node nowMs args gateway ↔ decode passage.authHeader = "" := by
  have hwaf := waf_inspected hpasses
  unfold CountedByAddress
  rw [after_waf hpasses hadmitted]
  by_cases hheader : decode passage.authHeader = ""
  · exact iff_of_true (Waf.inspect_anonymous hwaf hheader hip) hheader
  · rw [Waf.inspect_with_header hwaf hheader]
    exact iff_of_false (Bucket.counted_ne _ _).symm hheader

theorem countedByUser_iff (hmax : 0 < passage.service.rateLimitMax) :
    CountedByUser node nowMs args gateway passage ↔
      ∃ identity, identityOf node.env nowMs gateway passage = some identity ∧ identity.userId ≠ "" := by
  obtain ⟨upstream,hall⟩ := exists_upstream_of_admitted node.env nowMs args hpasses hadmitted
  have hpassed : (RateLimit.checkRateLimit node.rateEnv nowMs passage.service.rateLimitMax
      (userKey node.env nowMs gateway passage) gateway.worker.memory.rate).1 = true := by
    have hrate : passage.inspected.rate = gateway.worker.memory.rate := by rw [inspected_eq hpasses]
    rw [← hrate]
    exact hall.rated
  unfold CountedByUser
  rw [after_rate hpasses hadmitted]
  apply exists_congr
  intro identity
  apply and_congr_right
  intro hidentity
  have hkey : userKey node.env nowMs gateway passage = some identity.userId := by
    unfold userKey
    rw [hidentity]
    rfl
  rw [hkey] at hpassed ⊢
  by_cases hempty : identity.userId = ""
  · rw [hempty,RateLimit.checkRateLimit,if_neg hmax.ne',if_pos (show "".isEmpty = true from rfl)]
    exact iff_of_false (Bucket.counted_ne _ _).symm fun hne => hne rfl
  · exact iff_of_true (RateLimit.checkRateLimit_counted hmax hempty hpassed) hempty

end

/-- An admitted request to a limited service was counted exactly when it has no
Authorization header or a header that is a valid token of a named user. -/
theorem rate_limit_covers_iff (hpasses : Passes node.env nowMs args gateway passage)
    (hadmitted : (processRequest node.env nowMs args gateway).1 = 200)
    (hip : optionalText args.clientIp ≠ "") (hmax : 0 < passage.service.rateLimitMax) :
    (CountedByAddress node nowMs args gateway ∨ CountedByUser node nowMs args gateway passage) ↔
      (decode passage.authHeader = "" ∨
        ∃ identity, identityOf node.env nowMs gateway passage = some identity ∧ identity.userId ≠ "") :=
  or_congr (countedByAddress_iff hpasses hadmitted hip) (countedByUser_iff hpasses hadmitted hmax)

theorem sample_limit {args : RequestArgs} {passage : Passage NodeMemory}
    (hpasses : Passes sampleNode.env 1000000 args (sampleGateway (sampleService ["US"]) none) passage) :
    0 < passage.service.rateLimitMax := by
  have hservice : some (sampleService ["US"]) = some passage.service := hpasses.configured
  rw [← some.inj hservice]
  decide

theorem rate_limit_covers_sample : ∃ passage, Passes sampleNode.env 1000000 (sampleArgs "")
        (sampleGateway (sampleService ["US"]) none) passage ∧
      (CountedByAddress sampleNode 1000000 (sampleArgs "")
          (sampleGateway (sampleService ["US"]) none) ∨
        CountedByUser sampleNode 1000000 (sampleArgs "")
          (sampleGateway (sampleService ["US"]) none) passage) := by
  have hadmitted : (processRequest sampleNode.env 1000000 (sampleArgs "")
      (sampleGateway (sampleService ["US"]) none)).1 = 200 := by decide +kernel
  obtain ⟨passage,hpasses⟩ := exists_passage_of_admitted sampleNode.env _ _ hadmitted
  have hheader : utf8 "" = passage.authHeader := some.inj hpasses.header
  have hempty : decode passage.authHeader = "" := by
    rw [← hheader]
    decide +kernel
  exact ⟨passage,hpasses,(rate_limit_covers_iff hpasses hadmitted (by decide +kernel)
    (sample_limit hpasses)).mpr (Or.inl hempty)⟩

/-- A header of another scheme keeps the firewall from counting and names no
user: the request is admitted and counted nowhere. -/
theorem other_scheme_is_not_counted : (processRequest sampleNode.env 1000000 (sampleArgs "Basic x")
        (sampleGateway (sampleService ["US"]) none)).1 = 200 ∧
      optionalText (sampleArgs "Basic x").clientIp ≠ "" ∧
      ∃ passage, Passes sampleNode.env 1000000 (sampleArgs "Basic x")
          (sampleGateway (sampleService ["US"]) none) passage ∧
        0 < passage.service.rateLimitMax ∧
        ¬(CountedByAddress sampleNode 1000000 (sampleArgs "Basic x")
            (sampleGateway (sampleService ["US"]) none) ∨
          CountedByUser sampleNode 1000000 (sampleArgs "Basic x")
            (sampleGateway (sampleService ["US"]) none) passage) := by
  have hadmitted : (processRequest sampleNode.env 1000000 (sampleArgs "Basic x")
      (sampleGateway (sampleService ["US"]) none)).1 = 200 := by decide +kernel
  obtain ⟨passage,hpasses⟩ := exists_passage_of_admitted sampleNode.env _ _ hadmitted
  have hip : optionalText (sampleArgs "Basic x").clientIp ≠ "" := by decide +kernel
  have hlimit := sample_limit hpasses
  have hheader : utf8 "Basic x" = passage.authHeader := some.inj hpasses.header
  refine ⟨hadmitted,hip,passage,hpasses,hlimit,?_⟩
  rw [countedByAddress_iff hpasses hadmitted hip,countedByUser_iff hpasses hadmitted hlimit,← hheader]
  rintro (hempty | ⟨identity,hidentity,-⟩)
  · revert hempty
    decide +kernel
  · have hnobody : (identityOf sampleNode.env 1000000 (sampleGateway (sampleService ["US"]) none)
        passage) = none := by
      unfold identityOf
      rw [← hheader]
      decide +kernel
    rw [hnobody] at hidentity
    cases hidentity

end Routiq.Edge.RateCoverage
