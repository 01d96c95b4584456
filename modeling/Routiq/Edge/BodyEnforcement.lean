import Routiq.Edge.Access
import Routiq.Edge.Assembly

/-! What of a body the policy of its route sees. nginx keeps a short body in
memory and spools a longer one to a file; of a spooled one the Lua side reads
the window of the firewall, and what is read is decoded lossily before its
length is taken. -/
namespace Routiq.Edge.BodyEnforcement
open Core Strings Utf8Lossy Config Access Pipeline Gates Assembly BodyPolicy

def clientBodyBufferSize : Nat := 131072

def receive (request : ClientRequest) (body : List UInt8) : ClientRequest :=
  if body.length ≤ clientBodyBufferSize then
    { request with bodyData := some body, bodyFile := none }
  else { request with bodyData := none, bodyFile := some body }

def carriesBody (request : ClientRequest) : Prop :=
  request.method = "POST" ∨ request.method = "PUT" ∨ request.method = "PATCH"

def handed (body : List UInt8) : List UInt8 :=
  if body.length ≤ clientBodyBufferSize then body else body.take wafBodyScanBytes

theorem requestBody_receive {request : ClientRequest} (hmethod : carriesBody request)
    (body : List UInt8) : requestBody (receive request body) = handed body := by
  unfold requestBody receive handed
  split
  · exact if_pos hmethod
  · exact if_pos hmethod

variable {body : List UInt8}

theorem bodyText_toList (node : Node) {args : RequestArgs}
    (hbody : args.body = some body) : (bodyText node.env args).toList = lossy body := by
  unfold bodyText
  rw [hbody]
  dsimp only
  split
  next hempty =>
    rw [List.isEmpty_iff] at hempty
    subst hempty
    rfl
  · exact String.toList_ofList

/-! ## Lengths -/

theorem exceeds_mono (policy : ValidationConfig) {size larger : Nat} (hle : size ≤ larger)
    (hexceeds : Exceeds policy size) : Exceeds policy larger := by
  obtain ⟨limit,hlimit,hover⟩ := hexceeds
  exact ⟨limit,hlimit,by omega⟩

theorem length_handed_le (hspooled : clientBodyBufferSize < body.length) :
    (utf8 (lossy (handed body))).length ≤ body.length := by
  unfold handed
  rw [if_neg (by omega)]
  have hlossy := length_lossy_le (body.take wafBodyScanBytes)
  have hwindow := List.length_take_le wafBodyScanBytes body
  unfold clientBodyBufferSize at hspooled
  unfold wafBodyScanBytes at *
  omega

/-! ## The verdict -/

section

variable (node : Node) (nowMs : Nat) (request : ClientRequest) (body : List UInt8)
  (gateway : Gateway NodeMemory)

def arguments : RequestArgs := requestArgs (receive request body)
def contentType : Text := (optionalText (arguments request body).contentType).toList

section
variable (passage : Passage NodeMemory) (policy : ValidationConfig)

structure Reaches : Prop where
  method : carriesBody request
  passes : Passes node.env nowMs (arguments request body) gateway passage
  kept : (node.env.stages.shedAnonymous passage.inspected &&
    (identityOf node.env nowMs gateway passage).isNone) = false
  policed : passage.route.validation = some policy

def objection : Except Violation Unit → Option Violation
  | .ok () => none
  | .error violation => some violation

/-- The size is judged by the bytes, and the rest of the policy by all of them. -/
def Enforced : Prop :=
  ((processRequest node.env nowMs (arguments request body) gateway).1 = 413 ↔ Exceeds policy body.length) ∧
    (¬Exceeds policy body.length → bodyViolation node.env (arguments request body) passage.resolved =
        objection (validateBody node.fromStr policy (contentType request body) (lossy body)))

end

/-- Decoding does not push a body over the limit; and of a spooled one, the
window is over the limit where the body is, and is judged as the body would
be where it is not. -/
structure SeenFaithfully (policy : ValidationConfig) : Prop where
  decoded : Exceeds policy (utf8 (lossy body)).length → Exceeds policy body.length
  oversized : clientBodyBufferSize < body.length → Exceeds policy body.length →
    Exceeds policy (utf8 (lossy (body.take wafBodyScanBytes))).length
  judged : clientBodyBufferSize < body.length → ¬Exceeds policy body.length →
    validateContent node.fromStr policy (contentType request body)
        (lossy (body.take wafBodyScanBytes)) =
      validateContent node.fromStr policy (contentType request body) (lossy body)

variable {node nowMs request body gateway} {passage : Passage NodeMemory} {policy : ValidationConfig}

theorem objection_some {verdict : Except Violation Unit} {violation : Violation} :
    objection verdict = some violation ↔ verdict = .error violation := by
  cases verdict with
  | ok accepted | error other => simp [objection]

section
variable (hreaches : Reaches node nowMs request body gateway passage policy)
include hreaches

theorem bodyViolation_eq : bodyViolation node.env (arguments request body) passage.resolved =
      objection (validateBody node.fromStr policy (contentType request body) (lossy (handed body))) := by
  have hpolicy : passage.resolved.validation = some policy := hreaches.policed
  have htext : (bodyText node.env (arguments request body)).toList = lossy (handed body) := by
    rw [← requestBody_receive hreaches.method]
    exact bodyText_toList node rfl
  unfold bodyViolation
  rw [hpolicy,← htext]
  rfl

theorem tooLarge_iff : (processRequest node.env nowMs (arguments request body) gateway).1 = 413 ↔
      Exceeds policy (utf8 (lossy (handed body))).length := by
  rw [processRequest_tooLarge_iff node.env nowMs _ hreaches.passes hreaches.kept,
    bodyViolation_eq hreaches,← validateBody_status_iff node.fromStr policy
      (contentType request body) (lossy (handed body))]
  apply exists_congr
  intro violation
  rw [objection_some]

end

theorem objection_inj {first second : Except Violation Unit}
    (hsame : objection first = objection second) : first = second := by
  cases hfirst : objection first with
  | some violation => rw [objection_some.mp hfirst,objection_some.mp (hsame.symm.trans hfirst)]
  | none =>
    have hsecond := hsame.symm.trans hfirst
    cases first with
    | error violation => cases hfirst
    | ok accepted =>
      cases second with
      | error violation => cases hsecond
      | ok other => rfl

theorem exceeds_iff_of_same {fromStr : FromStr} {type first second : Text}
    (hsame : validateBody fromStr policy type first = validateBody fromStr policy type second) :
    Exceeds policy (utf8 first).length ↔ Exceeds policy (utf8 second).length := by
  rw [← validateBody_status_iff fromStr policy type first,
    ← validateBody_status_iff fromStr policy type second,hsame]

theorem seenFaithfully_of_enforced (hreaches : Reaches node nowMs request body gateway passage policy)
    (henforced : Enforced node nowMs request body gateway passage policy) :
    SeenFaithfully node request body policy := by
  obtain ⟨hsize,hverdict⟩ := henforced
  rw [tooLarge_iff hreaches] at hsize
  rw [bodyViolation_eq hreaches] at hverdict
  by_cases hspooled : clientBodyBufferSize < body.length
  · have hhanded : handed body = body.take wafBodyScanBytes := if_neg (by omega)
    rw [hhanded] at hsize hverdict
    have hsame := fun hwithin => objection_inj (hverdict hwithin)
    refine ⟨fun hdecoded => ?_,fun _ hover => hsize.mpr hover,fun _ hwithin => ?_⟩
    · by_contra hwithin
      exact hwithin (hsize.mp ((exceeds_iff_of_same (hsame hwithin)).mpr hdecoded))
    · have hwindow := mt hsize.mp hwithin
      have hwhole := mt (exceeds_iff_of_same (hsame hwithin)).mpr hwindow
      rw [← validateBody_of_within hwindow,← validateBody_of_within hwhole]
      exact hsame hwithin
  · have hhanded : handed body = body := if_pos (by omega)
    rw [hhanded] at hsize
    exact ⟨hsize.mp,fun hlong => absurd hlong hspooled,fun hlong => absurd hlong hspooled⟩

theorem enforced_of_seenFaithfully (hreaches : Reaches node nowMs request body gateway passage policy)
    (hseen : SeenFaithfully node request body policy) :
    Enforced node nowMs request body gateway passage policy := by
  unfold Enforced
  rw [tooLarge_iff hreaches,bodyViolation_eq hreaches]
  by_cases hspooled : clientBodyBufferSize < body.length
  · have hhanded : handed body = body.take wafBodyScanBytes := if_neg (by omega)
    have hshorter := exceeds_mono policy (length_handed_le hspooled)
    rw [hhanded] at hshorter ⊢
    refine ⟨⟨hshorter,hseen.oversized hspooled⟩,fun hwithin => ?_⟩
    rw [validateBody_of_within (mt hshorter hwithin),validateBody_of_within (mt hseen.decoded hwithin),
      hseen.judged hspooled hwithin]
  · have hhanded : handed body = body := if_pos (by omega)
    rw [hhanded]
    exact ⟨⟨hseen.decoded,exceeds_mono policy (length_le_length_lossy body)⟩,fun _ => rfl⟩

/-- The policy is enforced on the real body exactly when what crosses to the
extension stands for it. -/
theorem body_policy_enforced_iff (hreaches : Reaches node nowMs request body gateway passage policy) :
    Enforced node nowMs request body gateway passage policy ↔ SeenFaithfully node request body policy :=
  ⟨seenFaithfully_of_enforced hreaches,enforced_of_seenFaithfully hreaches⟩

end

/-! ## A sample upload -/

def sampleUpload : ClientRequest where
  method := "POST"
  origin := none
  authorization := some (CString.utf8 "Basic x")
  requestUri := some (CString.utf8 "/api")
  uri := none
  userAgent := none
  remoteAddr := none
  bodyData := none
  bodyFile := none
  xCanary := none
  cookieCanary := none
  contentType := none

def samplePolicy : ValidationConfig := ⟨some 1,false,[]⟩
def sampleUploaded : Gateway NodeMemory := sampleGateway (sampleService ["US"]) (some samplePolicy)

def sampleUploadPassage : Passage NodeMemory where
  authHeader := CString.utf8 "Basic x"
  path := CString.utf8 "/api"
  inspected := sampleMemory (some samplePolicy) []
  route := ⟨"api","normal",some samplePolicy⟩
  service := sampleService ["US"]
  region := "US"

theorem sample_arguments (body : List UInt8) : arguments sampleUpload body =
      { requestArgs sampleUpload with body := some (handed body) } := by
  rw [← requestBody_receive (Or.inl rfl : carriesBody sampleUpload)]
  unfold arguments receive
  split
  · rfl
  · rfl

theorem sample_reaches
    (hallowed : (Waf.inspect sampleNode.wafEnv 0 1000000 (CString.decode (CString.utf8 "/api"))
      (CString.decode (CString.utf8 "Basic x")) (CString.decode [])
      (bodyText sampleNode.env (arguments sampleUpload body)) (CString.decode [])
      (sampleMemory (some samplePolicy) []).waf).1 = .allow) :
    Reaches sampleNode 1000000 sampleUpload body sampleUploaded sampleUploadPassage samplePolicy := by
  have hheader : CString.decode (CString.utf8 "Basic x") ≠ "" := by decide +kernel
  have hinspected := sampleNode.inspect_with_header (sampleMemory (some samplePolicy) []) hallowed hheader
  refine ⟨Or.inl rfl,⟨by decide +kernel,?_,?_,?_,rfl,rfl,by decide +kernel⟩,by decide +kernel,rfl⟩
  · rw [sample_arguments]
    rfl
  · rw [sample_arguments]
    rfl
  · rw [sample_arguments] at hinspected ⊢
    exact hinspected

theorem body_policy_enforced_sample :
    Reaches sampleNode 1000000 sampleUpload [32] sampleUploaded sampleUploadPassage samplePolicy ∧
      Enforced sampleNode 1000000 sampleUpload [32] sampleUploaded sampleUploadPassage samplePolicy := by
  have hreaches : Reaches sampleNode 1000000 sampleUpload [32] sampleUploaded sampleUploadPassage
    samplePolicy := sample_reaches (by decide +kernel)
  refine ⟨hreaches,(body_policy_enforced_iff hreaches).mpr ⟨?_,?_,?_⟩⟩
  · rintro ⟨limit,hlimit,hover⟩
    have hlength : (utf8 (lossy [32])).length = 1 := by decide +kernel
    rw [hlength] at hover
    exact ⟨limit,hlimit,hover⟩
  · intro hspooled
    exact absurd hspooled (by decide)
  · intro hspooled
    exact absurd hspooled (by decide)

/-- One byte that is no text counts as the three of its replacement. -/
theorem broken_byte_is_tooLarge :
    Reaches sampleNode 1000000 sampleUpload [0xFF] sampleUploaded sampleUploadPassage samplePolicy ∧
      ¬Exceeds samplePolicy [(0xFF : UInt8)].length ∧
      (processRequest sampleNode.env 1000000 (arguments sampleUpload [0xFF]) sampleUploaded).1 = 413 := by
  refine ⟨sample_reaches (by decide +kernel),?_,by decide +kernel⟩
  rintro ⟨limit,hlimit,hover⟩
  cases hlimit
  exact absurd hover (by decide)

end Routiq.Edge.BodyEnforcement
