import Routiq.Edge.Assembly

/-! What an answer of `process_request` stands for. A request that is admitted
has passed every gate, and its upstream is a usable member of the pool; one that
is rejected has changed nothing behind the gate that rejected it. -/
namespace Routiq.Edge.GateSoundness
open Core.CString Config Selector Pipeline Gates Assembly

section

variable (node : Node) (nowMs : Nat) (args : RequestArgs) (gateway : Gateway NodeMemory)

structure Vetted (passage : Passage NodeMemory) : Prop where
  identified : passage.service.requireAuth = true ∨ Sentinel.l3Guarded ≤ gateway.worker.memory.posture.level →
    ∃ identity, identityOf node.env nowMs gateway passage = some identity
  accepted : bodyViolation node.env args passage.resolved = none
  rated : (rated node.env nowMs gateway passage).1 = true
  counted : (counted node.env nowMs gateway passage).1 = true

def UsableMember (passage : Passage NodeMemory) (address : List UInt8) : Prop :=
  ∃ upstream ∈ poolOf passage.service passage.region,
    usable node.fxHash (nowMs / 1000) (liveness gateway) upstream.address = true ∧
      utf8 upstream.address = address

/-- The user's bucket, the quota and the breaker slots are as they were unless
the gates before them let the request through. -/
structure Untouched (final : Gateway NodeMemory) : Prop where
  rate : (∀ passage, Passes node.env nowMs args gateway passage →
      ¬Cleared node.env nowMs args gateway passage) →
    final.worker.memory.rate = gateway.worker.memory.rate
  quota : (∀ passage, Passes node.env nowMs args gateway passage →
      Cleared node.env nowMs args gateway passage →
      (rated node.env nowMs gateway passage).1 = false) →
    final.worker.memory.quota = gateway.worker.memory.quota
  breakers : (∀ passage, Passes node.env nowMs args gateway passage →
      Cleared node.env nowMs args gateway passage →
      (rated node.env nowMs gateway passage).1 = true →
      (counted node.env nowMs gateway passage).1 = false) →
    final.shm = gateway.shm

/-- The contract of one call. `ffi.string` reads the upstream up to the first NUL. -/
structure Sound : Prop where
  passed : (processRequest node.env nowMs args gateway).1 = 200 →
    ∃ passage, Passes node.env nowMs args gateway passage
  vetted : (processRequest node.env nowMs args gateway).1 = 200 →
    ∀ passage, Passes node.env nowMs args gateway passage → Vetted node nowMs args gateway passage
  written : (processRequest node.env nowMs args gateway).1 = 200 →
    ∀ passage, Passes node.env nowMs args gateway passage → UsableMember node nowMs gateway passage
        (load (processRequest node.env nowMs args gateway).2.out.upstream)
  untouched : (processRequest node.env nowMs args gateway).1 ≠ 200 →
    Untouched node nowMs args gateway (processRequest node.env nowMs args gateway).2

/-- The address that is selected fits the buffer of 256 bytes and holds no NUL,
or what is left of it is the address of a usable member too. -/
def Carried : Prop := ∀ passage address, Passes node.env nowMs args gateway passage →
    Cleared node.env nowMs args gateway passage → (rated node.env nowMs gateway passage).1 = true →
    (counted node.env nowMs gateway passage).1 = true →
    (selected node.env nowMs args gateway passage).1 = some address →
    (utf8 address).length < 256 ∧ 0 ∉ utf8 address ∨
      UsableMember node nowMs gateway passage (((utf8 address).take 255).takeWhile (· ≠ 0))

variable {node nowMs args gateway} {passage : Passage NodeMemory}

section
variable (hpasses : Passes node.env nowMs args gateway passage)
  (hadmitted : (processRequest node.env nowMs args gateway).1 = 200)
include hpasses hadmitted

theorem vetted_of_admitted : Vetted node nowMs args gateway passage := by
  obtain ⟨upstream,hall⟩ := exists_upstream_of_admitted node.env nowMs args hpasses hadmitted
  refine ⟨fun hneeded => ?_,hall.cleared.sound,hall.rated,hall.counted⟩
  have hposture : gateway.worker.memory.posture = passage.inspected.posture := by
    rw [inspected_eq hpasses]
  have hkept : (Sentinel.shedAnonymous passage.inspected.posture.level &&
      (identityOf node.env nowMs gateway passage).isNone) = false := hall.cleared.kept
  have hknown := hall.cleared.known
  rw [← hposture,Sentinel.shedAnonymous] at hkept
  cases hidentity : identityOf node.env nowMs gateway passage with
  | some identity => exact ⟨identity,rfl⟩
  | none =>
    rw [hidentity,Option.isNone_none,Bool.and_true] at hkept hknown
    rcases hneeded with hauth | hguarded
    · rw [hknown] at hauth
      contradiction
    · exact absurd hguarded (of_decide_eq_false hkept)

theorem load_upstream {address : String}
    (hselected : (selected node.env nowMs args gateway passage).1 = some address) :
    load (processRequest node.env nowMs args gateway).2.out.upstream =
      ((utf8 address).take 255).takeWhile (· ≠ 0) := by
  obtain ⟨upstream,hall⟩ := exists_upstream_of_admitted node.env nowMs args hpasses hadmitted
  obtain rfl : upstream = address := Option.some.inj (hall.selected.symm.trans hselected)
  rw [hall.upstream,load_store_eq (by decide)]

end

theorem usableMember_of_carried (hcarried : Carried node nowMs args gateway)
    (hpasses : Passes node.env nowMs args gateway passage)
    (hadmitted : (processRequest node.env nowMs args gateway).1 = 200) :
    UsableMember node nowMs gateway passage
      (load (processRequest node.env nowMs args gateway).2.out.upstream) := by
  obtain ⟨address,hall⟩ := exists_upstream_of_admitted node.env nowMs args hpasses hadmitted
  rcases hcarried passage address hpasses hall.cleared hall.rated hall.counted hall.selected with
    ⟨hfits,hnul⟩ | hcut
  · obtain ⟨upstream,hupstream,rfl,husable⟩ := (selected_answers hpasses).found address hall.selected
    refine ⟨upstream,hupstream,husable,?_⟩
    rw [hall.upstream,load_store _ _ hfits hnul]
  · rw [load_upstream hpasses hadmitted hall.selected]
    exact hcut

theorem untouched_of_passes (hpasses : Passes node.env nowMs args gateway passage)
    (hrejected : (processRequest node.env nowMs args gateway).1 ≠ 200) :
    Untouched node nowMs args gateway (processRequest node.env nowMs args gateway).2 := by
  obtain ⟨hended,hshm⟩ := processRequest_ended node.env nowMs args hpasses
  have hrate : passage.inspected.rate = gateway.worker.memory.rate := by rw [inspected_eq hpasses]
  have hquota : passage.inspected.quota = gateway.worker.memory.quota := by rw [inspected_eq hpasses]
  have hratedQuota : (rated node.env nowMs gateway passage).2.quota =
      gateway.worker.memory.quota := by rw [rated_eq,hquota]
  generalize processRequest node.env nowMs args gateway = outcome at hended hshm hrejected
  have hbreakers : (∀ passage, Passes node.env nowMs args gateway passage →
      Cleared node.env nowMs args gateway passage →
      (rated node.env nowMs gateway passage).1 = true →
      (counted node.env nowMs gateway passage).1 = false) → outcome.2.shm = gateway.shm := by
    intro hrejecting
    rcases hshm with hsame | ⟨hcleared,hrated,hcounted⟩
    · exact hsame
    · rw [hrejecting passage hpasses hcleared hrated] at hcounted
      contradiction
  cases hended with
  | shed after _ hmemory | malformed _ after _ hmemory | unauthenticated after _ _ hmemory =>
    exact ⟨fun _ => hmemory ▸ hrate,fun _ => hmemory ▸ hquota,hbreakers⟩
  | limited after hcleared _ hmemory =>
    exact ⟨fun hblocked => absurd hcleared (hblocked passage hpasses),
      fun _ => hmemory ▸ hratedQuota,hbreakers⟩
  | overQuota after hcleared hrated | unserved after hcleared hrated =>
    refine ⟨fun hblocked => absurd hcleared (hblocked passage hpasses),fun hlimited => ?_,hbreakers⟩
    rw [hlimited passage hpasses hcleared] at hrated
    contradiction
  | admitted => exact absurd rfl hrejected

theorem untouched_of_rejected (hrejected : (processRequest node.env nowMs args gateway).1 ≠ 200) :
    Untouched node nowMs args gateway (processRequest node.env nowMs args gateway).2 := by
  rcases passes_or_turnedAway node.env nowMs args gateway with ⟨passage,hpasses⟩ | ⟨haway,hshm⟩
  · exact untouched_of_passes hpasses hrejected
  · generalize processRequest node.env nowMs args gateway = outcome at haway hshm
    cases haway with
    | early status after _ hmemory =>
      exact ⟨fun _ => congrArg NodeMemory.rate hmemory,fun _ => congrArg NodeMemory.quota hmemory,
        fun _ => hshm⟩
    | inspected authHeader path status after _ hmemory =>
      refine ⟨fun _ => ?_,fun _ => ?_,fun _ => hshm⟩
      · rw [hmemory]
        rfl
      · rw [hmemory]
        rfl

end

theorem gates_sound_iff (node : Node) (nowMs : Nat) (args : RequestArgs) (gateway : Gateway NodeMemory) :
    Sound node nowMs args gateway ↔ Carried node nowMs args gateway := by
  constructor
  · intro hsound passage address hpasses hcleared hrated hcounted hselected
    have hadmitted : (processRequest node.env nowMs args gateway).1 = 200 := by
      refine (processRequest_admitted_iff node.env nowMs args hpasses).mpr
        ⟨hcleared,hrated,hcounted,?_⟩
      rw [hselected]
      rfl
    have hwritten := hsound.written hadmitted passage hpasses
    rw [load_upstream hpasses hadmitted hselected] at hwritten
    exact Or.inr hwritten
  · intro hcarried
    exact ⟨exists_passage_of_admitted node.env nowMs args,
      fun hadmitted passage hpasses => vetted_of_admitted hpasses hadmitted,
      fun hadmitted passage hpasses => usableMember_of_carried hcarried hpasses hadmitted,
      untouched_of_rejected⟩

def longAddress : String := String.ofList (List.replicate 256 'a')

def longAddressed : ServiceConfig where
  name := "api"
  rateLimitMax := 10
  regionalUpstreams := fun _ => some [⟨"a",longAddress,1,""⟩]
  requireAuth := false
  canary := none
  quota := none

def longAddressedGateway : Gateway NodeMemory := sampleKnowing ⟨"alice",some "US"⟩ longAddressed []

/-- The only upstream has an address of 256 bytes, of which 255 are written out. -/
theorem long_address_is_cut :
    (processRequest sampleNode.env 1000000 (sampleArgs "Bearer t") longAddressedGateway).1 = 200 ∧
      load (processRequest sampleNode.env 1000000 (sampleArgs "Bearer t")
        longAddressedGateway).2.out.upstream = List.replicate 255 97 ∧
      ¬Sound sampleNode 1000000 (sampleArgs "Bearer t") longAddressedGateway := by
  have hpasses : Passes sampleNode.env 1000000 (sampleArgs "Bearer t") longAddressedGateway
      (samplePassage longAddressed "US" []) := sample_passes longAddressed [] rfl
  have hadmitted : (processRequest sampleNode.env 1000000 (sampleArgs "Bearer t")
      longAddressedGateway).1 = 200 := by decide +kernel
  have hselected : (selected sampleNode.env 1000000 (sampleArgs "Bearer t") longAddressedGateway
      (samplePassage longAddressed "US" [])).1 = some longAddress := by decide +kernel
  have hcut : ((utf8 longAddress).take 255).takeWhile (· ≠ 0) = List.replicate 255 97 := by
    decide +kernel
  have hread := (load_upstream hpasses hadmitted hselected).trans hcut
  refine ⟨hadmitted,hread,fun hsound => ?_⟩
  obtain ⟨upstream,hupstream,_,haddress⟩ := hsound.written hadmitted _ hpasses
  have hlength : (utf8 longAddress).length = 256 := by decide +kernel
  obtain rfl := List.mem_singleton.mp hupstream
  rw [haddress,hread,List.length_replicate] at hlength
  omega

end Routiq.Edge.GateSoundness
