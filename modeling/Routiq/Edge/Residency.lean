import Routiq.Edge.Assembly

/-! Data residency: the region that a request is given is the one whose pool it
is sent to. An identity whose home is the wildcard is given the wildcard as its
region, so it is served from a pool of that name and from no other. -/
namespace Routiq.Edge.Residency
open Core.CString Auth Pipeline Gates Assembly Selector

def Compatible (home current : String) : Prop := home = current ∨ current = "GLOBAL" ∨ home = "GLOBAL"

theorem resolveRegion_some {home current region : String}
    (hresolved : resolveRegion (some home) current = .ok region) :
    region = home ∧ Compatible home current := by
  unfold resolveRegion requiredRegion at hresolved
  dsimp only at hresolved
  split at hresolved
  next hcompatible =>
    cases hresolved
    exact ⟨rfl,hcompatible⟩
  · cases hresolved

section

variable (node : Node) (nowMs : Nat) (args : RequestArgs) (gateway : Gateway NodeMemory)

structure Screened (passage : Passage NodeMemory) (identity : UserIdentity) : Prop where
  passes : Passes node.env nowMs args gateway passage
  identified : identityOf node.env nowMs gateway passage = some identity
  cleared : Cleared node.env nowMs args gateway passage
  rated : (rated node.env nowMs gateway passage).1 = true
  counted : (counted node.env nowMs gateway passage).1 = true

/-- An admitted request of an identity goes to the pool of its home, which the
node may serve. -/
def Housed : Prop := ∀ passage identity home, Passes node.env nowMs args gateway passage →
    identityOf node.env nowMs gateway passage = some identity → identity.homeRegion = some home →
    (processRequest node.env nowMs args gateway).1 = 200 →
    (∃ upstream ∈ poolOf passage.service home, (processRequest node.env nowMs args gateway).2.out.upstream =
        store (utf8 upstream.address) gateway.out.upstream) ∧
      Compatible home node.env.currentRegion

def Welcome : Prop := ∀ passage identity, Screened node nowMs args gateway passage identity →
    identity.homeRegion = some "GLOBAL" →
    Serves node nowMs gateway passage.service node.env.currentRegion →
    (processRequest node.env nowMs args gateway).1 = 200

variable {node nowMs args gateway} {passage : Passage NodeMemory} {identity : UserIdentity}

theorem region_of_home {home : String}
    (hpasses : Passes node.env nowMs args gateway passage)
    (hidentity : identityOf node.env nowMs gateway passage = some identity)
    (hhome : identity.homeRegion = some home) :
    passage.region = home ∧ Compatible home node.env.currentRegion := by
  have hresident := hpasses.resident
  rw [hidentity,Option.bind_some,hhome] at hresident
  exact resolveRegion_some hresident

theorem housed : Housed node nowMs args gateway := by
  intro passage identity home hpasses hidentity hhome hadmitted
  obtain ⟨hregion,hcompatible⟩ := region_of_home hpasses hidentity hhome
  obtain ⟨address,hall⟩ := exists_upstream_of_admitted node.env nowMs args hpasses hadmitted
  obtain ⟨upstream,hupstream,haddress,-⟩ := (selected_answers hpasses).found address hall.selected
  rw [hregion] at hupstream
  refine ⟨⟨upstream,hupstream,?_⟩,hcompatible⟩
  rw [haddress]
  exact hall.upstream

/-- A screened request of an identity is admitted exactly when the pool of its
home has a usable member. -/
theorem admitted_iff_serves {home : String}
    (hscreened : Screened node nowMs args gateway passage identity)
    (hhome : identity.homeRegion = some home) : (processRequest node.env nowMs args gateway).1 = 200 ↔
      Serves node nowMs gateway passage.service home := by
  have hregion := (region_of_home hscreened.passes hscreened.identified hhome).1
  rw [processRequest_admitted_iff node.env nowMs args hscreened.passes,
    selected_isSome_iff hscreened.passes,hregion]
  constructor
  · exact fun hall => hall.2.2.2
  · exact fun hserves => ⟨hscreened.cleared,hscreened.rated,hscreened.counted,hserves⟩

/-- Residency always holds; the welcome holds exactly when the wildcard's own
pool can serve wherever the node's pool can. -/
theorem residency_iff (node : Node) (nowMs : Nat) (args : RequestArgs) (gateway : Gateway NodeMemory) :
    (Housed node nowMs args gateway ∧ Welcome node nowMs args gateway) ↔
      ∀ passage identity, Screened node nowMs args gateway passage identity →
        identity.homeRegion = some "GLOBAL" →
        Serves node nowMs gateway passage.service node.env.currentRegion →
        Serves node nowMs gateway passage.service "GLOBAL" := by
  constructor
  · rintro ⟨-,hwelcome⟩ passage identity hscreened hhome hown
    exact (admitted_iff_serves hscreened hhome).mp (hwelcome passage identity hscreened hhome hown)
  · intro hwildcard
    refine ⟨housed,fun passage identity hscreened hhome hown => ?_⟩
    exact (admitted_iff_serves hscreened hhome).mpr (hwildcard passage identity hscreened hhome hown)

end

/-- On a node with the only pool of the service, an identity at home everywhere
passes every gate and finds no upstream. -/
theorem wildcard_identity_is_unserved : Screened sampleNode 1000000 (sampleArgs "Bearer t")
        (sampleKnowing ⟨"alice",some "GLOBAL"⟩ (sampleService ["US"]) [])
        (samplePassage (sampleService ["US"]) "GLOBAL" []) ⟨"alice",some "GLOBAL"⟩ ∧
      Serves sampleNode 1000000 (sampleKnowing ⟨"alice",some "GLOBAL"⟩ (sampleService ["US"]) [])
        (sampleService ["US"]) sampleNode.env.currentRegion ∧
      (processRequest sampleNode.env 1000000 (sampleArgs "Bearer t")
        (sampleKnowing ⟨"alice",some "GLOBAL"⟩ (sampleService ["US"]) [])).1 = 503 := by
  refine ⟨⟨sample_passes _ [] (by decide),sample_validation _ _ [],⟨?_,rfl,rfl⟩,?_,?_⟩,?_,?_⟩
  · decide +kernel
  · decide +kernel
  · decide +kernel
  · exact ⟨⟨"a","a:80",1,""⟩,by decide +kernel,by decide +kernel⟩
  · decide +kernel

end Routiq.Edge.Residency
