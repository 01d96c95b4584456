import Routiq.Core.Runs
import Routiq.Edge.Revocation

/-! Completeness of the revocation delta sync. Publishers add full revocation
keys to the index with the expiry as score; the worker asks only for scores
from its watermark on. The watermark is the largest expiry it has seen, so an
entry that expires earlier than that, by more than the overlap, is never asked
for. The exact condition is stated on the feed before each cycle, and one on
insertions alone is shown to be enough. -/
namespace Routiq.Edge.DeltaSync
open Core Runs Redis Revocation

structure Feed where
  store : Store
  sync : SyncState
  nowMs : Nat

def Feed.index (feed : Feed) : SortedSet := feed.store.sortedSets revIndexKey

inductive FeedEvent where
  | insert (key : String) (expiry : Nat)
  | cycle (nowMs : Nat) (replies : CycleReplies)

section

variable (syncIntervalSecs : Nat)

section
variable (feed : Feed)

def cycleOutcome (nowMs : Nat) (replies : CycleReplies) : SyncResult × Store × SyncState :=
  syncOnce ⟨nowMs,syncIntervalSecs⟩ replies feed.store feed.sync

def feedStep : FeedEvent → Feed
  | .insert key expiry =>
      { feed with store := feed.store.updateSortedSet revIndexKey (·.add key expiry) }
  | .cycle nowMs replies =>
      let outcome := cycleOutcome syncIntervalSecs feed nowMs replies
      ⟨outcome.2.1,outcome.2.2,nowMs⟩

def Timely : FeedEvent → Prop
  | .insert _ _ => True
  | .cycle nowMs replies => feed.nowMs ≤ nowMs ∧ replies.scan = none

def CompleteAfter : FeedEvent → Prop
  | .insert _ _ => True
  | .cycle nowMs replies =>
      (cycleOutcome syncIntervalSecs feed nowMs replies).1 = .ok →
        ∀ key expiry, feed.index.score key = some expiry → ((nowMs / 1000 : Nat) : Int) < expiry →
          (cycleOutcome syncIntervalSecs feed nowMs replies).2.2.snapshot.revoked key = some expiry.toNat

def UnchangedOnFailure : FeedEvent → Prop
  | .insert _ _ => True
  | .cycle nowMs replies =>
      (cycleOutcome syncIntervalSecs feed nowMs replies).1 = .error →
        (cycleOutcome syncIntervalSecs feed nowMs replies).2.2 = feed.sync

/-- An index member the next cycle will have: the snapshot holds it already,
or its score is not below the watermark by more than the overlap. -/
def Covered (key : String) (expiry : Int) : Prop := feed.sync.snapshot.revoked key = some expiry.toNat ∨
    rangeStart feed.sync.lastRevScore skewOverlapSecs ≤ .score expiry

def CoveredBefore : FeedEvent → Prop
  | .insert _ _ => True
  | .cycle nowMs replies =>
      (cycleOutcome syncIntervalSecs feed nowMs replies).1 = .ok →
        ∀ key expiry, feed.index.score key = some expiry → ((nowMs / 1000 : Nat) : Int) < expiry →
          Covered feed key expiry

/-- An insertion whose expiry the watermark has not left behind. -/
def InsertedInWindow : FeedEvent → Prop
  | .insert _ expiry =>
      rangeStart feed.sync.lastRevScore skewOverlapSecs ≤ .score expiry
  | .cycle _ _ => True

def AllCovered : Prop :=
  ∀ key expiry, feed.index.score key = some expiry → ((feed.nowMs / 1000 : Nat) : Int) < expiry →
    Covered feed key expiry

end

variable {feed : Feed}

theorem nextRevoked_eq_iff {now : Nat} {key : String} {expiry : Int}
    (hscore : feed.index.score key = some expiry) (hfuture : (now : Int) < expiry) :
    nextRevoked now feed.store feed.sync key = some expiry.toNat ↔ Covered feed key expiry := by
  have hindex : (feed.store.sortedSets revIndexKey).score key = some expiry := hscore
  have hpositive : now < expiry.toNat := by omega
  unfold nextRevoked deltaScore Covered
  rw [hindex]
  by_cases hrange : rangeStart feed.sync.lastRevScore skewOverlapSecs ≤ .score expiry
  · simp [Option.filter,hrange]
  · simp only [Option.filter,hrange,decide_false,Bool.false_eq_true,↓reduceIte,or_false]
    cases hheld : feed.sync.snapshot.revoked key with
    | none => simp
    | some held =>
      by_cases hkept : now < held
      · simp [hkept]
      · have hdiffer : held ≠ expiry.toNat := by omega
        simp [hkept,hdiffer]

/-- One cycle is complete exactly when every unexpired index member was
covered before it. -/
theorem completeAfter_iff (feed : Feed) (event : FeedEvent) (htimely : Timely feed event) :
    CompleteAfter syncIntervalSecs feed event ↔ CoveredBefore syncIntervalSecs feed event := by
  cases event with
  | insert key expiry => exact Iff.rfl
  | cycle nowMs replies =>
    refine imp_congr_right fun hok => ?_
    have heffect := syncOnce_effect htimely.2 hok
    refine forall_congr' fun key => forall_congr' fun expiry => ?_
    refine imp_congr_right fun hscore => imp_congr_right fun hfuture => ?_
    change (syncOnce _ replies feed.store feed.sync).2.2.snapshot.revoked key = _ ↔ _
    rw [heffect.revoked key]
    exact nextRevoked_eq_iff hscore hfuture

theorem unchangedOnFailure (feed : Feed) (event : FeedEvent) :
    UnchangedOnFailure syncIntervalSecs feed event := by
  cases event with
  | insert key expiry => trivial
  | cycle nowMs replies =>
    intro hfailed
    have hsame := syncOnce_of_error hfailed
    unfold cycleOutcome
    rw [hsame]

theorem score_of_collected {clock : SyncClock} {store store' : Store} {state state' : SyncState}
    (heffect : CycleEffect clock store state store' state') {key : String} {expiry : Int}
    (hscore : (store'.sortedSets revIndexKey).score key = some expiry) :
    (store.sortedSets revIndexKey).score key = some expiry := by
  rcases heffect.revIndex with hsame | hcollected
  · rwa [hsame] at hscore
  · rw [hcollected,SortedSet.score_removeUpTo] at hscore
    exact (Option.filter_eq_some_iff.mp hscore).1

/-- The step lemma: insertions in the window and cycles keep every unexpired
member covered. A member leaves the window only by entering the snapshot. -/
theorem allCovered_step {event : FeedEvent} (htimely : Timely feed event)
    (hwindow : InsertedInWindow feed event) (hcovered : AllCovered feed) :
    AllCovered (feedStep syncIntervalSecs feed event) := by
  cases event with
  | insert key expiry =>
    intro other score hscore hfuture
    have hadded : (feedStep syncIntervalSecs feed (.insert key expiry)).index = feed.index.add key expiry :=
      Store.sortedSets_updateSortedSet_self feed.store revIndexKey (·.add key expiry)
    rw [hadded,SortedSet.score_add] at hscore
    split at hscore
    · cases hscore
      exact Or.inr hwindow
    · exact hcovered other score hscore hfuture
  | cycle nowMs replies =>
    intro key score hscore hfuture
    have hclock : ((feed.nowMs / 1000 : Nat) : Int) < score := by
      have hlater : feed.nowMs / 1000 ≤ nowMs / 1000 := Nat.div_le_div_right htimely.1
      change ((nowMs / 1000 : Nat) : Int) < score at hfuture
      omega
    cases hresult : (cycleOutcome syncIntervalSecs feed nowMs replies).1 with
    | error =>
      have hsame := syncOnce_of_error hresult
      have hstep : feedStep syncIntervalSecs feed (.cycle nowMs replies) =
          ⟨feed.store,feed.sync,nowMs⟩ := by
        simp only [feedStep,cycleOutcome,hsame]
      rw [hstep] at hscore ⊢
      exact hcovered key score hscore hclock
    | ok =>
      have heffect := syncOnce_effect htimely.2 hresult
      have hbefore := score_of_collected heffect hscore
      left
      change (syncOnce _ replies feed.store feed.sync).2.2.snapshot.revoked key = _
      rw [heffect.revoked key]
      exact (nextRevoked_eq_iff hbefore hfuture).mpr (hcovered key score hbefore hclock)

theorem coveredBefore_of_allCovered {event : FeedEvent} (htimely : Timely feed event)
    (hcovered : AllCovered feed) : CoveredBefore syncIntervalSecs feed event := by
  cases event with
  | insert key expiry => trivial
  | cycle nowMs replies =>
    intro _ key score hscore hfuture
    have hlater : feed.nowMs / 1000 ≤ nowMs / 1000 := Nat.div_le_div_right htimely.1
    exact hcovered key score hscore (by omega)

theorem along_covered {events : List FeedEvent}
    (htimely : Along (feedStep syncIntervalSecs) Timely feed events)
    (hwindow : Along (feedStep syncIntervalSecs) InsertedInWindow feed events) (hcovered : AllCovered feed) :
    Along (feedStep syncIntervalSecs) (CoveredBefore syncIntervalSecs) feed events := by
  induction events generalizing feed with
  | nil => trivial
  | cons event events ih =>
    exact ⟨coveredBefore_of_allCovered syncIntervalSecs htimely.1 hcovered,
      ih htimely.2 hwindow.2 (allCovered_step syncIntervalSecs htimely.1 hwindow.1 hcovered)⟩

/-- Over every run from a starting worker: failed cycles change nothing; the
successful cycles are all complete exactly when each finds every unexpired
member covered; and insertions that stay in the window are enough for that. -/
theorem deltaSync_complete_iff_covered (store : Store) (nowMs : Nat) (events : List FeedEvent)
    (htimely : Along (feedStep syncIntervalSecs) Timely ⟨store,.initial,nowMs⟩ events) :
    Along (feedStep syncIntervalSecs) (UnchangedOnFailure syncIntervalSecs)
        ⟨store,.initial,nowMs⟩ events ∧
      (Along (feedStep syncIntervalSecs) (CompleteAfter syncIntervalSecs)
          ⟨store,.initial,nowMs⟩ events ↔
        Along (feedStep syncIntervalSecs) (CoveredBefore syncIntervalSecs)
          ⟨store,.initial,nowMs⟩ events) ∧
      (Along (feedStep syncIntervalSecs) InsertedInWindow ⟨store,.initial,nowMs⟩ events →
        Along (feedStep syncIntervalSecs) (CompleteAfter syncIntervalSecs)
          ⟨store,.initial,nowMs⟩ events) := by
  have hiff := along_congr_of_guard (completeAfter_iff syncIntervalSecs) htimely
  refine ⟨?_,hiff,?_⟩
  · exact along_of_forall (unchangedOnFailure syncIntervalSecs) _ _
  · intro hwindow
    exact hiff.mpr (along_covered syncIntervalSecs htimely hwindow fun _ _ _ _ =>
      .inr (Bound.negInf_le _))

end

def allReplies : CycleReplies := ⟨true,true,true,fun _ => true,none,true⟩

/-- A long-lived token is revoked and synced, then one that expires earlier. -/
def earlierExpiryRun : List FeedEvent := [.insert "gateway:revoked:jti:long" 10000,.cycle 1000000 allReplies,
    .insert "gateway:revoked:jti:short" 5000,.cycle 1005000 allReplies]

theorem timely_earlierExpiryRun : Along (feedStep 5) Timely ⟨.empty,.initial,0⟩ earlierExpiryRun :=
  ⟨trivial,⟨by decide,rfl⟩,trivial,⟨by decide,rfl⟩,trivial⟩

theorem deltaSync_complete_iff_covered_earlierExpiry :
    Along (feedStep 5) Timely ⟨.empty,.initial,0⟩ earlierExpiryRun ∧
      Along (feedStep 5) (UnchangedOnFailure 5) ⟨.empty,.initial,0⟩ earlierExpiryRun :=
  ⟨timely_earlierExpiryRun,
    (deltaSync_complete_iff_covered 5 .empty 0 earlierExpiryRun timely_earlierExpiryRun).1⟩

/-- Both cycles succeed, and the second misses the unexpired shorter entry. -/
theorem deltaSync_misses_earlierExpiry : Along (feedStep 5) Timely ⟨.empty,.initial,0⟩ earlierExpiryRun ∧
      ¬Along (feedStep 5) (CompleteAfter 5) ⟨.empty,.initial,0⟩ earlierExpiryRun ∧
      (run (feedStep 5) ⟨.empty,.initial,0⟩ earlierExpiryRun).sync.snapshot.revoked
        "gateway:revoked:jti:short" = none := by
  refine ⟨timely_earlierExpiryRun,?_,by decide⟩
  intro hcomplete
  have hshort := hcomplete.2.2.2.1 rfl "gateway:revoked:jti:short" 5000 (by decide) (by decide)
  exact absurd hshort (by decide)

end Routiq.Edge.DeltaSync
