import Routiq.Core.Runs
import Routiq.Fleet.Publishers

/-! Whether what the services publish reaches an edge worker. The publishers
write plain keys, while the worker's delta sync learns of changes only from
the two sorted-set indexes, which no publisher writes. So a revocation or a
floor reaches the worker exactly when the indexes or the worker's snapshot
already carried it. -/
namespace Routiq.Fleet.EdgeReach
open Core Runs Redis Edge.Revocation Edge.Auth Option Nat Publishers

/-- The shared Redis and one worker; `synced` records a successful cycle. -/
structure Shared where
  store : Store
  sync : SyncState
  nowMs : Nat
  synced : Bool

inductive SharedEvent where
  | revoke (call : RevokeCall)
  | publish (fates : CacheFates) (userId : String) (version : SafeNat)
  | sync (replies : CycleReplies)
  /-- The index collection of another worker's cycle. -/
  | collect | wait

variable {timed : Nat × SharedEvent} {store : Store} {nowMs : Nat}

section

variable (codecs : Codecs) (syncIntervalSecs : Nat)

section
variable (shared : Shared) (timed : Nat × SharedEvent)

def sharedStep : Shared :=
  match timed with
  | (nowMs,.revoke call) =>
      { shared with store := (postRevoke codecs nowMs call shared.store).2, nowMs := nowMs }
  | (nowMs,.publish fates userId version) =>
      let published := publishTokenVersion nowMs fates userId version shared.store
      { shared with store := published.2, nowMs := nowMs }
  | (nowMs,.sync replies) =>
      let outcome := syncOnce ⟨nowMs,syncIntervalSecs⟩ replies shared.store shared.sync
      ⟨outcome.2.1,outcome.2.2,nowMs,shared.synced || outcome.1 = .ok⟩
  | (nowMs,.collect) =>
      { shared with store := collectIndex true (nowMs / 1000) shared.store, nowMs := nowMs }
  | (nowMs,.wait) => { shared with nowMs := nowMs }

def Timely : Prop :=
  shared.nowMs ≤ timed.1 ∧
    match timed.2 with
    | .sync replies => replies.scan = none
    | _ => True

end

/-- Everything the worker knows or will read about revocations changes only by
its own cycles and by collections. -/
inductive IndexStep (shared : Shared) (nowMs : Nat) (next : Shared) : Prop where
  | quiet (hrev : next.store.sortedSets revIndexKey = shared.store.sortedSets revIndexKey)
      (htv : next.store.sortedSets tvIndexKey = shared.store.sortedSets tvIndexKey)
      (hsync : next.sync = shared.sync) (hsynced : next.synced = shared.synced)
  | collected (hrev : next.store.sortedSets revIndexKey =
        (shared.store.sortedSets revIndexKey).removeUpTo ((nowMs / 1000 - 3600 : Nat) : Int))
      (htv : next.store.sortedSets tvIndexKey = shared.store.sortedSets tvIndexKey)
      (hsync : next.sync = shared.sync) (hsynced : next.synced = shared.synced)
  | cycled (heffect : CycleEffect ⟨nowMs,syncIntervalSecs⟩ shared.store shared.sync next.store next.sync)

theorem indexStep_sharedStep {shared : Shared} (htimely : Timely shared timed) :
    IndexStep syncIntervalSecs shared timed.1 (sharedStep codecs syncIntervalSecs shared timed) := by
  obtain ⟨nowMs,event⟩ := timed
  cases event with
  | revoke call =>
    have hsets := (onlyStrings_postRevoke codecs nowMs call shared.store).sortedSets
    exact .quiet (congrFun hsets revIndexKey) (congrFun hsets tvIndexKey) rfl rfl
  | publish fates userId version =>
    have hsets := (onlyStrings_publishTokenVersion nowMs fates userId version shared.store).sortedSets
    exact .quiet (congrFun hsets revIndexKey) (congrFun hsets tvIndexKey) rfl rfl
  | sync replies =>
    cases hresult : (syncOnce ⟨nowMs,syncIntervalSecs⟩ replies shared.store shared.sync).1 with
    | ok => exact .cycled (syncOnce_effect htimely.2 hresult)
    | error =>
      have hsame := syncOnce_of_error hresult
      refine .quiet ?_ ?_ ?_ ?_ <;> simp [sharedStep,hsame]
  | collect =>
    refine .collected ?_ ?_ rfl rfl
    · exact Store.sortedSets_updateSortedSet_self shared.store revIndexKey
        (·.removeUpTo ((nowMs / 1000 - 3600 : Nat) : Int))
    · exact Store.sortedSets_updateSortedSet_of_ne shared.store
        (·.removeUpTo ((nowMs / 1000 - 3600 : Nat) : Int)) tvIndexKey_ne_revIndexKey
  | wait => exact .quiet rfl rfl rfl rfl

variable (shared : Shared)

theorem nowMs_sharedStep (timed : Nat × SharedEvent) :
    (sharedStep codecs syncIntervalSecs shared timed).nowMs = timed.1 := by
  obtain ⟨nowMs,event⟩ := timed
  cases event <;> rfl

/-! ## Revocations -/

/-- The expiry the worker has or will take for a key: the score the index
shows it, or else what its snapshot holds. -/
def heldUntil (shared : Shared) (key : String) : Option Nat :=
  match deltaScore (shared.store.sortedSets revIndexKey)
      (rangeStart shared.sync.lastRevScore skewOverlapSecs) key with
  | some score => some score.toNat
  | none => shared.sync.snapshot.revoked key

def HeldPast (deadlineMs : Nat) (expiry : Option Nat) : Prop :=
  ∃ seconds, expiry = some seconds ∧ deadlineMs ≤ seconds * 1000

/-- What a revocation is for: from the first successful cycle on, and until
the deadline, the worker rejects it. -/
def RejectedUntil (shared : Shared) (deadlineMs : Nat) (jti : Option String) (tokenHash : String) : Prop :=
  ∀ events, Along (sharedStep codecs syncIntervalSecs) Timely shared events →
    (run (sharedStep codecs syncIntervalSecs) shared events).synced = true →
    (run (sharedStep codecs syncIntervalSecs) shared events).nowMs < deadlineMs →
      isRevoked (run (sharedStep codecs syncIntervalSecs) shared events).sync.snapshot
        ((run (sharedStep codecs syncIntervalSecs) shared events).nowMs / 1000) jti tokenHash = true

variable {lower : Bound} {key : String} {set : SortedSet} {higher : Bound} {score : Int}

theorem deltaScore_of_higher (hle : lower ≤ higher)
    (hscore : deltaScore set higher key = some score) : deltaScore set lower key = some score := by
  obtain ⟨hmember,hin⟩ := filter_eq_some_iff.mp hscore
  refine filter_eq_some_iff.mpr ⟨hmember,?_⟩
  simp only [decide_eq_true_eq] at hin ⊢
  exact le_trans hle hin

variable {upper : Int}

theorem deltaScore_of_removeUpTo (hscore : deltaScore (set.removeUpTo upper) lower key = some score) :
    deltaScore set lower key = some score := by
  unfold deltaScore at hscore ⊢
  rw [SortedSet.score_removeUpTo] at hscore
  obtain ⟨hmember,hin⟩ := filter_eq_some_iff.mp hscore
  exact filter_eq_some_iff.mpr ⟨(filter_eq_some_iff.mp hmember).1,hin⟩

theorem deltaScore_removeUpTo_of_lt (hscore : deltaScore set lower key = some score) (hkept : upper < score) :
    deltaScore (set.removeUpTo upper) lower key = some score := by
  unfold deltaScore at hscore ⊢
  obtain ⟨hmember,hin⟩ := filter_eq_some_iff.mp hscore
  rw [SortedSet.score_removeUpTo,hmember]
  refine filter_eq_some_iff.mpr ⟨?_,hin⟩
  exact filter_eq_some_iff.mpr ⟨rfl,by simpa using hkept⟩

variable {now expiry : Nat}

theorem nextRevoked_of_held {shared : Shared} (hheld : heldUntil shared key = some expiry)
    (hbefore : now < expiry) : nextRevoked now shared.store shared.sync key = some expiry := by
  unfold heldUntil at hheld
  unfold nextRevoked
  cases hscore : deltaScore (shared.store.sortedSets revIndexKey)
      (rangeStart shared.sync.lastRevScore skewOverlapSecs) key with
  | some score =>
    rw [hscore] at hheld
    exact hheld
  | none =>
    simp only [hscore] at hheld
    simp [hheld,Option.filter,hbefore]

/-- Until it expires, what the worker holds or will take for a key is stable
under everything that can happen. -/
theorem heldUntil_step {shared next : Shared}
    (hstep : IndexStep syncIntervalSecs shared nowMs next)
    (hheld : heldUntil shared key = some expiry) (hbefore : nowMs / 1000 < expiry) :
    heldUntil next key = some expiry := by
  cases hstep with
  | quiet hrev htv hsync hsynced =>
    unfold heldUntil at hheld ⊢
    rwa [hrev,hsync]
  | collected hrev htv hsync hsynced =>
    unfold heldUntil at hheld ⊢
    rw [hrev,hsync]
    split at hheld
    next score hscore =>
      cases hheld
      rw [deltaScore_removeUpTo_of_lt hscore (by omega)]
    next hscore =>
      have hgone : deltaScore ((shared.store.sortedSets revIndexKey).removeUpTo
          ((nowMs / 1000 - 3600 : Nat) : Int))
          (rangeStart shared.sync.lastRevScore skewOverlapSecs) key = none := by
        rw [eq_none_iff_forall_ne_some] at hscore ⊢
        intro score hfound
        exact hscore score (deltaScore_of_removeUpTo hfound)
      rw [hgone]
      exact hheld
  | cycled heffect =>
    have htaken := nextRevoked_of_held hheld hbefore
    unfold heldUntil
    split
    next score hscore =>
      have hlower := deltaScore_of_higher (Bound.lowered_mono heffect.revScore skewOverlapSecs) hscore
      have hshown : deltaScore (shared.store.sortedSets revIndexKey)
          (rangeStart shared.sync.lastRevScore skewOverlapSecs) key = some score := by
        rcases heffect.revIndex with hsame | hcollected
        · rwa [hsame] at hlower
        · rw [hcollected] at hlower
          exact deltaScore_of_removeUpTo hlower
      unfold heldUntil at hheld
      rwa [hshown] at hheld
    · rw [heffect.revoked key]
      exact htaken

/-- The run invariant for one key: the deadline has passed, or the key stays
held past it, and a synced worker has it in its snapshot. -/
def HeldInv (deadlineMs : Nat) (key : String) (shared : Shared) : Prop :=
  deadlineMs ≤ shared.nowMs ∨
    HeldPast deadlineMs (heldUntil shared key) ∧
      (shared.synced = true → HeldPast deadlineMs (shared.sync.snapshot.revoked key))

variable {deadlineMs : Nat}

theorem heldInv_step (timed : Nat × SharedEvent) (htimely : Timely shared timed)
    (hinv : HeldInv deadlineMs key shared) :
    HeldInv deadlineMs key (sharedStep codecs syncIntervalSecs shared timed) := by
  have hstep := indexStep_sharedStep codecs syncIntervalSecs htimely
  by_cases hpassed : deadlineMs ≤ timed.1
  · left
    rwa [nowMs_sharedStep]
  · right
    have hnow := htimely.1
    rcases hinv with hearlier | ⟨⟨expiry,hheld,hcovers⟩,hsnapshot⟩
    · omega
    have hbefore : timed.1 / 1000 < expiry := by omega
    refine ⟨⟨expiry,heldUntil_step syncIntervalSecs hstep hheld hbefore,hcovers⟩,?_⟩
    intro hsynced
    cases hstep with
    | quiet hrev htv hsync hsame =>
      rw [hsync]
      exact hsnapshot (hsame ▸ hsynced)
    | collected hrev htv hsync hsame =>
      rw [hsync]
      exact hsnapshot (hsame ▸ hsynced)
    | cycled heffect =>
      rw [heffect.revoked key]
      exact ⟨expiry,nextRevoked_of_held hheld hbefore,hcovers⟩

def answered : CycleReplies := ⟨true,true,true,fun _ => true,none,false⟩

theorem fetchFloors_answered (store : Store) (nowMs index : Nat) (chunks : List (List String))
    (fetched : Fetched) :
    ∃ result, fetchFloors store nowMs answered.mget index chunks fetched = some result := by
  induction chunks generalizing index fetched with
  | nil => exact ⟨fetched,rfl⟩
  | cons chunk chunks ih => exact ih (index + 1) (fetchChunk store nowMs chunk fetched)

theorem syncOnce_answered (clock : SyncClock) (store : Store) (state : SyncState) :
    (syncOnce clock answered store state).1 = .ok := by
  obtain ⟨fetched,hfetched⟩ := fetchFloors_answered store clock.nowMs 0
    (chunks mgetChunk ((tvDelta store state).map Prod.fst)) (fun _ => none)
  unfold syncOnce
  simp [answered] at hfetched ⊢
  rw [hfetched]

theorem synced_answered :
    (sharedStep codecs syncIntervalSecs shared (shared.nowMs,.sync answered)).synced = true := by
  simp [sharedStep,syncOnce_answered]

theorem cycled_answered :
    CycleEffect ⟨shared.nowMs,syncIntervalSecs⟩ shared.store shared.sync
      (sharedStep codecs syncIntervalSecs shared (shared.nowMs,.sync answered)).store
      (sharedStep codecs syncIntervalSecs shared (shared.nowMs,.sync answered)).sync :=
  syncOnce_effect rfl (syncOnce_answered _ _ _)

theorem held_of_nextRevoked {shared : Shared}
    (hnext : nextRevoked now shared.store shared.sync key = some expiry) :
    heldUntil shared key = some expiry := by
  unfold nextRevoked at hnext
  unfold heldUntil
  cases hscore : deltaScore (shared.store.sortedSets revIndexKey)
      (rangeStart shared.sync.lastRevScore skewOverlapSecs) key with
  | some score =>
    rw [hscore] at hnext
    exact hnext
  | none =>
    rw [hscore] at hnext
    exact (filter_eq_some_iff.mp hnext).1

theorem rejectedUntil_iff (hunsynced : shared.synced = false)
    (hlater : shared.nowMs < deadlineMs) (jti : Option String) (tokenHash : String) :
    RejectedUntil codecs syncIntervalSecs shared deadlineMs jti tokenHash ↔
      ∃ key ∈ revocationKeys jti tokenHash, HeldPast deadlineMs (heldUntil shared key) := by
  constructor
  · -- one cycle at once, then wait for the last millisecond
    intro hrejected
    have hafter := hrejected [(shared.nowMs,.sync answered),(deadlineMs - 1,.wait)]
      ⟨⟨le_refl _,rfl⟩,⟨le_sub_one_of_lt hlater,trivial⟩,trivial⟩
      (synced_answered codecs syncIntervalSecs shared) (sub_one_lt_of_lt hlater)
    obtain ⟨key,hkey,hlisted⟩ := (isRevoked_iff _ _ _ _).mp hafter
    obtain ⟨expiry,hexpiry,hfuture⟩ := (listed_iff _ _ _).mp hlisted
    have hnext := (cycled_answered codecs syncIntervalSecs shared).revoked key
    refine ⟨key,hkey,expiry,held_of_nextRevoked (hnext.symm.trans hexpiry),?_⟩
    change (deadlineMs - 1) / 1000 < expiry at hfuture
    omega
  · rintro ⟨key,hkey,hheld⟩ events htimely hsynced hbefore
    have hinv : HeldInv deadlineMs key shared :=
      Or.inr ⟨hheld,fun hsynced => absurd hsynced (by simp [hunsynced])⟩
    rcases invariant_run (fun shared => heldInv_step codecs syncIntervalSecs shared) htimely hinv with hpassed | hkept
    · omega
    · obtain ⟨expiry,hexpiry,hcovers⟩ := hkept.2 hsynced
      refine (isRevoked_iff _ _ _ _).mpr ⟨key,hkey,(listed_iff _ _ _).mpr ⟨expiry,hexpiry,?_⟩⟩
      omega

/-- The control plane answered that it revoked the token: one of its keys is
among those of the answer. -/
def Accepted (nowMs : Nat) (call : RevokeCall) (store : Store) (jti : Option String)
    (tokenHash : String) (ttlSecs : Nat) : Prop :=
  ∃ keys, (postRevoke codecs nowMs call store).1 = .ok keys ttlSecs ∧
    ∃ key ∈ revocationKeys jti tokenHash, key ∈ keys

/-- An accepted revocation is enforced by a worker until its deadline, in every
continuation, exactly when the worker's snapshot or the index it reads already
listed the token for that long. -/
theorem revocation_reaches_iff_alreadyHeld (store : Store) (sync : SyncState) (nowMs : Nat)
    (call : RevokeCall) (jti : Option String) (tokenHash : String) (ttlSecs : Nat)
    (haccepted : Accepted codecs nowMs call store jti tokenHash ttlSecs) :
    RejectedUntil codecs syncIntervalSecs ⟨(postRevoke codecs nowMs call store).2,sync,nowMs,false⟩
        (nowMs + ttlSecs * 1000) jti tokenHash ↔
      ∃ key ∈ revocationKeys jti tokenHash,
        HeldPast (nowMs + ttlSecs * 1000) (heldUntil ⟨store,sync,nowMs,false⟩ key) := by
  obtain ⟨keys,hok,-⟩ := haccepted
  have hpositive := postRevoke_ttl hok
  rw [rejectedUntil_iff codecs syncIntervalSecs _ rfl (by dsimp only; omega)]
  unfold heldUntil
  rw [(onlyStrings_postRevoke codecs nowMs call store).sortedSets]

end

def sampleRevoke : RevokeCall :=
  { withinRate := true, signatureValid := true
    body := .ok { jti := some "session-1", token := none }
    fates := ⟨.ok (),.ok (),fun _ => .replied⟩ }

theorem accepted_sampleRevoke :
    Accepted sampleCodecs 1000000 sampleRevoke .empty (some "session-1") "ab" 3600 := by
  refine ⟨["gateway:revoked:jti:session-1"],rfl,"gateway:revoked:jti:session-1",?_,?_⟩ <;> decide

theorem revocation_reaches_iff_sampleRevoke :
    RejectedUntil sampleCodecs 5
        ⟨(postRevoke sampleCodecs 1000000 sampleRevoke .empty).2,.initial,1000000,false⟩
        (1000000 + 3600 * 1000) (some "session-1") "ab" ↔
      ∃ key ∈ revocationKeys (some "session-1") "ab",
        HeldPast (1000000 + 3600 * 1000) (heldUntil ⟨.empty,.initial,1000000,false⟩ key) :=
  revocation_reaches_iff_alreadyHeld sampleCodecs 5 .empty .initial 1000000 sampleRevoke
    (some "session-1") "ab" 3600 accepted_sampleRevoke

/-- On an empty Redis the control plane answers that the session is revoked,
and a worker that syncs right after still accepts its tokens. -/
theorem revocation_missed_by_fresh_worker :
    Accepted sampleCodecs 1000000 sampleRevoke .empty (some "session-1") "ab" 3600 ∧
      ¬RejectedUntil sampleCodecs 5
        ⟨(postRevoke sampleCodecs 1000000 sampleRevoke .empty).2,.initial,1000000,false⟩
        (1000000 + 3600 * 1000) (some "session-1") "ab" := by
  refine ⟨accepted_sampleRevoke,?_⟩
  rw [rejectedUntil_iff sampleCodecs 5 _ rfl (by decide)]
  rintro ⟨key,-,expiry,hheld,-⟩
  have hnever : heldUntil
      ⟨(postRevoke sampleCodecs 1000000 sampleRevoke .empty).2,.initial,1000000,false⟩
      key = none := by
    unfold heldUntil
    rw [(onlyStrings_postRevoke sampleCodecs 1000000 sampleRevoke .empty).sortedSets]
    rfl
  rw [hnever] at hheld
  contradiction

/-! ## Token-version floors -/

section

variable (codecs : Codecs) (syncIntervalSecs : Nat)

def floorKey (userId : String) : String := tvKeyPrefix ++ userId

def OnlyVersion (userId : String) (version : SafeNat) : SharedEvent → Prop
  | .publish _ other published => other = userId → published = version
  | _ => True

/-- What a floor is for: from the first successful cycle on, every other
version is stale. -/
def FloorEnforced (shared : Shared) (userId : String) (version : SafeNat) : Prop :=
  ∀ events,
    Along (sharedStep codecs syncIntervalSecs)
      (fun shared timed => Timely shared timed ∧ OnlyVersion userId version timed.2) shared events →
    (run (sharedStep codecs syncIntervalSecs) shared events).synced = true →
      ∀ tokenTv, tokenTv ≠ some version.val →
        tvStatus (run (sharedStep codecs syncIntervalSecs) shared events).sync.snapshot userId
          tokenTv = .stale

theorem floorKey_not_revocationKey (userId : String) : ¬RevocationKey (floorKey userId) := by
  intro hkey
  unfold RevocationKey floorKey tvKeyPrefix jtiKey tokenKey at hkey
  rcases hkey with ⟨suffix,heq⟩ | ⟨suffix,heq⟩
  · have htake := congrArg (fun text => text.toList.take 9) heq
    simp at htake
  · have htake := congrArg (fun text => text.toList.take 9) heq
    simp at htake

variable {userId : String}

def FloorStored (userId : String) (version : SafeNat) (store : Store) : Prop :=
  store.strings (floorKey userId) = some ⟨version.val.repr,none⟩

variable {version : SafeNat}

theorem read_of_floorStored (hstored : FloorStored userId version store)
    (nowMs : Nat) : (store.get nowMs (floorKey userId)).bind parseU64 = some version.val := by
  have hsmall : version.val < 2^64 := lt_trans version.property (by decide)
  unfold Store.get
  rw [hstored]
  have hparsed : parseU64 version.val.repr = some version.val :=
    (parseU64_repr version.val).trans (if_pos hsmall)
  simp [StringEntry.live,Option.filter,hparsed]

theorem strings_publishTokenVersion (nowMs : Nat) (fates : CacheFates) (userId : String) (version : SafeNat)
    (store : Store) : (publishTokenVersion nowMs fates userId version store).2.strings (floorKey userId) =
        store.strings (floorKey userId) ∨
      FloorStored userId version (publishTokenVersion nowMs fates userId version store).2 := by
  have hset : FloorStored userId version (store.set (tvKeyPrefix ++ userId) version.val.repr) :=
    Function.update_self ..
  unfold publishTokenVersion
  split
  · exact Or.inl rfl
  · dsimp only
    unfold cacheSet
    split
    · exact Or.inr hset
    · split
      · exact Or.inr hset
      · exact Or.inl rfl

variable {fates : CacheFates}

theorem read_of_published (hok : (publishTokenVersion nowMs fates userId version store).1 = true) :
    (publishTokenVersion nowMs fates userId version store).2.get nowMs (floorKey userId) =
      some version.val.repr := by
  unfold publishTokenVersion at hok ⊢
  split at hok
  · contradiction
  next havailable =>
    rw [if_neg havailable]
    simp only [decide_eq_true_eq] at hok
    unfold cacheGet at hok
    split at hok
    · exact hok
    · contradiction

/-- A publication that reports success has stored its version, if the floor
carried no expiry before. -/
theorem floorStored_of_published
    (hpersistent : ∀ entry, store.strings (floorKey userId) = some entry → entry.expiresAtMs = none)
    (hok : (publishTokenVersion nowMs fates userId version store).1 = true) :
    FloorStored userId version (publishTokenVersion nowMs fates userId version store).2 := by
  rcases strings_publishTokenVersion nowMs fates userId version store with hsame | hstored
  · have hread := read_of_published hok
    obtain ⟨entry,hentry,hvalue⟩ := map_eq_some_iff.mp hread
    have hfound := (filter_eq_some_iff.mp hentry).1
    have hexpiry := hpersistent entry (hsame ▸ hfound)
    unfold FloorStored
    rw [hfound,← hvalue,← hexpiry]
  · exact hstored

theorem floorStored_step {shared : Shared} (htimely : Timely shared timed)
    (honly : OnlyVersion userId version timed.2) (hstored : FloorStored userId version shared.store) :
    FloorStored userId version (sharedStep codecs syncIntervalSecs shared timed).store := by
  obtain ⟨nowMs,event⟩ := timed
  cases event with
  | revoke call =>
    have hkept := (onlyStrings_postRevoke codecs nowMs call shared.store).strings _
      (floorKey_not_revocationKey userId)
    exact hkept.trans hstored
  | publish fates other published =>
    by_cases hother : other = userId
    · subst hother
      obtain rfl := honly rfl
      rcases strings_publishTokenVersion nowMs fates other published shared.store with hsame | hnew
      · exact hsame.trans hstored
      · exact hnew
    · have hkept := (onlyStrings_publishTokenVersion nowMs fates other published shared.store).strings
        (floorKey userId) (fun heq => hother ((String.append_right_inj tvKeyPrefix).mp heq).symm)
      exact hkept.trans hstored
  | sync replies =>
    cases hresult : (syncOnce ⟨nowMs,syncIntervalSecs⟩ replies shared.store shared.sync).1 with
    | ok => exact (congrFun (syncOnce_effect htimely.2 hresult).strings _).trans hstored
    | error =>
      have hsame := syncOnce_of_error hresult
      simp only [sharedStep,hsame]
      exact hstored
  | collect | wait => exact hstored

/-- The run invariant: the floor is stored, the worker has it or will read it,
and a synced worker has it. -/
structure FloorInv (userId : String) (version : SafeNat) (shared : Shared) : Prop where
  stored : FloorStored userId version shared.store
  pending : floorListed shared.store shared.sync userId = true ∨
    shared.sync.snapshot.tvFloors userId = some version.val
  enforced : shared.synced = true → shared.sync.snapshot.tvFloors userId = some version.val

theorem floorInv_of_unchanged {shared next : Shared} (hinv : FloorInv userId version shared)
    (hstored : FloorStored userId version next.store)
    (htv : next.store.sortedSets tvIndexKey = shared.store.sortedSets tvIndexKey)
    (hsync : next.sync = shared.sync) (hsynced : next.synced = shared.synced) :
    FloorInv userId version next := by
  refine ⟨hstored,?_,?_⟩
  · unfold floorListed
    rw [htv,hsync]
    exact hinv.pending
  · rw [hsynced,hsync]
    exact hinv.enforced

theorem floorInv_step (shared : Shared) (timed : Nat × SharedEvent)
    (hgood : Timely shared timed ∧ OnlyVersion userId version timed.2)
    (hinv : FloorInv userId version shared) :
    FloorInv userId version (sharedStep codecs syncIntervalSecs shared timed) := by
  have hstored := floorStored_step codecs syncIntervalSecs hgood.1 hgood.2 hinv.stored
  cases indexStep_sharedStep codecs syncIntervalSecs hgood.1 with
  | quiet hrev htv hsync hsame => exact floorInv_of_unchanged hinv hstored htv hsync hsame
  | collected hrev htv hsync hsame => exact floorInv_of_unchanged hinv hstored htv hsync hsame
  | cycled heffect =>
    have hread : nextFloor timed.1 shared.store shared.sync userId = some version.val := by
      unfold nextFloor
      split
      · exact read_of_floorStored hinv.stored timed.1
      next hunlisted => exact hinv.pending.resolve_left hunlisted
    have hfloor := (heffect.floors userId).trans hread
    exact ⟨hstored,Or.inr hfloor,fun _ => hfloor⟩

/-- A published floor is enforced by a worker, in every continuation without
another version, exactly when the floor index showed it the user already or
its snapshot already had that floor. -/
theorem floor_reaches_iff_listedOrHeld (store : Store) (sync : SyncState) (nowMs : Nat) (fates : CacheFates)
    (userId : String) (version : SafeNat)
    (hpersistent : ∀ entry, store.strings (floorKey userId) = some entry → entry.expiresAtMs = none)
    (hok : (publishTokenVersion nowMs fates userId version store).1 = true) :
    FloorEnforced codecs syncIntervalSecs
        ⟨(publishTokenVersion nowMs fates userId version store).2,sync,nowMs,false⟩ userId version ↔
      floorListed store sync userId = true ∨ sync.snapshot.tvFloors userId = some version.val := by
  have hsets := (onlyStrings_publishTokenVersion nowMs fates userId version store).sortedSets
  have hlisted : floorListed (publishTokenVersion nowMs fates userId version store).2 sync userId =
      floorListed store sync userId := by
    unfold floorListed
    rw [hsets]
  have hstored := floorStored_of_published hpersistent hok
  rw [← hlisted]
  generalize (publishTokenVersion nowMs fates userId version store).2 = published at hstored
  constructor
  · intro henforced
    have hstale := henforced [(nowMs,.sync answered)] ⟨⟨⟨le_refl _,rfl⟩,trivial⟩,trivial⟩
      (synced_answered codecs syncIntervalSecs ⟨published,sync,nowMs,false⟩)
    have hfloor := (tvStatus_stale_iff _ _ _).mp hstale
    have hcycle := (cycled_answered codecs syncIntervalSecs ⟨published,sync,nowMs,false⟩).floors userId
    have hnext : nextFloor nowMs published sync userId = some version.val := hcycle.symm.trans hfloor
    unfold nextFloor at hnext
    split at hnext
    · exact Or.inl ‹_›
    · exact Or.inr hnext
  · intro hpending events hgood hsynced
    have hinv : FloorInv userId version ⟨published,sync,nowMs,false⟩ :=
      ⟨hstored,hpending,fun hsynced => by contradiction⟩
    have hkept := invariant_run (floorInv_step codecs syncIntervalSecs) hgood hinv
    exact (tvStatus_stale_iff _ _ _).mpr (hkept.enforced hsynced)

end

def healthyCache : CacheFates := ⟨true,.replied,true⟩

theorem published_healthyCache (nowMs : Nat) (userId : String) (version : SafeNat) (store : Store) :
    (publishTokenVersion nowMs healthyCache userId version store).1 = true := by
  simp [publishTokenVersion,healthyCache,cacheSet,cacheGet]

theorem floor_reaches_iff_firstPublication :
    (publishTokenVersion 1000000 healthyCache "alice" ⟨7,by decide⟩ .empty).1 = true ∧
      (FloorEnforced sampleCodecs 5
          ⟨(publishTokenVersion 1000000 healthyCache "alice" ⟨7,by decide⟩ .empty).2,
            .initial,1000000,false⟩ "alice" ⟨7,by decide⟩ ↔
        floorListed .empty .initial "alice" = true ∨
          SyncState.initial.snapshot.tvFloors "alice" = some 7) :=
  ⟨published_healthyCache ..,floor_reaches_iff_listedOrHeld sampleCodecs 5 .empty .initial
    1000000 healthyCache "alice" ⟨7,by decide⟩ (fun _ hentry => nomatch hentry)
    (published_healthyCache ..)⟩

/-- On an empty Redis the first floor of a user is published with success, and
a worker that syncs right after still takes a token without any version. -/
theorem floor_missed_by_fresh_worker :
    (publishTokenVersion 1000000 healthyCache "alice" ⟨7,by decide⟩ .empty).1 = true ∧
      ¬FloorEnforced sampleCodecs 5
        ⟨(publishTokenVersion 1000000 healthyCache "alice" ⟨7,by decide⟩ .empty).2,
          .initial,1000000,false⟩ "alice" ⟨7,by decide⟩ := by
  refine ⟨published_healthyCache ..,?_⟩
  intro henforced
  have hstale := henforced [(1000000,.sync answered)] ⟨⟨⟨le_refl _,rfl⟩,trivial⟩,trivial⟩
    (synced_answered sampleCodecs 5 _) none (by decide)
  have hcycle := (cycled_answered sampleCodecs 5
    ⟨(publishTokenVersion 1000000 healthyCache "alice" ⟨7,by decide⟩ .empty).2,
      .initial,1000000,false⟩).floors "alice"
  unfold tvStatus at hstale
  rw [run_cons,run_nil,hcycle] at hstale
  contradiction

end Routiq.Fleet.EdgeReach
