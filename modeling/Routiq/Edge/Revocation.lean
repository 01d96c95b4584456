import Routiq.Core.Redis

/-! The per-worker revocation snapshot and the delta sync that rebuilds it
from Redis. The hot path only reads the snapshot; one sync cycle reads two
sorted-set ranges and the changed token-version floors, and publishes a whole
new snapshot or changes nothing. -/
namespace Routiq.Edge.Revocation
open Core.Redis Function List Nat Option

structure RevocationSnapshot where
  (revoked tvFloors : String → Option Nat)
  (syncedAtMs generation : Nat)

def RevocationSnapshot.empty : RevocationSnapshot := ⟨fun _ => none,fun _ => none,0,0⟩
def jtiKey (jti : String) : String := "gateway:revoked:jti:" ++ jti
def tokenKey (tokenHashHex : String) : String := "gateway:revoked:token:" ++ tokenHashHex

def revocationKeys (jti : Option String) (tokenHashHex : String) : List String :=
  match jti.filter (fun id => !id.isEmpty) with
  | some id => [jtiKey id,tokenKey tokenHashHex]
  | none => [tokenKey tokenHashHex]

section
variable (snapshot : RevocationSnapshot) (now : Nat)

def listed (key : String) : Bool :=
  match snapshot.revoked key with
  | some expiry => now < expiry
  | none => false

def isRevoked (jti : Option String) (tokenHashHex : String) : Bool :=
  match jti.filter (fun id => !id.isEmpty) with
  | some id => listed snapshot now (jtiKey id) || listed snapshot now (tokenKey tokenHashHex)
  | none => listed snapshot now (tokenKey tokenHashHex)

end

inductive TvStatus where
  | valid | stale
deriving DecidableEq

def tvStatus (snapshot : RevocationSnapshot) (userId : String) (tokenTv : Option Nat) : TvStatus :=
  match snapshot.tvFloors userId with
  | none => .valid
  | some floor => if tokenTv = some floor then .valid else .stale

def snapshotStale (syncIntervalSecs : Nat) (snapshot : RevocationSnapshot) (nowMs : Nat) : Bool :=
  snapshot.generation = 0 ||
    syncIntervalSecs * 3000 + 5000 < nowMs - snapshot.syncedAtMs

variable (snapshot : RevocationSnapshot)

theorem isRevoked_iff (now : Nat) (jti : Option String) (tokenHashHex : String) :
    isRevoked snapshot now jti tokenHashHex = true ↔
      ∃ key ∈ revocationKeys jti tokenHashHex, listed snapshot now key = true := by
  unfold isRevoked revocationKeys
  split <;> simp_all

theorem listed_iff (now : Nat) (key : String) :
    listed snapshot now key = true ↔ ∃ expiry, snapshot.revoked key = some expiry ∧ now < expiry := by
  unfold listed
  split <;> simp_all

theorem tvStatus_stale_iff (userId : String) (version : Nat) :
    (∀ tokenTv, tokenTv ≠ some version → tvStatus snapshot userId tokenTv = .stale) ↔
      snapshot.tvFloors userId = some version := by
  constructor
  · intro hstale
    cases hfloor : snapshot.tvFloors userId with
    | none =>
      have hmissing := hstale none (by simp)
      simp [tvStatus,hfloor] at hmissing
    | some floor =>
      by_contra hne
      have hother := hstale (some floor) hne
      simp [tvStatus,hfloor] at hother
  · intro hfloor tokenTv hne
    simp [tvStatus,hfloor,hne]

/-! ## One sync cycle -/

def revIndexKey : String := "gateway:revocation:index"
def tvIndexKey : String := "gateway:tv:index"
def tvKeyPrefix : String := "gateway:user:tv:"
def skewOverlapSecs : Int := 60
def mgetChunk : Nat := 500

structure SyncState where
  snapshot : RevocationSnapshot
  (lastRevScore lastTvScore : Bound)

def SyncState.initial : SyncState := ⟨RevocationSnapshot.empty,.negInf,.negInf⟩

/-- Which of the cycle's Redis interactions succeed. `scan` is the outcome of
the optional keyspace scan: `none` when the fallback is off or the scan failed. -/
structure CycleReplies where
  (connect revRange tvRange : Bool)
  mget : Nat → Bool
  scan : Option (List String)
  gc : Bool

structure SyncClock where
  (nowMs syncIntervalSecs : Nat)

def SyncClock.now (clock : SyncClock) : Nat := clock.nowMs / 1000

/-- `str::parse::<u64>`: decimal digits after at most one plus sign. -/
def parseU64 (text : String) : Option Nat :=
  let digits := match text.toList with
    | '+' :: rest => rest
    | chars => chars
  if digits.isEmpty || !digits.all Char.isDigit then none
  else
    let value := ofDigitChars 10 digits 0
    if value < 2^64 then some value else none

theorem parseU64_repr (value : Nat) : parseU64 value.repr = if value < 2^64 then some value else none := by
  have hdigits : ∀ char ∈ toDigits 10 value, char.isDigit = true :=
    fun char hmem => isDigit_of_mem_toDigits (by decide) (by decide) hmem
  have hplus : ∀ rest, toDigits 10 value ≠ '+' :: rest := by
    intro rest heq
    have hplusDigit := hdigits '+' (by simp [heq])
    exact absurd hplusDigit (by decide)
  have hall : (toDigits 10 value).all Char.isDigit = true := by simpa using hdigits
  have hnonempty : (toDigits 10 value).isEmpty = false := by simp [toDigits_ne_nil]
  unfold parseU64
  rw [toList_repr]
  split
  next rest heq => exact absurd heq (hplus rest)
  · simp only [hall,hnonempty,Bool.not_true,Bool.or_false,Bool.false_eq_true,↓reduceIte,
      ofDigitChars_ten_toDigits]

def syncIntervalSecs (setting : Option String) : Nat :=
  match setting.bind parseU64 with
  | some value => max 1 (min value 300)
  | none => 5

def chunksFrom {α : Type} (size : Nat) : Nat → List α → List (List α)
  | 0, _ => []
  | _, [] => []
  | fuel + 1, head :: tail =>
      (head :: tail).take size :: chunksFrom size fuel ((head :: tail).drop size)

def chunks {α : Type} (size : Nat) (list : List α) : List (List α) :=
  chunksFrom size list.length list

abbrev Fetched := String → Option (Option Nat)

def fetchChunk (store : Store) (nowMs : Nat) (users : List String) (fetched : Fetched) : Fetched :=
  users.foldl (fun floors user =>
    update floors user (some ((store.get nowMs (tvKeyPrefix ++ user)).bind parseU64))) fetched

/-- The chunked `MGET` loop; the first failing chunk ends the cycle. -/
def fetchFloors (store : Store) (nowMs : Nat) (replies : Nat → Bool) :
    Nat → List (List String) → Fetched → Option Fetched
  | _, [], fetched => some fetched
  | index, chunk :: chunks, fetched =>
      if replies index then
        fetchFloors store nowMs replies (index + 1) chunks (fetchChunk store nowMs chunk fetched)
      else none

def maxScore (start : Bound) (delta : List (String × Int)) : Bound :=
  delta.foldl (fun best entry => if best < .score entry.2 then .score entry.2 else best) start

def insertRevoked (revoked : String → Option Nat) (delta : List (String × Int)) : String → Option Nat :=
  delta.foldl (fun map entry => update map entry.1 (some entry.2.toNat)) revoked

def insertScanned (revoked : String → Option Nat) (expiry : Nat) (keys : List String) : String → Option Nat :=
  keys.foldl (fun map key => update map key (some expiry)) revoked

def mergeFloors (floors : String → Option Nat) (fetched : Fetched) : String → Option Nat :=
  fun user =>
    match fetched user with
    | none => floors user
    | some floor => floor

def rangeStart (watermark : Bound) (overlap : Int) : Bound := watermark.lowered overlap

inductive SyncResult where
  | ok | error
deriving DecidableEq

/-- The range replies of a cycle: what each index lists from its watermark on,
less the overlap window. -/
def revDelta (store : Store) (state : SyncState) : List (String × Int) :=
  (store.sortedSets revIndexKey).rangeFrom (rangeStart state.lastRevScore skewOverlapSecs)

def tvDelta (store : Store) (state : SyncState) : List (String × Int) :=
  (store.sortedSets tvIndexKey).rangeFrom (rangeStart state.lastTvScore (skewOverlapSecs * 1000))

/-- Rebuild the snapshot from the previous one and the deltas, and advance the
watermarks. Scanned keys have no known expiry and are kept for six intervals. -/
def rebuild (clock : SyncClock) (scanned : Option (List String)) (store : Store)
    (fetched : Fetched) (state : SyncState) : SyncState :=
  let kept := fun key => (state.snapshot.revoked key).filter fun expiry => clock.now < expiry
  { snapshot :=
      { revoked := insertScanned (insertRevoked kept (revDelta store state))
          (clock.now + clock.syncIntervalSecs * 6) (scanned.getD [])
        tvFloors := mergeFloors state.snapshot.tvFloors fetched
        syncedAtMs := clock.nowMs
        generation := state.snapshot.generation + 1 }
    lastRevScore := maxScore state.lastRevScore (revDelta store state)
    lastTvScore := maxScore state.lastTvScore (tvDelta store state) }

def collectIndex (performed : Bool) (now : Nat) (store : Store) : Store :=
  if performed then
    store.updateSortedSet revIndexKey (·.removeUpTo ((now - 3600 : Nat) : Int))
  else store

def syncOnce (clock : SyncClock) (replies : CycleReplies) (store : Store) (state : SyncState) :
    SyncResult × Store × SyncState :=
  if !replies.connect then (.error,store,state)
  else if !replies.revRange then (.error,store,state)
  else if !replies.tvRange then (.error,store,state)
  else
    let changedUsers := (tvDelta store state).map Prod.fst
    match fetchFloors store clock.nowMs replies.mget 0 (chunks mgetChunk changedUsers) (fun _ => none) with
    | none => (.error,store,state)
    | some fetched =>
        (.ok,collectIndex replies.gc clock.now store,rebuild clock replies.scan store fetched state)

/-! ## What a cycle does -/

variable {value : Int}

section
variable (set : SortedSet) (lower : Bound)

def deltaScore (member : String) : Option Int :=
  (set.score member).filter fun value => lower ≤ .score value

theorem deltaScore_eq_some {set : SortedSet} {lower : Bound} {member : String} :
    deltaScore set lower member = some value ↔ (member,value) ∈ set.rangeFrom lower := by
  simp [deltaScore,SortedSet.rangeFrom,SortedSet.mem_entries_iff,filter_eq_some_iff]

theorem mem_members_rangeFrom (member : String) :
    member ∈ (set.rangeFrom lower).map Prod.fst ↔ (deltaScore set lower member).isSome := by
  rw [isSome_iff_exists]
  simp [deltaScore_eq_some]

end

variable (revoked : String → Option Nat)

theorem insertRevoked_of_not_mem (delta : List (String × Int)) (key : String)
    (hkey : key ∉ delta.map Prod.fst) : insertRevoked revoked delta key = revoked key := by
  induction delta generalizing revoked with
  | nil => rfl
  | cons entry delta ih =>
    simp only [map_cons,mem_cons,not_or] at hkey
    change insertRevoked (update revoked entry.1 (some entry.2.toNat)) delta key = revoked key
    rw [ih _ hkey.2,update_of_ne hkey.1]

theorem insertRevoked_of_mem (delta : List (String × Int)) (hnodup : (delta.map Prod.fst).Nodup)
    {key : String} (hmem : (key,value) ∈ delta) : insertRevoked revoked delta key = some value.toNat := by
  induction delta generalizing revoked with
  | nil => simp at hmem
  | cons entry delta ih =>
    simp only [map_cons,nodup_cons] at hnodup
    change insertRevoked (update revoked entry.1 (some entry.2.toNat)) delta key = _
    rcases mem_cons.mp hmem with heq | htail
    · rw [insertRevoked_of_not_mem _ _ _ (by rw [← heq] at hnodup; exact hnodup.1),← heq,
        update_self]
    · exact ih _ hnodup.2 htail

theorem insertRevoked_rangeFrom (set : SortedSet) (lower : Bound) (key : String) :
    insertRevoked revoked (set.rangeFrom lower) key =
      match deltaScore set lower key with
      | some value => some value.toNat
      | none => revoked key := by
  cases hdelta : deltaScore set lower key with
  | some value =>
    exact insertRevoked_of_mem _ _ (set.nodup.sublist (filter_sublist.map Prod.fst)) (deltaScore_eq_some.mp hdelta)
  | none =>
    apply insertRevoked_of_not_mem
    rw [mem_members_rangeFrom,hdelta]
    simp

variable {α : Type} {size : Nat}

theorem flatten_chunksFrom (hsize : 0 < size) (fuel : Nat) (list : List α)
    (hfuel : list.length ≤ fuel) : (chunksFrom size fuel list).flatten = list := by
  induction fuel generalizing list with
  | zero => simp_all [chunksFrom]
  | succ fuel ih =>
    cases list with
    | nil => rfl
    | cons head tail =>
      have hrest : ((head :: tail).drop size).length ≤ fuel := by
        simp only [length_drop,length_cons] at hfuel ⊢
        omega
      rw [chunksFrom,flatten_cons,ih _ hrest,take_append_drop]

theorem fetchChunk_apply (store : Store) (nowMs : Nat) (users : List String) (fetched : Fetched)
    (user : String) : fetchChunk store nowMs users fetched user =
      if user ∈ users then some ((store.get nowMs (tvKeyPrefix ++ user)).bind parseU64)
      else fetched user := by
  induction users generalizing fetched with
  | nil => simp [fetchChunk]
  | cons head users ih =>
    change fetchChunk store nowMs users (update fetched head _) user = _
    rw [ih]
    by_cases htail : user ∈ users
    · simp [htail]
    · by_cases hhead : user = head
      · subst hhead
        simp [htail]
      · simp [htail,hhead]

variable {store : Store} {replies : Nat → Bool} {fetched : Fetched}

theorem fetchFloors_apply {nowMs : Nat} {index : Nat} {chunks : List (List String)} {start : Fetched}
    (hfetch : fetchFloors store nowMs replies index chunks start = some fetched) (user : String) :
    fetched user =
      if user ∈ chunks.flatten then some ((store.get nowMs (tvKeyPrefix ++ user)).bind parseU64)
      else start user := by
  induction chunks generalizing index start with
  | nil => simp_all [fetchFloors]
  | cons chunk chunks ih =>
    unfold fetchFloors at hfetch
    split at hfetch
    · rw [ih hfetch,fetchChunk_apply]
      by_cases hlater : user ∈ chunks.flatten
      · simp [hlater]
      · simp only [hlater,↓reduceIte,flatten_cons,mem_append,or_false]
    · contradiction

theorem le_maxScore (start : Bound) (delta : List (String × Int)) : start ≤ maxScore start delta := by
  induction delta generalizing start with
  | nil => exact le_refl _
  | cons entry delta ih =>
    change start ≤ maxScore (if start < .score entry.2 then .score entry.2 else start) delta
    refine le_trans ?_ (ih _)
    split
    · exact le_of_lt ‹_›
    · exact le_refl _

def nextRevoked (now : Nat) (store : Store) (state : SyncState) (key : String) : Option Nat :=
  match deltaScore (store.sortedSets revIndexKey) (rangeStart state.lastRevScore skewOverlapSecs) key with
  | some value => some value.toNat
  | none => (state.snapshot.revoked key).filter fun expiry => now < expiry

/-- A user is re-read only when the floor index lists it within the range. -/
def floorListed (store : Store) (state : SyncState) (user : String) : Bool :=
  (deltaScore (store.sortedSets tvIndexKey)
    (rangeStart state.lastTvScore (skewOverlapSecs * 1000)) user).isSome

def nextFloor (nowMs : Nat) (store : Store) (state : SyncState) (user : String) : Option Nat :=
  if floorListed store state user then (store.get nowMs (tvKeyPrefix ++ user)).bind parseU64
  else state.snapshot.tvFloors user

structure CycleEffect (clock : SyncClock) (store : Store) (state : SyncState)
    (store' : Store) (state' : SyncState) : Prop where
  revoked : ∀ key, state'.snapshot.revoked key = nextRevoked clock.now store state key
  floors : ∀ user, state'.snapshot.tvFloors user = nextFloor clock.nowMs store state user
  revScore : state.lastRevScore ≤ state'.lastRevScore
  tvScore : state.lastTvScore ≤ state'.lastTvScore
  strings : store'.strings = store.strings
  tvIndex : store'.sortedSets tvIndexKey = store.sortedSets tvIndexKey
  revIndex : store'.sortedSets revIndexKey = store.sortedSets revIndexKey ∨
    store'.sortedSets revIndexKey =
      (store.sortedSets revIndexKey).removeUpTo ((clock.now - 3600 : Nat) : Int)

/-- A cycle fails and changes nothing, or reads every changed floor and
rebuilds. -/
theorem syncOnce_cases (clock : SyncClock) (replies : CycleReplies) (store : Store)
    (state : SyncState) : syncOnce clock replies store state = (.error,store,state) ∨
      ∃ fetched, fetchFloors store clock.nowMs replies.mget 0
          (chunks mgetChunk ((tvDelta store state).map Prod.fst)) (fun _ => none) = some fetched ∧
        syncOnce clock replies store state =
          (.ok,collectIndex replies.gc clock.now store, rebuild clock replies.scan store fetched state) := by
  unfold syncOnce
  split
  · exact Or.inl rfl
  split
  · exact Or.inl rfl
  split
  · exact Or.inl rfl
  cases hfetch : fetchFloors store clock.nowMs replies.mget 0
      (chunks mgetChunk ((tvDelta store state).map Prod.fst)) (fun _ => none) with
  | none | some fetched => simp [hfetch]

variable {clock : SyncClock} {state : SyncState}

theorem syncOnce_of_error {replies : CycleReplies}
    (hfailed : (syncOnce clock replies store state).1 = .error) :
    syncOnce clock replies store state = (.error,store,state) := by
  rcases syncOnce_cases clock replies store state with hunchanged | ⟨fetched,-,hok⟩
  · exact hunchanged
  · rw [hok] at hfailed
    contradiction

theorem tvIndexKey_ne_revIndexKey : tvIndexKey ≠ revIndexKey := by decide

theorem floors_rebuild (scanned : Option (List String))
    (hfetch : fetchFloors store clock.nowMs replies 0
      (chunks mgetChunk ((tvDelta store state).map Prod.fst)) (fun _ => none) = some fetched)
    (user : String) : (rebuild clock scanned store fetched state).snapshot.tvFloors user =
      nextFloor clock.nowMs store state user := by
  change mergeFloors state.snapshot.tvFloors fetched user = _
  unfold mergeFloors nextFloor floorListed
  have hmember := mem_members_rangeFrom (store.sortedSets tvIndexKey)
    (rangeStart state.lastTvScore (skewOverlapSecs * 1000)) user
  rw [fetchFloors_apply hfetch,chunks,flatten_chunksFrom (by decide) _ _ (Nat.le_refl _),tvDelta]
  by_cases hlisted : (deltaScore (store.sortedSets tvIndexKey)
      (rangeStart state.lastTvScore (skewOverlapSecs * 1000)) user).isSome = true
  · rw [if_pos (hmember.mpr hlisted),if_pos hlisted]
  · rw [if_neg (fun hmem => hlisted (hmember.mp hmem)),if_neg hlisted]

theorem syncOnce_effect {replies : CycleReplies} (hscan : replies.scan = none)
    (hok : (syncOnce clock replies store state).1 = .ok) :
    CycleEffect clock store state (syncOnce clock replies store state).2.1
      (syncOnce clock replies store state).2.2 := by
  rcases syncOnce_cases clock replies store state with hfailed | ⟨fetched,hfetch,hrebuilt⟩
  · rw [hfailed] at hok
    contradiction
  · rw [hrebuilt]
    refine ⟨?_,floors_rebuild _ hfetch,le_maxScore _ _,le_maxScore _ _,?_,?_,?_⟩
    · intro key
      simp only [rebuild,hscan,getD_none,insertScanned,foldl_nil]
      exact insertRevoked_rangeFrom _ _ _ key
    · unfold collectIndex
      split <;> rfl
    · change (collectIndex replies.gc clock.now store).sortedSets tvIndexKey = _
      unfold collectIndex
      split
      · exact Store.sortedSets_updateSortedSet_of_ne _ _ tvIndexKey_ne_revIndexKey
      · rfl
    · change (collectIndex replies.gc clock.now store).sortedSets revIndexKey = _ ∨
        (collectIndex replies.gc clock.now store).sortedSets revIndexKey = _
      unfold collectIndex
      split
      · exact Or.inr (Store.sortedSets_updateSortedSet_self _ _ _)
      · exact Or.inl rfl

end Routiq.Edge.Revocation
