import Routiq.Edge.CircuitBreaker
import Routiq.Edge.Config
import Mathlib.Data.List.FinRange
import Mathlib.Data.Rat.Defs
import Mathlib.Algebra.Order.Field.Rat

/-! Upstream selection: a weighted ring over the pool of a region, two choices
on it by hash, latency averages and the canary split. A member is usable when
its circuit is not open and the active probes have not marked it down. -/
namespace Routiq.Edge.Selector
open Function CircuitBreaker Config List Option Nat

/-- The hash of a key; every table of this crate takes it modulo its size. -/
abbrev FxHash := String → Nat

def cbSlot (fxHash : FxHash) : SlotOf :=
  fun name => ⟨fxHash name % shmSlots,mod_lt _ (by decide)⟩

/-! ## Active health -/

def healthSlots : Nat := 4096

/-- The slot of an address; the prober counts its runs beside these. -/
structure UpstreamHealth where
  healthy : Int
  lastCheckMs : Nat
deriving DecidableEq

abbrev HealthShm := Fin healthSlots → UpstreamHealth
def freshHealth : HealthShm := fun _ => ⟨0,0⟩

def healthSlot (fxHash : FxHash) (address : String) : Fin healthSlots :=
  ⟨fxHash address % healthSlots,mod_lt _ (by decide)⟩

/-- A slot that was never probed starts up. -/
def UpstreamHealth.seeded (health : UpstreamHealth) : UpstreamHealth :=
  if health.lastCheckMs = 0 ∧ health.healthy = 0 then { health with healthy := 1 } else health

def isHealthy (fxHash : FxHash) (address : String) (shm : HealthShm) : Bool × HealthShm :=
  let health := (shm (healthSlot fxHash address)).seeded
  (decide (health.healthy = 1),Function.update shm (healthSlot fxHash address) health)

theorem UpstreamHealth.seeded_seeded (health : UpstreamHealth) : health.seeded.seeded = health.seeded := by
  unfold seeded
  split
  · simp
  · rfl

/-! ## Latency averages -/

structure UpstreamStats where
  emaLatencyUs : ℚ
  requestCount : Nat
deriving DecidableEq

def UpstreamStats.new : UpstreamStats := ⟨0,0⟩

def UpstreamStats.update (stats : UpstreamStats) (latencyUs : ℚ) : UpstreamStats where
  emaLatencyUs :=
    if stats.requestCount = 0 then latencyUs
    else 1 / 10 * latencyUs + (1 - 1 / 10) * stats.emaLatencyUs
  requestCount := stats.requestCount + 1

/-- Nothing stands for the greatest float: no average yet. -/
def UpstreamStats.emaOrMax (stats : UpstreamStats) : Option ℚ :=
  if stats.requestCount < 10 then none else some stats.emaLatencyUs

abbrev Latencies := String → Option UpstreamStats

def recordUpstreamLatency (upstream : String) (latencyUs : Nat) (latencies : Latencies) : Latencies :=
  Function.update latencies upstream
    (some (((latencies upstream).getD .new).update latencyUs))

def getEma (latencies : Latencies) (upstream : String) : Option ℚ :=
  (latencies upstream).bind UpstreamStats.emaOrMax

/-! ## The ring -/

/-- Every position of the pool, as often as its weight says and once at least. -/
def buildWeightRing (pool : List Upstream) : List (Fin pool.length) :=
  (List.finRange pool.length).flatMap fun position =>
    List.replicate (max (max (pool.get position).weight 1) 1) position

def fxHashIndex (fxHash : FxHash) (key : String) (length : Nat) : Nat :=
  if length = 0 then 0 else fxHash key % length

variable {pool : List Upstream}

theorem mem_buildWeightRing (position : Fin pool.length) : position ∈ buildWeightRing pool := by
  unfold buildWeightRing
  rw [mem_flatMap]
  refine ⟨position,mem_finRange position,?_⟩
  rw [mem_replicate]
  exact ⟨by omega,rfl⟩

/-! ## Usable members -/

structure Liveness where
  shm : Shm
  health : HealthShm

section

variable (fxHash : FxHash) (now : Nat)

section
variable (address : String) (state : Liveness)

/-- `!is_upstream_open(addr) && is_healthy(addr)`. -/
def probe : Bool × Liveness :=
  let asked := isUpstreamOpen (cbSlot fxHash) now state.shm address
  if asked.1 then (false,{ state with shm := asked.2 })
  else
    let answered := isHealthy fxHash address state.health
    (answered.1,⟨asked.2,answered.2⟩)

def usable (state : Liveness) (address : String) : Bool :=
  !((state.shm (cbSlot fxHash address)).isOpen now).1 &&
    decide ((state.health (healthSlot fxHash address)).seeded.healthy = 1)

theorem isOpen_isOpen (cb : UpstreamCB) : ((cb.isOpen now).2.isOpen now).1 = (cb.isOpen now).1 := by
  unfold UpstreamCB.isOpen
  cases hstate : cb.state with
  | stateClosed | stateHalfOpen => simp [hstate]
  | stateOpen =>
    dsimp only
    by_cases hcooling : now ≤ cb.lastFailureTime + resetTimeoutSecs
    · simp [hstate,hcooling]
    · simp [hcooling]

theorem isOpen_isUpstreamOpen (shm : Shm) (address other : String) :
    (((isUpstreamOpen (cbSlot fxHash) now shm address).2 (cbSlot fxHash other)).isOpen now).1 =
      ((shm (cbSlot fxHash other)).isOpen now).1 := by
  unfold isUpstreamOpen modifyCb
  by_cases hslot : cbSlot fxHash other = cbSlot fxHash address
  · rw [hslot]
    dsimp only
    rw [update_self]
    exact isOpen_isOpen now _
  · dsimp only
    rw [update_of_ne hslot]

theorem seeded_isHealthy (shm : HealthShm) (address other : String) :
    ((isHealthy fxHash address shm).2 (healthSlot fxHash other)).seeded =
      (shm (healthSlot fxHash other)).seeded := by
  unfold isHealthy
  by_cases hslot : healthSlot fxHash other = healthSlot fxHash address
  · rw [hslot]
    dsimp only
    rw [update_self]
    exact UpstreamHealth.seeded_seeded _
  · dsimp only
    rw [update_of_ne hslot]

theorem probe_fst : (probe fxHash now address state).1 = usable fxHash now state address := by
  unfold probe usable
  dsimp only [isUpstreamOpen,isHealthy]
  split
  next hopen =>
    rw [hopen]
    rfl
  next hopen =>
    rw [Bool.not_eq_true] at hopen
    rw [hopen]
    rfl

end

theorem usable_probe (address other : String) (state : Liveness) :
    usable fxHash now (probe fxHash now address state).2 other = usable fxHash now state other := by
  unfold probe usable
  dsimp only
  split
  · rw [isOpen_isUpstreamOpen]
  · rw [isOpen_isUpstreamOpen,seeded_isHealthy]

variable (pool : List Upstream)

/-- The loop over the ring: every position is probed where it comes first. -/
def collectHealthy : List (Fin pool.length) → List (Fin pool.length) → List (Fin pool.length) →
    Liveness → List (Fin pool.length) × Liveness
  | [], _, healthy, state => (healthy,state)
  | position :: ring, seen, healthy, state =>
      if position ∈ seen then collectHealthy ring seen healthy state
      else
        let probed := probe fxHash now (pool.get position).address state
        collectHealthy ring (position :: seen)
          (if probed.1 then position :: healthy else healthy) probed.2

def collectHealthyDistinct (ring : List (Fin pool.length)) (state : Liveness) :
    List (Fin pool.length) × Liveness :=
  collectHealthy fxHash now pool ring [] [] state

theorem usable_collectHealthy (ring seen healthy : List (Fin pool.length)) (state : Liveness)
    (address : String) :
    usable fxHash now (collectHealthy fxHash now pool ring seen healthy state).2 address =
      usable fxHash now state address := by
  induction ring generalizing seen healthy state with
  | nil => rfl
  | cons position ring ih =>
    unfold collectHealthy
    split
    · exact ih seen healthy state
    · dsimp only
      rw [ih,usable_probe]

theorem mem_collectHealthy (ring seen healthy : List (Fin pool.length)) (state : Liveness)
    (found : Fin pool.length) : found ∈ (collectHealthy fxHash now pool ring seen healthy state).1 ↔
      found ∈ healthy ∨
        found ∈ ring ∧ found ∉ seen ∧ usable fxHash now state (pool.get found).address = true := by
  induction ring generalizing seen healthy state with
  | nil => simp [collectHealthy]
  | cons position ring ih =>
    unfold collectHealthy
    split
    next hseen =>
      rw [ih]
      by_cases hposition : found = position
      · subst hposition
        simp [hseen]
      · simp [hposition]
    next hnew =>
      dsimp only
      rw [ih,usable_probe,probe_fst]
      by_cases hposition : found = position
      · subst hposition
        by_cases husable : usable fxHash now state (pool.get found).address = true
        · rw [if_pos husable]
          exact iff_of_true (Or.inl mem_cons_self) (Or.inr ⟨mem_cons_self,hnew,husable⟩)
        · rw [if_neg husable]
          exact or_congr_right (iff_of_false (fun hfound => husable hfound.2.2)
            fun hfound => husable hfound.2.2)
      · by_cases husable : usable fxHash now state (pool.get position).address = true
        · rw [if_pos husable]
          simp [hposition]
        · rw [if_neg husable]
          simp [hposition]

theorem mem_collectHealthyDistinct (state : Liveness) (position : Fin pool.length) :
    position ∈ (collectHealthyDistinct fxHash now pool (buildWeightRing pool) state).1 ↔
      usable fxHash now state (pool.get position).address = true := by
  unfold collectHealthyDistinct
  rw [mem_collectHealthy]
  simp [mem_buildWeightRing]

end

/-! ## Two choices -/

/-- `get_confidence`; the product is taken in 32 bits. -/
def getConfidence (cb : UpstreamCB) : Nat :=
  match cb.state with
  | .stateOpen => 5
  | .stateHalfOpen => 40
  | .stateClosed => min (max (100 - cb.failures % 2^32 * 4 % 2^32) 30) 100

def p2cLatencyAdvantage : ℚ := 8 / 10
def epsilon : ℚ := 1 / 2 ^ 52
def score (ema : ℚ) (confidence : Nat) : ℚ := ema * (1 + (100 - (confidence : ℚ)) / 50)

/-- Whether the alternative is taken. No average counts as the slowest one. -/
def prefersAlternative (emaA emaB : Option ℚ) (confidenceA confidenceB : Nat) : Bool :=
  match emaA, emaB with
  | none, none => false
  | none, some _ => true
  | some _, none => false
  | some emaA, some emaB =>
      let scoreA := score emaA confidenceA
      let scoreB := score emaB confidenceB
      if scoreB < scoreA * p2cLatencyAdvantage then true
      else if scoreA < scoreB * p2cLatencyAdvantage then false
      else if |scoreA - scoreB| < epsilon then false
      else decide (scoreB < scoreA)

variable (fxHash : FxHash) (now : Nat) (latencies : Latencies)

def ringAt {n : Nat} (ring : List (Fin n)) (slot : Nat) : Option (Fin n) := ring[slot % ring.length]?

section
variable (pool : List Upstream)

def pickP2c (a b : Fin pool.length) (healthy : List (Fin pool.length))
    (shm : Shm) : Option (Fin pool.length) :=
  let addressA := (pool.get a).address
  let addressB := (pool.get b).address
  if a ∈ healthy then
    if b ∈ healthy ∧ a ≠ b then
      if prefersAlternative (getEma latencies addressA) (getEma latencies addressB)
          (getConfidence (shm (cbSlot fxHash addressA))) (getConfidence (shm (cbSlot fxHash addressB)))
      then some b else some a
    else some a
  else if b ∈ healthy then some b
  else none

def failover {n : Nat} (ring healthy : List (Fin n)) (primarySlot : Nat) : Option (Fin n) :=
  (List.range ring.length).findSome? fun offset =>
    (ringAt ring (primarySlot + offset)).filter (· ∈ healthy)

def choose (hashKey : String) (healthy : List (Fin pool.length)) (shm : Shm) : Option (Fin pool.length) :=
  let ring := buildWeightRing pool
  let primarySlot := fxHashIndex fxHash hashKey ring.length
  let altSlot := fxHashIndex fxHash (hashKey ++ ":p2c") ring.length
  match ringAt ring primarySlot, ringAt ring altSlot with
  | some a, some b =>
      (pickP2c fxHash latencies pool a b healthy shm).or (failover ring healthy primarySlot)
  | _, _ => none

def selectFrom (userId : Option String) (state : Liveness) : Option String × Liveness :=
  if pool.isEmpty then (none,state)
  else
    let collected := collectHealthyDistinct fxHash now pool (buildWeightRing pool) state
    if collected.1.isEmpty then (none,collected.2)
    else
      ((choose fxHash latencies pool (userId.getD "anonymous") collected.1 collected.2.shm).map
        fun position => (pool.get position).address,collected.2)

end

/-- `select_from(first).or_else(|| select_from(second))`. -/
def selectFirstOf (first second : List Upstream) (userId : Option String) (state : Liveness) :
    Option String × Liveness :=
  match selectFrom fxHash now latencies first userId state with
  | (some address,state) => (some address,state)
  | (none,state) => selectFrom fxHash now latencies second userId state

def CanaryPolicy.effectivePercent (policy : CanaryPolicy) : Nat := min policy.percent 100

def inCanaryBucket (policy : CanaryPolicy) (userId : Option String) : Bool :=
  decide (fxHashIndex fxHash (userId.getD "anonymous" ++ ":canary") 10000 <
    CanaryPolicy.effectivePercent policy * 100)

def selectUpstream (service : ServiceConfig) (region : String) (userId : Option String)
    (canaryHint : String) (state : Liveness) : Option String × Liveness :=
  match service.regionalUpstreams region with
  | none => (none,state)
  | some upstreams =>
      if upstreams.isEmpty then (none,state)
      else
        match service.canary.filter fun policy => !policy.version.isEmpty with
        | none => selectFrom fxHash now latencies upstreams userId state
        | some policy =>
            let canary := upstreams.filter fun upstream => upstream.version = policy.version
            let stable := upstreams.filter fun upstream => ¬upstream.version = policy.version
            if canary.isEmpty then selectFrom fxHash now latencies stable userId state
            else if stable.isEmpty then selectFrom fxHash now latencies canary userId state
            else if canaryHint = policy.version ∨ inCanaryBucket fxHash policy userId then
              selectFirstOf fxHash now latencies canary stable userId state
            else selectFirstOf fxHash now latencies stable canary userId state

/-! ## What a selection answers -/

variable {shm : Shm} {position : Fin pool.length} {healthy : List (Fin pool.length)}

theorem pickP2c_mem {a b : Fin pool.length}
    (hpick : pickP2c fxHash latencies pool a b healthy shm = some position) : position ∈ healthy := by
  unfold pickP2c at hpick
  dsimp only at hpick
  split at hpick
  next ha =>
    split at hpick
    next hboth =>
      split at hpick
      · cases hpick
        exact hboth.1
      · cases hpick
        exact ha
    · cases hpick
      exact ha
  · split at hpick
    next hb =>
      cases hpick
      exact hb
    · cases hpick

variable {primarySlot n : Nat}

theorem failover_mem {ring healthy : List (Fin n)} {position : Fin n}
    (hfound : failover ring healthy primarySlot = some position) : position ∈ healthy := by
  obtain ⟨offset,-,hoffset⟩ := exists_of_findSome?_eq_some hfound
  have hmember := (filter_eq_some_iff.mp hoffset).2
  simpa using hmember

variable {length : Nat}

theorem slot_reaches {index : Nat} (hprimary : primarySlot < length) (hindex : index < length) :
    (primarySlot + (index + (length - primarySlot)) % length) % length = index := by
  rw [add_mod_mod]
  have hsum : primarySlot + (index + (length - primarySlot)) = index + length := by omega
  rw [hsum,add_mod_right,mod_eq_of_lt hindex]

theorem failover_isSome {ring healthy : List (Fin n)} {position : Fin n}
    (hprimary : primarySlot < ring.length) (hring : position ∈ ring) (hhealthy : position ∈ healthy) :
    (failover ring healthy primarySlot).isSome = true := by
  obtain ⟨index,hindex,hat⟩ := getElem_of_mem hring
  unfold failover
  rw [findSome?_isSome_iff]
  refine ⟨(index + (ring.length - primarySlot)) % ring.length,?_,?_⟩
  · rw [mem_range]
    exact mod_lt _ (by omega)
  · unfold ringAt
    rw [slot_reaches hprimary hindex,getElem?_eq_getElem hindex,hat]
    simp [hhealthy]

theorem fxHashIndex_lt (key : String) (hlength : 0 < length) : fxHashIndex fxHash key length < length := by
  unfold fxHashIndex
  rw [if_neg hlength.ne']
  exact mod_lt _ hlength

theorem choose_mem {hashKey : String}
    (hchosen : choose fxHash latencies pool hashKey healthy shm = some position) : position ∈ healthy := by
  unfold choose at hchosen
  dsimp only at hchosen
  split at hchosen
  · rw [or_eq_some_iff] at hchosen
    obtain hpick | ⟨-,hfailover⟩ := hchosen
    · exact pickP2c_mem fxHash latencies hpick
    · exact failover_mem hfailover
  · cases hchosen

theorem choose_isSome (hhealthy : position ∈ healthy) (hashKey : String) (shm : Shm) :
    (choose fxHash latencies pool hashKey healthy shm).isSome = true := by
  have hring := mem_buildWeightRing position
  have hpositive : 0 < (buildWeightRing pool).length := length_pos_of_mem hring
  have hreads : ∀ slot, (ringAt (buildWeightRing pool) slot).isSome = true := by
    intro slot
    unfold ringAt
    rw [getElem?_eq_getElem (mod_lt slot hpositive)]
    rfl
  obtain ⟨a,ha⟩ := isSome_iff_exists.mp
    (hreads (fxHashIndex fxHash hashKey (buildWeightRing pool).length))
  obtain ⟨b,hb⟩ := isSome_iff_exists.mp
    (hreads (fxHashIndex fxHash (hashKey ++ ":p2c") (buildWeightRing pool).length))
  unfold choose
  dsimp only
  rw [ha,hb]
  dsimp only
  rw [isSome_or,failover_isSome (fxHashIndex_lt fxHash hashKey hpositive) hring hhealthy,
    Bool.or_true]

/-- An answer over a pool is the address of a usable member, and is missing
only where none is; nothing that is touched changes who is usable. -/
structure Answers (pool : List Upstream) (state : Liveness) (outcome : Option String × Liveness) : Prop where
  kept : ∀ address, usable fxHash now outcome.2 address = usable fxHash now state address
  found : ∀ address, outcome.1 = some address →
    ∃ upstream ∈ pool, upstream.address = address ∧ usable fxHash now state address = true
  missing : outcome.1 = none → ∀ upstream ∈ pool, usable fxHash now state upstream.address = false

variable {outcome : Option String × Liveness} {state : Liveness}

theorem Answers.isSome_iff {fxHash : FxHash} {now : Nat}
    (hanswers : Answers fxHash now pool state outcome) : outcome.1.isSome = true ↔
      ∃ upstream ∈ pool, usable fxHash now state upstream.address = true := by
  cases hchosen : outcome.1 with
  | some address =>
    obtain ⟨upstream,hupstream,rfl,husable⟩ := hanswers.found address hchosen
    exact iff_of_true rfl ⟨upstream,hupstream,husable⟩
  | none =>
    refine iff_of_false (by simp) ?_
    rintro ⟨upstream,hupstream,husable⟩
    rw [hanswers.missing hchosen upstream hupstream] at husable
    contradiction

theorem Answers.nobody (state : Liveness) : Answers fxHash now [] state (none,state) where
  kept := fun _ => rfl
  found := fun _ hnone => nomatch hnone
  missing := fun _ _ hmem => nomatch hmem

theorem selectFrom_answers (pool : List Upstream) (userId : Option String) (state : Liveness) :
    Answers fxHash now pool state (selectFrom fxHash now latencies pool userId state) := by
  have hmember := mem_collectHealthyDistinct fxHash now pool state
  have hkept := usable_collectHealthy fxHash now pool (buildWeightRing pool) [] [] state
  unfold selectFrom
  split
  next hempty =>
    rw [List.isEmpty_iff] at hempty
    subst hempty
    exact .nobody fxHash now state
  · dsimp only
    split
    next hnobody =>
      rw [List.isEmpty_iff] at hnobody
      refine ⟨hkept,(fun _ hnone => nomatch hnone),fun _ upstream hupstream => ?_⟩
      obtain ⟨position,hposition⟩ := get_of_mem hupstream
      rw [← hposition,← Bool.not_eq_true,← hmember position,hnobody]
      exact not_mem_nil
    next hsomebody =>
      obtain ⟨healthy,hhealthy⟩ := exists_mem_of_ne_nil _ (mt List.isEmpty_iff.mpr hsomebody)
      refine ⟨hkept,fun address haddress => ?_,fun hnone => ?_⟩
      · obtain ⟨position,hchosen,rfl⟩ := map_eq_some_iff.mp haddress
        exact ⟨pool.get position,get_mem pool position,rfl,
          (hmember position).mp (choose_mem fxHash latencies hchosen)⟩
      · have hchosen := choose_isSome fxHash latencies hhealthy (userId.getD "anonymous")
          (collectHealthyDistinct fxHash now pool (buildWeightRing pool) state).2.shm
        rw [map_eq_none_iff.mp hnone] at hchosen
        contradiction

theorem selectFirstOf_answers {first second : List Upstream}
    (hpool : ∀ upstream, upstream ∈ pool ↔ upstream ∈ first ∨ upstream ∈ second) (userId : Option String)
    (state : Liveness) :
    Answers fxHash now pool state (selectFirstOf fxHash now latencies first second userId state) := by
  have hfirst := selectFrom_answers fxHash now latencies first userId state
  unfold selectFirstOf
  generalize selectFrom fxHash now latencies first userId state = outcome at hfirst
  obtain ⟨chosen,middle⟩ := outcome
  cases chosen with
  | some address =>
    refine ⟨hfirst.kept,fun other hother => ?_,fun hnone => nomatch hnone⟩
    obtain ⟨upstream,hupstream,hfound⟩ := hfirst.found other hother
    exact ⟨upstream,(hpool upstream).mpr (Or.inl hupstream),hfound⟩
  | none =>
    have hsecond := selectFrom_answers fxHash now latencies second userId middle
    refine ⟨fun other => (hsecond.kept other).trans (hfirst.kept other),fun other hother => ?_,
      fun hnone upstream hupstream => ?_⟩
    · obtain ⟨upstream,hupstream,haddress,husable⟩ := hsecond.found other hother
      rw [hfirst.kept] at husable
      exact ⟨upstream,(hpool upstream).mpr (Or.inr hupstream),haddress,husable⟩
    · rcases (hpool upstream).mp hupstream with hleft | hright
      · exact hfirst.missing rfl upstream hleft
      · rw [← hfirst.kept]
        exact hsecond.missing hnone upstream hright

theorem Answers.of_perm {other : List Upstream} (hanswers : Answers fxHash now other state outcome)
    (hpool : ∀ upstream, upstream ∈ pool ↔ upstream ∈ other) : Answers fxHash now pool state outcome where
  kept := hanswers.kept
  found := by
    intro address haddress
    obtain ⟨upstream,hupstream,hfound⟩ := hanswers.found address haddress
    exact ⟨upstream,(hpool upstream).mpr hupstream,hfound⟩
  missing := fun hnone upstream hupstream => hanswers.missing hnone upstream ((hpool upstream).mp hupstream)

def poolOf (service : ServiceConfig) (region : String) : List Upstream :=
  (service.regionalUpstreams region).getD []

/-! ## The canary split -/

def prefersCanary (policy : CanaryPolicy) (userId : Option String) (canaryHint : String) : Bool :=
  canaryHint = policy.version || inCanaryBucket fxHash policy userId

variable {service : ServiceConfig} {policy : CanaryPolicy}

/-- With a policy the pool is one group, or the group the user prefers is asked
before the other. -/
theorem selectUpstream_split
    (hpolicy : service.canary.filter (fun policy => !policy.version.isEmpty) = some policy) (region : String)
    (userId : Option String) (canaryHint : String) (state : Liveness) :
    (∃ part label, (∀ upstream, upstream ∈ part ↔ upstream ∈ poolOf service region) ∧
      (∀ upstream ∈ poolOf service region, decide (upstream.version = policy.version) = label) ∧
      selectUpstream fxHash now latencies service region userId canaryHint state =
        selectFrom fxHash now latencies part userId state) ∨
    selectUpstream fxHash now latencies service region userId canaryHint state =
      selectFirstOf fxHash now latencies
        ((poolOf service region).filter fun upstream => decide (upstream.version = policy.version) =
          prefersCanary fxHash policy userId canaryHint)
        ((poolOf service region).filter fun upstream => ¬decide (upstream.version = policy.version) =
          prefersCanary fxHash policy userId canaryHint) userId state := by
  unfold selectUpstream poolOf
  cases service.regionalUpstreams region with
  | none => exact .inl ⟨[],true,by simp,by simp,rfl⟩
  | some upstreams =>
    dsimp only [getD_some]
    rw [hpolicy]
    dsimp only
    split
    next hempty =>
      rw [List.isEmpty_iff] at hempty
      subst hempty
      exact .inl ⟨[],true,by simp,by simp,rfl⟩
    split
    next hcanary =>
      rw [List.isEmpty_iff,List.filter_eq_nil_iff] at hcanary
      refine .inl ⟨_,false,?_,by simpa using hcanary,rfl⟩
      intro upstream
      simpa using hcanary upstream
    split
    next hstable =>
      rw [List.isEmpty_iff,List.filter_eq_nil_iff] at hstable
      refine .inl ⟨_,true,?_,by simpa using hstable,rfl⟩
      intro upstream
      simpa using hstable upstream
    right
    split
    next hprefers =>
      have hwants : prefersCanary fxHash policy userId canaryHint = true := by simpa [prefersCanary] using hprefers
      simp only [hwants,decide_eq_true_eq]
    next hprefers =>
      have hwants : prefersCanary fxHash policy userId canaryHint = false := by
        simpa [prefersCanary] using hprefers
      simp only [hwants,decide_eq_false_iff_not,not_not]

theorem selectUpstream_answers (service : ServiceConfig) (region : String) (userId : Option String)
    (canaryHint : String) (state : Liveness) : Answers fxHash now (poolOf service region) state
      (selectUpstream fxHash now latencies service region userId canaryHint state) := by
  cases hpolicy : service.canary.filter fun policy => !policy.version.isEmpty with
  | none =>
    unfold selectUpstream poolOf
    cases service.regionalUpstreams region with
    | none => exact .nobody fxHash now state
    | some upstreams =>
      dsimp only [getD_some]
      rw [hpolicy]
      split
      next hempty =>
        rw [List.isEmpty_iff] at hempty
        subst hempty
        exact .nobody fxHash now state
      · exact selectFrom_answers fxHash now latencies upstreams userId state
  | some policy =>
    rcases selectUpstream_split fxHash now latencies hpolicy region userId canaryHint state with
      ⟨part,_,hpart,_,hselect⟩ | hselect
    · rw [hselect]
      exact (selectFrom_answers fxHash now latencies part userId state).of_perm fxHash now
        fun upstream => (hpart upstream).symm
    · rw [hselect]
      refine selectFirstOf_answers fxHash now latencies (fun upstream => ?_) userId state
      simp only [mem_filter,decide_eq_true_eq]
      tauto

/-- The address is that of a usable member, and of a wanted one unless none of
these is usable. -/
def Prefers (pool : List Upstream) (wanted : Upstream → Prop) (state : Liveness) (address : String) : Prop :=
  ∃ upstream ∈ pool, upstream.address = address ∧ usable fxHash now state address = true ∧
    (wanted upstream ∨ ∀ other ∈ pool, wanted other → usable fxHash now state other.address = false)

variable {wanted : Upstream → Prop} {pool : List Upstream} {state : Liveness} {userId : Option String}
  {address : String}

theorem prefers_of_selectFirstOf [DecidablePred wanted]
    (hselected : (selectFirstOf fxHash now latencies (pool.filter (wanted ·)) (pool.filter (¬wanted ·))
      userId state).1 = some address) : Prefers fxHash now pool wanted state address := by
  have hfirst := selectFrom_answers fxHash now latencies (pool.filter (wanted ·)) userId state
  unfold selectFirstOf at hselected
  generalize selectFrom fxHash now latencies (pool.filter (wanted ·)) userId state = outcome at hfirst hselected
  obtain ⟨chosen,middle⟩ := outcome
  cases chosen with
  | some chosen =>
    obtain ⟨upstream,hmem,haddress,husable⟩ := hfirst.found address hselected
    rw [mem_filter,decide_eq_true_eq] at hmem
    exact ⟨upstream,hmem.1,haddress,husable,.inl hmem.2⟩
  | none =>
    obtain ⟨upstream,hmem,haddress,husable⟩ :=
      (selectFrom_answers fxHash now latencies _ userId middle).found address hselected
    rw [hfirst.kept] at husable
    refine ⟨upstream,(mem_filter.mp hmem).1,haddress,husable,.inr ?_⟩
    intro other hother hwanted
    exact hfirst.missing rfl other (mem_filter.mpr ⟨hother,decide_eq_true hwanted⟩)

variable {canaryHint : String}

theorem selectUpstream_prefers {region : String} (hpolicy : service.canary = some policy)
    (hversion : policy.version ≠ "")
    (hselected : (selectUpstream fxHash now latencies service region userId canaryHint state).1 = some address) :
    Prefers fxHash now (poolOf service region) (fun upstream =>
      decide (upstream.version = policy.version) = prefersCanary fxHash policy userId canaryHint)
      state address := by
  have hactive : service.canary.filter (fun policy => !policy.version.isEmpty) = some policy := by
    rw [hpolicy,filter_some,if_pos (by simp [hversion])]
  rcases selectUpstream_split fxHash now latencies hactive region userId canaryHint state with
    ⟨part,label,hpart,hlabel,hselect⟩ | hselect
  · rw [hselect] at hselected
    obtain ⟨upstream,hmem,haddress,husable⟩ :=
      (selectFrom_answers fxHash now latencies part userId state).found address hselected
    rw [hpart] at hmem
    refine ⟨upstream,hmem,haddress,husable,?_⟩
    by_cases hprefers : label = prefersCanary fxHash policy userId canaryHint
    · exact .inl ((hlabel upstream hmem).trans hprefers)
    · exact .inr fun other hother hwanted => absurd ((hlabel other hother).symm.trans hwanted) hprefers
  · rw [hselect] at hselected
    exact prefers_of_selectFirstOf fxHash now latencies hselected

/-- An address is found exactly where a member is usable and belongs to one;
the canary share gets canary members where it can and the others stable ones,
and a larger percentage only adds to the share. -/
theorem selection_sound_complete_stable (service : ServiceConfig) (region : String) (userId : Option String)
    (canaryHint : String) (state : Liveness) :
    let answer := (selectUpstream fxHash now latencies service region userId canaryHint state).1
    (answer.isSome = true ↔
      ∃ upstream ∈ poolOf service region, usable fxHash now state upstream.address = true) ∧
    (∀ address, answer = some address → ∃ upstream ∈ poolOf service region,
      upstream.address = address ∧ usable fxHash now state address = true) ∧
    (∀ policy, service.canary = some policy → policy.version ≠ "" → ∀ address, answer = some address →
      Prefers fxHash now (poolOf service region) (fun upstream =>
        decide (upstream.version = policy.version) = prefersCanary fxHash policy userId canaryHint)
        state address) ∧
    ∀ (policy : CanaryPolicy) (percent : Nat), policy.percent ≤ percent →
      prefersCanary fxHash policy userId canaryHint = true →
      prefersCanary fxHash { policy with percent := percent } userId canaryHint = true := by
  have hanswers := selectUpstream_answers fxHash now latencies service region userId canaryHint state
  refine ⟨hanswers.isSome_iff,hanswers.found,?_,?_⟩
  · intro policy hpolicy hversion address hselected
    exact selectUpstream_prefers fxHash now latencies hpolicy hversion hselected
  · intro policy percent hraised hprefers
    unfold prefersCanary inCanaryBucket CanaryPolicy.effectivePercent at hprefers ⊢
    simp only [Bool.or_eq_true,decide_eq_true_eq] at hprefers ⊢
    refine hprefers.imp_right fun hbucket => ?_
    omega

end Routiq.Edge.Selector
