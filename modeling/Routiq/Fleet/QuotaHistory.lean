import Routiq.Edge.Assembly

/-! One user's requests to one service on one day, at any nodes and workers of
the fleet: they share the counters in Redis and nothing else. A rejection for
quota is held against the requests that were admitted before it. -/
namespace Routiq.Fleet.QuotaHistory
open Core CString Runs Edge.Config Edge.Auth Edge.Pipeline Edge.Gates Edge.Assembly Edge.Quota

structure Subject where
  sha256 : List UInt8 → List UInt8
  (user service : String)
  policy : QuotaPolicy
  day : Nat

def Subject.key (subject : Subject) : String :=
  "gateway:quota:" ++ subject.service ++ ":" ++ dayKey subject.day ++ ":" ++
    userShard subject.sha256 subject.user

/-- A request of the user to the service on the day. The node and the worker
that it meets are in any state; only the counters are replaced by those of the
fleet. -/
structure Request (subject : Subject) where
  node : Node
  gateway : Gateway NodeMemory
  args : RequestArgs
  nowMs : Nat
  (authHeader path : List UInt8)
  identity : UserIdentity
  service : ServiceConfig
  hashed : node.sha256 = subject.sha256
  header : args.authHeader = some authHeader
  uri : args.path = some path
  identified : (validation node.env nowMs gateway authHeader).1 = some identity
  ofUser : identity.userId = subject.user
  matched : (findService node.env gateway.worker (routePath (decode path))).1 = some service
  named : service.name = subject.service
  limited : service.quota = some subject.policy
  today : nowMs / 1000 / secondsOfDay = subject.day

structure Ledger where
  counters : Counters
  admitted : Nat

def Ledger.empty : Ledger := ⟨fun _ => none,0⟩

namespace Request

variable {subject : Subject}

section
variable (request : Request subject) (counters : Counters)

def met : Gateway NodeMemory := request.gateway.setMemory { request.gateway.worker.memory with
    quota := { request.gateway.worker.memory.quota with counters := counters } }

def answer : Nat × Gateway NodeMemory :=
  processRequest request.node.env request.nowMs request.args (request.met counters)

def RejectedForQuota : Prop :=
  ∃ passage, Passes request.node.env request.nowMs request.args (request.met counters) passage ∧
    Cleared request.node.env request.nowMs request.args (request.met counters) passage ∧
    (rated request.node.env request.nowMs (request.met counters) passage).1 = true ∧
    (counted request.node.env request.nowMs (request.met counters) passage).1 = false

end

/-- No reply of the request is lost after Redis has counted, and an upstream of
its region can serve it. -/
structure Undisturbed (request : Request subject) : Prop where
  replies : RepliesKept retries request.gateway.worker.memory.quota
  served : Serves request.node request.nowMs request.gateway request.service
    (requiredRegion request.identity.homeRegion request.node.env.currentRegion)

end Request

section

variable {subject : Subject}

section
variable (ledger : Ledger) (request : Request subject)

def step : Ledger where
  counters := (request.answer ledger.counters).2.worker.memory.quota.counters
  admitted := ledger.admitted + if (request.answer ledger.counters).1 = 200 then 1 else 0

/-- A rejection comes after as many admissions as the allowance has, and what
is used of the allowance was used by admissions. -/
structure Justified : Prop where
  rejection : request.RejectedForQuota ledger.counters → ceiling subject.policy ≤ ledger.admitted
  usage : min (used subject.key (step ledger request).counters) (ceiling subject.policy) ≤
    (step ledger request).admitted

end

/-! ## One request -/

variable {request : Request subject} {counters : Counters} {passage : Passage NodeMemory}

section
variable (hpasses : Passes request.node.env request.nowMs request.args (request.met counters) passage)
include hpasses

theorem identityOf_met : identityOf request.node.env request.nowMs (request.met counters) passage =
      some request.identity := by
  have hheader : passage.authHeader = request.authHeader :=
    Option.some.inj (hpasses.header.symm.trans request.header)
  rw [← request.identified,← hheader]
  rfl

theorem service_met : passage.service = request.service := by
  have huri : passage.path = request.path := Option.some.inj (hpasses.uri.symm.trans request.uri)
  have hmatched : request.gateway.worker.memory.router (routePath (decode request.path)) =
      some passage.route := by
    have hroute := hpasses.matched
    rw [inspected_eq hpasses,huri] at hroute
    exact hroute
  have hservice := request.matched
  unfold findService at hservice
  have hrouter : request.node.env.stages.routerAt request.gateway.worker.memory
      (routePath (decode request.path)) = some passage.route := hmatched
  rw [hrouter] at hservice
  exact Option.some.inj (hpasses.configured.symm.trans hservice)

theorem region_met :
    passage.region = requiredRegion request.identity.homeRegion request.node.env.currentRegion := by
  have hresident := hpasses.resident
  rw [identityOf_met hpasses,Option.bind_some] at hresident
  unfold resolveRegion at hresident
  dsimp only at hresident
  split at hresident
  · exact (Except.ok.inj hresident).symm
  · cases hresident

end

theorem counterKey_eq (request : Request subject) :
    counterKey request.node.sha256 request.nowMs request.service.name request.identity.userId =
      subject.key := by
  unfold counterKey utcDayKey Subject.key
  rw [request.today,request.hashed,request.named,request.ofUser]

section
variable (hfits : Fits subject.policy)
  (hreplies : RepliesKept retries request.gateway.worker.memory.quota)
  (hof : OfDay subject.day subject.key counters)
include hfits hreplies hof

theorem counted_met
    (hpasses : Passes request.node.env request.nowMs request.args (request.met counters) passage) :
    ((counted request.node.env request.nowMs (request.met counters) passage).1 = true ∧
        (counted request.node.env request.nowMs (request.met counters) passage).2.quota.counters = counters) ∨
      (((counted request.node.env request.nowMs (request.met counters) passage).1 = false ↔
          0 < subject.policy.dailyLimit ∧ ceiling subject.policy < used subject.key counters + 1) ∧
        (counted request.node.env request.nowMs (request.met counters) passage).2.quota.counters =
          (incrExpire (request.nowMs / 1000) subject.key counters).2) := by
  have hquota : passage.service.quota = some subject.policy := by
    rw [service_met hpasses]
    exact request.limited
  have hcounted := counted_quota hpasses (identityOf_met hpasses) hquota
  rw [service_met hpasses] at hcounted
  have hkey := counterKey_eq request
  have hkept : RepliesKept retries (request.met counters).worker.memory.quota := hreplies
  have hbefore : (request.met counters).worker.memory.quota.counters = counters := rfl
  have hcounter : OfDay subject.day (counterKey request.node.sha256 request.nowMs
      request.service.name request.identity.userId)
      (request.met counters).worker.memory.quota.counters := by
    rw [hkey]
    exact hof
  have hchecked := checkQuota_of_kept hfits hkept hcounter request.today
  rw [← hcounted,hkey,hbefore] at hchecked
  exact hchecked

theorem used_of_rejected (hrejected : request.RejectedForQuota counters) :
    ceiling subject.policy ≤ used subject.key counters := by
  obtain ⟨passage,hpasses,-,-,hcounted⟩ := hrejected
  rcases counted_met hfits hreplies hof hpasses with ⟨hpassed,-⟩ | ⟨habove,-⟩
  · rw [hpassed] at hcounted
    contradiction
  · have hfull := (habove.mp hcounted).2
    omega

end

theorem answer_counters (hfits : Fits subject.policy) (hclean : request.Undisturbed)
    (hof : OfDay subject.day subject.key counters) :
    (request.answer counters).2.worker.memory.quota.counters = counters ∨
      ((request.answer counters).2.worker.memory.quota.counters =
          (incrExpire (request.nowMs / 1000) subject.key counters).2 ∧
        ((request.answer counters).1 = 200 ∨ ceiling subject.policy ≤ used subject.key counters)) := by
  have hbefore : (request.met counters).worker.memory.quota.counters = counters := rfl
  unfold Request.answer
  rcases passes_or_turnedAway request.node.env request.nowMs request.args (request.met counters) with
    ⟨passage,hpasses⟩ | ⟨haway,_⟩
  · have hinspected : passage.inspected.quota.counters = counters := by
      rw [inspected_eq hpasses]
      exact hbefore
    have hcounted := counted_met hfits hclean.replies hof hpasses
    have hended := (processRequest_ended request.node.env request.nowMs request.args hpasses).1
    generalize processRequest request.node.env request.nowMs request.args (request.met counters) =
      outcome at hended
    cases hended with
    | shed after _ hmemory | malformed _ after _ hmemory | unauthenticated after _ _ hmemory =>
      left
      rw [← hinspected,← hmemory]
    | limited after _ _ hmemory =>
      left
      rw [← hinspected]
      dsimp only
      rw [hmemory,rated_eq]
    | overQuota after hcleared hrated hrejected hmemory =>
      right
      have hfull := used_of_rejected hfits hclean.replies hof ⟨passage,hpasses,hcleared,hrated,hrejected⟩
      rcases hcounted with ⟨hpassed,-⟩ | ⟨-,hcounters⟩
      · rw [hpassed] at hrejected
        contradiction
      · dsimp only
        rw [hmemory]
        exact ⟨hcounters,Or.inr hfull⟩
    | unserved after _ _ _ hnobody _ =>
      have hserves : Serves request.node request.nowMs (request.met counters) passage.service
          passage.region := by
        rw [service_met hpasses,region_met hpasses]
        exact hclean.served
      have hsome := (selected_isSome_iff hpasses).mpr hserves
      rw [hnobody] at hsome
      contradiction
    | admitted upstream after hall =>
      dsimp only
      rw [admitted_memory hall]
      rcases hcounted with ⟨-,hcounters⟩ | ⟨-,hcounters⟩
      · exact Or.inl hcounters
      · exact Or.inr ⟨hcounters,Or.inl rfl⟩
  · left
    generalize processRequest request.node.env request.nowMs request.args (request.met counters) =
      outcome at haway
    cases haway with
    | early status after _ hmemory =>
      dsimp only
      rw [hmemory]
      exact hbefore
    | inspected authHeader path status after _ hmemory =>
      dsimp only
      rw [hmemory]
      exact hbefore

/-! ## Histories -/

/-- The counter is of the day, and below the allowance it counts admissions. -/
structure Sound (subject : Subject) (ledger : Ledger) : Prop where
  ofDay : OfDay subject.day subject.key ledger.counters
  backed : min (used subject.key ledger.counters) (ceiling subject.policy) ≤ ledger.admitted

section
variable (hfits : Fits subject.policy) {ledger : Ledger} (hclean : request.Undisturbed)
  (hsound : Sound subject ledger)
include hfits hclean hsound

theorem sound_step : Sound subject (step ledger request) := by
  have hbacked := hsound.backed
  rcases answer_counters hfits hclean hsound.ofDay with hsame | ⟨hcounters,hreason⟩
  · refine ⟨?_,?_⟩
    · unfold step
      rw [hsame]
      exact hsound.ofDay
    · unfold step
      rw [hsame]
      dsimp only
      omega
  · refine ⟨?_,?_⟩
    · unfold step
      rw [hcounters]
      exact ofDay_incrExpire hsound.ofDay request.today
    · have hused : used subject.key (incrExpire (request.nowMs / 1000) subject.key
          ledger.counters).2 = used subject.key ledger.counters + 1 := by
        rw [← incrExpire_fst hsound.ofDay request.today]
        simp [used,incrExpire]
      unfold step
      rw [hcounters]
      dsimp only
      rw [hused]
      rcases hreason with hadmitted | hfull
      · rw [if_pos hadmitted]
        omega
      · omega

theorem justified_of_sound : Justified ledger request where
  rejection := by
    intro hrejected
    have hbacked := hsound.backed
    have hfull := used_of_rejected hfits hclean.replies hsound.ofDay hrejected
    omega
  usage := (sound_step hfits hclean hsound).backed

end

/-- In a history whose requests are undisturbed, every rejection for quota comes
after as many admissions as the allowance has. -/
theorem quota_rejections_justified (hfits : Fits subject.policy) (requests : List (Request subject))
    (hclean : ∀ request ∈ requests, request.Undisturbed) : Along step Justified .empty requests := by
  have hall : ∀ ledger, Sound subject ledger → Along step Justified ledger requests := by
    induction requests with
    | nil => exact fun _ _ => trivial
    | cons request requests ih =>
      intro ledger hsound
      have hrequest := hclean request List.mem_cons_self
      refine ⟨justified_of_sound hfits hrequest hsound,?_⟩
      exact ih (fun other hother => hclean other (List.mem_cons_of_mem request hother)) _
        (sound_step hfits hrequest hsound)
  exact hall .empty ⟨nofun,Nat.zero_le _⟩

end

/-! ## A sample history -/

def sampleSubject : Subject := ⟨sampleCodecs.sha256,"alice","api",⟨1,0⟩,0⟩
def sampleQuotaService : ServiceConfig := { sampleService ["US"] with quota := some ⟨1,0⟩ }

def sampleRequest (attempts : List Attempt) : Request sampleSubject where
  node := sampleNode
  gateway := sampleKnowing ⟨"alice",none⟩ sampleQuotaService attempts
  args := sampleArgs "Bearer t"
  nowMs := 1000000
  authHeader := utf8 "Bearer t"
  path := utf8 "/api"
  identity := ⟨"alice",none⟩
  service := sampleQuotaService
  hashed := rfl
  header := rfl
  uri := rfl
  identified := sample_validation _ _ attempts
  ofUser := rfl
  matched := rfl
  named := rfl
  limited := rfl
  today := by decide

theorem sample_undisturbed : (sampleRequest []).Undisturbed where
  replies := by
    intro attempt hattempt
    cases hattempt
  served := ⟨⟨"a","a:80",1,""⟩,by decide +kernel,by decide +kernel⟩

/-- The second of two requests is rejected, after one that was admitted. -/
theorem quota_rejections_justified_sample :
    (run step .empty [sampleRequest [],sampleRequest []]).admitted = 1 ∧
      Along step Justified .empty [sampleRequest [],sampleRequest []] := by
  refine ⟨by decide +kernel,quota_rejections_justified ⟨by decide,by decide⟩ _ ?_⟩
  intro request hrequest
  rw [List.mem_pair,or_self] at hrequest
  subst hrequest
  exact sample_undisturbed

/-- The reply to the first request of the day is lost, and its retry is counted
as a second request. -/
theorem rejected_after_lost_reply :
    (sampleRequest [⟨true,.replyLost⟩]).RejectedForQuota Ledger.empty.counters ∧
      ((sampleRequest [⟨true,.replyLost⟩]).answer Ledger.empty.counters).1 = 429 ∧
      Ledger.empty.admitted < ceiling sampleSubject.policy := by
  refine ⟨⟨samplePassage sampleQuotaService "US" [⟨true,.replyLost⟩],
    sample_passes sampleQuotaService _ (by decide),⟨?_,rfl,rfl⟩,?_,?_⟩,?_,by decide⟩
  · decide +kernel
  · decide +kernel
  · decide +kernel
  · decide +kernel

end Routiq.Fleet.QuotaHistory
