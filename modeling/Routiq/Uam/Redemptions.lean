import Routiq.Uam.OneTimeCodes

/-! How often a one-time code can be redeemed. A redemption reads the code and
then deletes it, so it can be read again in between, and again afterwards when
the deletion does not take effect. -/
namespace Routiq.Uam.Redemptions
open Core Function Redis Runs Processes Actions Commands OneTimeCodes Option

inductive Redemption where
  | link (code formToken : String)
  | form (formToken : String) (expectedKind : EmailLinkKind)
  | exchange (code state : String)
  | state (state codeVerifier : String)

def Redemption.key : Redemption → String
  | .link code _ => linkKey code
  | .form formToken _ => formKey formToken
  | .exchange code _ => exchangeKey code
  | .state value _ => stateKey value

def Redemption.issues : Redemption → Option String
  | .link _ formToken => some (formKey formToken)
  | _ => none

inductive Redeemed where
  | link (result : RedeemedLink)
  | form (result : RedeemedForm)
  | exchange (tokens : IssuedTokens)
  | state
deriving DecidableEq

def redeem (env : CodeEnv) : Redemption → UamAction (Option Redeemed)
  | .link code formToken => do
    let result ← redeemEmailLinkCode env code formToken
    pure (result.map .link)
  | .form formToken expectedKind => do
    let result ← consumeFormToken env formToken expectedKind
    pure (result.map .form)
  | .exchange code state => do
    let result ← consumeOAuthExchangeCode env code state
    pure (result.map .exchange)
  | .state state codeVerifier => do
    let valid ← consumeOAuthState env state codeVerifier
    pure (if valid then some .state else none)

/-! ## Stages of a redemption -/

inductive Phase where
  | unread
  /-- Redis is not available and the memory is about to be read. -/
  | offline
  /-- Read and not deleted. -/
  | found | taken
  /-- Redis refused the form token and the memory is about to take it. -/
  | storing | stored | missed
deriving DecidableEq

def Phase.took : Phase → Bool
  | .found | .taken | .storing | .stored => true
  | .unread | .offline | .missed => false

def Phase.cleared : Phase → Bool
  | .taken | .storing | .stored => true
  | .unread | .offline | .found | .missed => false

structure Stage where
  key : String
  issues : Option String
  phase : Phase

def Stage.initial (request : Redemption) : Stage := ⟨request.key,request.issues,.unread⟩

def Stage.next (stage : Stage) : (command : Command) → Result command → Stage
  | .cacheGet _, none => { stage with phase := .offline }
  | .cacheGet _, some raw =>
    { stage with phase := if (raw.filter fun text => !text.isEmpty).isSome then .found else .missed }
  | .cacheDel _, _ => { stage with phase := .taken }
  | .memoryTake _, payload => { stage with phase := if payload.isSome then .taken else .missed }
  | .cacheSet _ _ _, true => { stage with phase := .stored }
  | .cacheSet _ _ _, false => { stage with phase := .storing }
  | .memoryPut _ _ _, _ => { stage with phase := .stored }
  | _, _ => stage

def Stage.Allowed (stage : Stage) : Command → Prop
  | .cacheGet key => stage.phase = .unread ∧ key = stage.key
  | .cacheDel key => stage.phase = .found ∧ key = stage.key
  | .memoryTake key => stage.phase = .offline ∧ key = stage.key
  | .cacheSet key _ _ => stage.phase = .taken ∧ stage.issues = some key
  | .memoryPut key _ _ => stage.phase = .storing ∧ stage.issues = some key
  | _ => False

def protocol : Protocol Command (Timed Result) Stage := untimed Possible .next Stage.Allowed

section
variable {Value : Type} (succeeded : Value → Bool) (stage : Stage)

/-- A finished redemption has no deletion left to do, and one that succeeded
has taken its code. -/
def Settled : Except Failure Value → Prop
  | .ok value => stage.phase ≠ .found ∧ (succeeded value = true → stage.phase.cleared = true)
  | .error _ => False

abbrev Redeeming (action : UamAction Value) : Prop :=
  Guides Possible .next Stage.Allowed (Settled succeeded) stage action

end

section
variable {Payload : Type} (key : String) (issues : Option String)

def Taken (stage : Stage) :
    Except Failure (Option Payload) → Prop
  | .ok (some _) => stage = ⟨key,issues,.taken⟩
  | .ok none => stage.phase ≠ .found
  | .error _ => False

theorem takeCode_guides (parse : String → Option Payload) (ofMemory : CodePayload → Option Payload) :
    Guides Possible Stage.next Stage.Allowed (Taken key issues) ⟨key,issues,.unread⟩
      (takeCode key parse ofMemory) := by
  unfold takeCode
  rw [guides_cacheGet_bind]
  refine ⟨⟨rfl,rfl⟩,?_⟩
  intro answer
  cases answer with
  | none =>
    simp only [guides_memoryTake_bind,guides_pure]
    refine ⟨⟨rfl,rfl⟩,?_⟩
    intro payload
    cases payload with
    | none => simp [Taken,Stage.next]
    | some payload => cases hparsed : ofMemory payload <;> simp [Taken,Stage.next,hparsed]
  | some raw =>
    cases hraw : raw.filter fun text => !text.isEmpty with
    | none => simp [Taken,Stage.next,hraw]
    | some text =>
      simp only [hraw,guides_cacheDel_bind,guides_pure]
      refine ⟨⟨?_,rfl⟩,?_⟩
      · simp [Stage.next,hraw]
      · intro _
        cases hparsed : parse text <;> simp [Taken,Stage.next]

end

theorem keepCode_guides (keep key text : String) (payload : CodePayload) (ttlSecs : Nat) :
    Guides Possible .next Stage.Allowed (fun stage outcome => stage.phase = .stored ∧ outcome = .ok ())
      ⟨keep,some key,.taken⟩ (keepCode true key text payload ttlSecs) := by
  unfold keepCode
  rw [guides_cacheSet_bind]
  refine ⟨⟨rfl,rfl⟩,?_⟩
  intro available
  cases available with
  | true => exact guides_pure.mpr ⟨rfl,rfl⟩
  | false =>
    simp only [Bool.false_eq_true,if_false,if_true]
    exact fun _ => ⟨⟨rfl,rfl⟩,fun _ _ => ⟨rfl,rfl⟩⟩

variable {stage : Stage}

section Consumers
variable {Payload Value : Type} {succeeded : Value → Bool} {key : String} {issues : Option String}

theorem refused_guides {value : Value} (hvalue : succeeded value = false) :
    Redeeming succeeded ⟨key,issues,.unread⟩ (pure value : UamAction Value) := by
  exact guides_pure.mpr ⟨Phase.noConfusion,fun hsucceeded => by simp [hvalue] at hsucceeded⟩

theorem taken_guides (value : Value) :
    Redeeming succeeded ⟨key,issues,.taken⟩ (pure value : UamAction Value) := by
  exact guides_pure.mpr ⟨Phase.noConfusion,fun _ => rfl⟩

theorem takeCode_bind_guides (parse : String → Option Payload) (ofMemory : CodePayload → Option Payload)
    {rest : Option Payload → UamAction Value} {missed : Value} (hmissed : rest none = pure missed)
    (hvalue : succeeded missed = false)
    (hfound : ∀ payload, Redeeming succeeded ⟨key,issues,.taken⟩ (rest (some payload))) :
    Redeeming succeeded ⟨key,issues,.unread⟩ (takeCode key parse ofMemory >>= rest) := by
  refine .bind ((takeCode_guides key issues parse ofMemory).mono ?_)
  intro stage outcome htaken
  cases outcome with
  | error error => contradiction
  | ok payload =>
    cases payload with
    | none =>
      rw [Continues,hmissed,guides_pure]
      exact ⟨htaken,fun hsucceeded => by simp [hvalue] at hsucceeded⟩
    | some payload =>
      have hstage : stage = ⟨key,issues,.taken⟩ := htaken
      subst hstage
      exact hfound payload

theorem Settled.reported {action : UamAction Value} {report : Value → Option Redeemed}
    (hreport : ∀ value, (report value).isSome = succeeded value)
    (hguides : Redeeming succeeded stage action) :
    Redeeming Option.isSome stage (action >>= fun value => pure (report value)) := by
  refine .bind (hguides.mono ?_)
  intro stage outcome hsettled
  cases outcome with
  | error error => exact hsettled
  | ok value =>
    rw [Continues,guides_pure,Settled,hreport]
    exact hsettled

end Consumers

variable (env : CodeEnv)

theorem redeemEmailLinkCode_guides (code formToken : String) :
    Redeeming Option.isSome (Stage.initial (.link code formToken))
      (redeemEmailLinkCode env code formToken) := by
  unfold redeemEmailLinkCode
  cases tooShort code with
  | true => exact refused_guides rfl
  | false =>
    refine takeCode_bind_guides _ _ rfl rfl ?_
    intro payload
    refine Guides.bind ((keepCode_guides _ _ _ _ _).mono ?_)
    rintro stage outcome ⟨hphase,rfl⟩
    rw [Continues,guides_pure]
    exact ⟨by simp [hphase],fun _ => by simp [hphase,Phase.cleared]⟩

theorem consumeFormToken_guides (formToken : String) (expectedKind : EmailLinkKind) :
    Redeeming Option.isSome (.initial (.form formToken expectedKind))
      (consumeFormToken env formToken expectedKind) := by
  unfold consumeFormToken
  cases tooShort formToken with
  | true => exact refused_guides rfl
  | false =>
    refine takeCode_bind_guides _ _ rfl rfl ?_
    intro payload
    by_cases hkind : payload.kind = expectedKind
    · simp only [hkind,ne_eq,not_true,if_false]
      exact taken_guides _
    · simp only [hkind,ne_eq,not_false_eq_true,if_true]
      exact taken_guides _

theorem consumeOAuthExchangeCode_guides (code state : String) :
    Redeeming Option.isSome (.initial (.exchange code state)) (consumeOAuthExchangeCode env code state) := by
  unfold consumeOAuthExchangeCode
  cases tooShort code || state.isEmpty with
  | true => exact refused_guides rfl
  | false =>
    refine takeCode_bind_guides _ _ rfl rfl ?_
    intro record
    by_cases hstate : record.state = state
    · simp only [hstate,ne_eq,not_true,if_false]
      exact taken_guides _
    · simp only [hstate,ne_eq,not_false_eq_true,if_true]
      exact taken_guides _

theorem consumeOAuthState_guides (state codeVerifier : String) :
    Redeeming id (.initial (.state state codeVerifier)) (consumeOAuthState env state codeVerifier) := by
  unfold consumeOAuthState
  cases state.isEmpty || codeVerifier.isEmpty with
  | true => exact refused_guides rfl
  | false => exact takeCode_bind_guides _ _ rfl rfl fun record => taken_guides _

theorem redeem_guides (request : Redemption) :
    Redeeming Option.isSome (Stage.initial request) (redeem env request) := by
  cases request with
  | link code formToken =>
    exact Settled.reported (fun value => isSome_map) (redeemEmailLinkCode_guides env code formToken)
  | form formToken expectedKind =>
    exact Settled.reported (fun value => isSome_map) (consumeFormToken_guides env formToken expectedKind)
  | exchange code state =>
    exact Settled.reported (fun value => isSome_map) (consumeOAuthExchangeCode_guides env code state)
  | state state codeVerifier =>
    refine Settled.reported ?_ (consumeOAuthState_guides env state codeVerifier)
    intro valid
    cases valid <;> rfl

/-! ## Interleaved redemptions -/

section Interleavings
variable {Index : Type} [DecidableEq Index]

abbrev RedemptionSystem (Index : Type) := UamSystem Index (Option Redeemed)

def received (requests : Index → Redemption) (arrivals : Index → Nat) (world : World) :
    RedemptionSystem Index :=
  .start world fun index => redeem env (requests index) (arrivals index)

/-- A code is read only when no other request has read it and not deleted it
yet, and every deletion takes effect. -/
def Undisturbed (system : RedemptionSystem Index) (event : Index × Input) : Prop :=
  match (system.processes event.1).pending with
  | some (.cacheGet key) =>
    ∀ other, other ≠ event.1 → (system.processes other).pending ≠ some (.cacheDel key)
  | some (.cacheDel _) => event.2.applies = true
  | _ => True

def Redeems (system : RedemptionSystem Index) (index : Index) : Prop :=
  ∃ redeemed, responseOf system index = some (some redeemed)

def Absent (world : World) (key : String) : Prop := world.redis.strings key = none ∧ world.memory key = none

/-- Of the requests for one code at most one has read it, and then the code is
gone or about to be deleted; a form token that is not issued yet is nowhere. -/
structure OnceInv (world : World) (stages : Index → Stage) : Prop where
  once : ∀ first second, (stages first).phase.took = true → (stages second).phase.took = true →
    (stages first).key = (stages second).key → first = second
  cleared : ∀ index, (stages index).phase.cleared = true → Absent world (stages index).key
  found : ∀ index, (stages index).phase = .found → world.memory (stages index).key = none
  unissued : ∀ index key, (stages index).issues = some key → (stages index).phase ≠ .stored →
    Absent world key ∧ ∀ other, (stages other).phase.took = true → (stages other).key ≠ key
  issuers : ∀ first second key, (stages first).issues = some key → (stages second).issues = some key →
    first = second
  apart : ∀ key, world.redis.strings key = none ∨ world.memory key = none

structure Shrinks (before after : World) : Prop where
  redis : ∀ key, before.redis.strings key = none → after.redis.strings key = none
  memory : ∀ key, before.memory key = none → after.memory key = none

theorem Shrinks.refl (world : World) : Shrinks world world := ⟨fun _ habsent => habsent,fun _ habsent => habsent⟩

variable {key : String}

theorem Absent.shrinks {before after : World} (habsent : Absent before key)
    (hshrinks : Shrinks before after) : Absent after key :=
  ⟨hshrinks.redis key habsent.1,hshrinks.memory key habsent.2⟩

variable {world after : World} {stages : Index → Stage} {index : Index}

omit [DecidableEq Index] in
theorem OnceInv.untaken (hinv : OnceInv world stages) (hpresent : ¬Absent world key) {other : Index}
    (hfound : (stages other).phase = .found → (stages other).key ≠ key)
    (htook : (stages other).phase.took = true) : (stages other).key ≠ key := by
  intro hkey
  cases hphase : (stages other).phase with
  | unread | offline | missed =>
    rw [hphase] at htook
    contradiction
  | found => exact hfound hphase hkey
  | taken | storing | stored =>
    apply hpresent
    rw [← hkey]
    exact hinv.cleared other (by rw [hphase]; rfl)

abbrev moved (stages : Index → Stage) (index : Index) (phase : Phase) : Index → Stage :=
  Function.update stages index { stages index with phase := phase }

theorem moved_eq (phase : Phase) (other : Index) : moved stages index phase other =
    { stages other with phase := if other = index then phase else (stages other).phase } := by
  by_cases hother : other = index
  · rw [hother,moved,update_self,if_pos rfl]
  · rw [moved,update_of_ne hother,if_neg hother]

variable {phase : Phase}

theorem OnceInv.moved (hinv : OnceInv world stages) (hshrinks : Shrinks world after)
    (hbefore : (stages index).phase ≠ .stored)
    (hnew : phase.took = true → (stages index).phase.took = true ∨ ¬Absent world (stages index).key ∧
        ∀ other, other ≠ index → (stages other).phase = .found → (stages other).key ≠ (stages index).key)
    (hcleared : phase.cleared = true → Absent after (stages index).key)
    (hfound : phase = .found → after.memory (stages index).key = none) :
    OnceInv after (Redemptions.moved stages index phase) := by
  have hfirst : ∀ other, other ≠ index → phase.took = true → (stages other).phase.took = true →
      (stages other).key ≠ (stages index).key := by
    intro other hother htook htookOther
    rcases hnew htook with hold | ⟨hpresent,halone⟩
    · intro hkey
      exact hother (hinv.once other index htookOther hold hkey)
    · exact hinv.untaken hpresent (halone other hother) htookOther
  constructor <;> try simp only [moved_eq]
  · intro first second htookFirst htookSecond hkeys
    grind [hinv.once first second]
  · intro other hother
    split at hother
    next hindex => exact hindex ▸ hcleared hother
    · exact (hinv.cleared other hother).shrinks hshrinks
  · intro other hother
    split at hother
    next hindex => exact hindex ▸ hfound hother
    · exact hshrinks.memory _ (hinv.found other hother)
  · intro issuer key hissues hphase
    have hunissued : Absent world key ∧ ∀ other, (stages other).phase.took = true →
        (stages other).key ≠ key := by
      refine hinv.unissued issuer key hissues ?_
      split at hphase
      next hindex => exact hindex ▸ hbefore
      · exact hphase
    refine ⟨hunissued.1.shrinks hshrinks,?_⟩
    intro other htook
    split at htook
    next hindex =>
      rw [hindex]
      rcases hnew htook with hold | ⟨hpresent,_⟩
      · exact hunissued.2 index hold
      · rintro rfl
        exact hpresent hunissued.1
    · exact hunissued.2 other htook
  · exact hinv.issuers
  · intro key
    exact (hinv.apart key).imp (hshrinks.redis key) (hshrinks.memory key)

theorem took_of_cleared (hcleared : phase.cleared = true) : phase.took = true := by
  cases phase <;> first | rfl | contradiction

theorem OnceInv.issued (hinv : OnceInv world stages) (hissues : (stages index).issues = some key)
    (hcleared : (stages index).phase.cleared = true) (hbefore : (stages index).phase ≠ .stored)
    (hredis : ∀ other, other ≠ key → world.redis.strings other = none → after.redis.strings other = none)
    (hmemory : ∀ other, other ≠ key → world.memory other = none → after.memory other = none)
    (hone : after.redis.strings key = none ∨ after.memory key = none) :
    OnceInv after (Redemptions.moved stages index .stored) := by
  obtain ⟨habsent,hunread⟩ := hinv.unissued index key hissues hbefore
  -- the request had taken its code, and has it still
  have htook : ∀ other, (if other = index then Phase.stored else (stages other).phase).took = true →
      (stages other).phase.took = true := by
    intro other hafter
    split at hafter
    next hindex => exact hindex ▸ took_of_cleared hcleared
    · exact hafter
  have hkept : ∀ other, other ≠ key → Absent world other → Absent after other :=
    fun other hother hgone => ⟨hredis other hother hgone.1,hmemory other hother hgone.2⟩
  constructor <;> try simp only [moved_eq]
  · intro first second htookFirst htookSecond hkeys
    exact hinv.once first second (htook first htookFirst) (htook second htookSecond) hkeys
  · intro other hafter
    refine hkept _ (hunread other (htook other (took_of_cleared hafter))) (hinv.cleared other ?_)
    split at hafter
    next hindex => exact hindex ▸ hcleared
    · exact hafter
  · intro other hfound
    split at hfound
    · contradiction
    · exact hmemory _ (hunread other (by rw [hfound]; rfl)) (hinv.found other hfound)
  · intro issuer otherKey hissuer hphase
    split at hphase
    · contradiction
    next hindex =>
      have hother : otherKey ≠ key := by
        rintro rfl
        exact hindex (hinv.issuers issuer index otherKey hissuer hissues)
      obtain ⟨hgone,hothers⟩ := hinv.unissued issuer otherKey hissuer hphase
      exact ⟨hkept otherKey hother hgone,fun other hafter => hothers other (htook other hafter)⟩
  · exact hinv.issuers
  · intro other
    by_cases hother : other = key
    · rw [hother]
      exact hone
    · exact (hinv.apart other).imp (hredis other hother) (hmemory other hother)

theorem pending_of_found {process : Process Command (Timed Result) (Except Failure (Option Redeemed) × Nat)}
    (hfollows : protocol.Follows (fun stage outcome => Settled Option.isSome stage outcome.1) stage process)
    (hphase : stage.phase = .found) : process.pending = some (.cacheDel stage.key) := by
  cases process with
  | done outcome =>
    obtain ⟨result,time⟩ := outcome
    cases result with
    | ok value => exact absurd hphase hfollows.1
    | error error => exact hfollows.elim
  | call command next =>
    have hallowed : stage.Allowed command := hfollows.1
    cases command with
    | cacheDel key => rw [Process.pending_call,hallowed.2]
    | cacheGet key | memoryTake key | cacheSet key value ttl | memoryPut key payload ttl =>
      rw [hallowed.1] at hphase
      contradiction
    | sql statement | revoke jtis | sendEmail mail => exact hallowed.elim

/-! ## What the commands do to the invariant -/

abbrev OnceAfter (hashPassword : String → String) (input : Input) (world : World) (stages : Index → Stage)
    (index : Index) (command : Command) : Prop :=
  OnceInv (exec hashPassword input world command).2 (Function.update stages index
    ((stages index).next command (exec hashPassword input world command).1))

section Commands
variable (hashPassword : String → String) (input : Input) {key : String}

variable (hinv : OnceInv world stages)
include hinv

theorem onceInv_cacheGet (hallowed : (stages index).Allowed (.cacheGet key))
    (halone : ∀ other, other ≠ index → (stages other).phase = .found → (stages other).key ≠ key) :
    OnceAfter hashPassword input world stages index (.cacheGet key) := by
  obtain ⟨hphase,rfl⟩ := hallowed
  have hbefore : (stages index).phase ≠ .stored := by simp [hphase]
  simp only [OnceAfter,exec]
  generalize hanswer : readCache input world.redis (stages index).key = answer at *
  cases answer with
  | none => refine hinv.moved (Shrinks.refl world) hbefore ?_ ?_ ?_ <;> intro hcontra <;> contradiction
  | some raw =>
    cases raw with
    | none => refine hinv.moved (Shrinks.refl world) hbefore ?_ ?_ ?_ <;> intro hcontra <;> contradiction
    | some text =>
      have hredis := strings_of_readCache hanswer
      have hmemory := (hinv.apart (stages index).key).resolve_left hredis
      have hpresent : ¬Absent world (stages index).key := fun habsent => hredis habsent.1
      refine hinv.moved (Shrinks.refl world) hbefore ?_ ?_ ?_
      · intro _
        exact .inr ⟨hpresent,halone⟩
      · intro hcleared
        split at hcleared <;> contradiction
      · intro _
        exact hmemory

theorem onceInv_cacheDel (hallowed : (stages index).Allowed (.cacheDel key))
    (happlies : input.applies = true) : OnceAfter hashPassword input world stages index (.cacheDel key) := by
  obtain ⟨hphase,rfl⟩ := hallowed
  have hmemory := hinv.found index hphase
  have hbefore : (stages index).phase ≠ .stored := by simp [hphase]
  have hshrinks : Shrinks world { world with redis := world.redis.del (stages index).key } := by
    refine ⟨?_,fun _ habsent => habsent⟩
    intro other habsent
    simp only [Store.del]
    by_cases hother : other = (stages index).key
    · rw [hother,update_self]
    · rw [update_of_ne hother]
      exact habsent
  simp only [OnceAfter,exec,happlies,if_true]
  refine hinv.moved hshrinks hbefore ?_ ?_ ?_
  · intro _
    exact .inl (by rw [hphase]; rfl)
  · intro _
    exact ⟨by simp [Store.del],hmemory⟩
  · intro hcontra
    contradiction

theorem onceInv_memoryTake (hallowed : (stages index).Allowed (.memoryTake key)) :
    OnceAfter hashPassword input world stages index (.memoryTake key) := by
  obtain ⟨hphase,rfl⟩ := hallowed
  have hbefore : (stages index).phase ≠ .stored := by simp [hphase]
  have hshrinks : Shrinks world (exec hashPassword input world (.memoryTake (stages index).key)).2 := by
    refine ⟨fun _ habsent => habsent,?_⟩
    intro other habsent
    simp only [exec]
    by_cases hother : other = (stages index).key
    · rw [hother,update_self]
    · rw [update_of_ne hother]
      exact habsent
  unfold OnceAfter
  generalize hanswer : (exec hashPassword input world (.memoryTake (stages index).key)).1 = answer
  cases answer with
  | none => refine hinv.moved hshrinks hbefore ?_ ?_ ?_ <;> intro hcontra <;> contradiction
  | some payload =>
    have hmemory : world.memory (stages index).key ≠ none := by
      intro habsent
      simp [exec,habsent] at hanswer
    have hredis := (hinv.apart (stages index).key).resolve_right hmemory
    refine hinv.moved hshrinks hbefore ?_ ?_ ?_
    · intro _
      refine .inr ⟨fun habsent => hmemory habsent.2,?_⟩
      intro other _ hfound hkey
      apply hmemory
      rw [← hkey]
      exact hinv.found other hfound
    · intro _
      exact ⟨hredis,by simp [exec]⟩
    · intro hcontra
      contradiction

theorem onceInv_cacheSet {value : String} {ttlSeconds : Option Nat}
    (hallowed : (stages index).Allowed (.cacheSet key value ttlSeconds)) :
    OnceAfter hashPassword input world stages index (.cacheSet key value ttlSeconds) := by
  obtain ⟨hphase,hissues⟩ := hallowed
  have hbefore : (stages index).phase ≠ .stored := by simp [hphase]
  have hcleared : (stages index).phase.cleared = true := by rw [hphase]; rfl
  cases havailable : input.redisAvailable with
  | false =>
    have hskipped : input.applies = false := by simp [Input.applies,havailable]
    simp only [OnceAfter,exec,havailable,hskipped,Bool.false_eq_true,if_false]
    refine hinv.moved (Shrinks.refl world) hbefore ?_ ?_ ?_
    · intro _
      exact .inl (by rw [hphase]; rfl)
    · intro _
      exact hinv.cleared index hcleared
    · intro hcontra
      contradiction
  | true =>
    simp only [OnceAfter,exec,havailable]
    have habsent := (hinv.unissued index key hissues hbefore).1
    refine hinv.issued hissues hcleared hbefore ?_ ?_ ?_
    · intro other hother hgone
      split
      · exact (writeCache_of_ne hother).trans hgone
      · exact hgone
    · intro other _ hgone
      split <;> exact hgone
    · right
      split <;> exact habsent.2

theorem onceInv_memoryPut {payload : CodePayload} {ttlSeconds : Nat}
    (hallowed : (stages index).Allowed (.memoryPut key payload ttlSeconds)) :
    OnceAfter hashPassword input world stages index (.memoryPut key payload ttlSeconds) := by
  obtain ⟨hphase,hissues⟩ := hallowed
  have hbefore : (stages index).phase ≠ .stored := by simp [hphase]
  have habsent := (hinv.unissued index key hissues hbefore).1
  refine hinv.issued hissues (by rw [hphase]; rfl) hbefore (fun _ _ hgone => hgone) ?_ (.inl habsent.1)
  intro other hother hgone
  simp only [exec]
  rw [update_of_ne hother,hgone]
  rfl

end Commands

variable (requests : Index → Redemption)

def stagesOf (system : RedemptionSystem Index) : Index → Stage :=
  protocol.stages (fun index => .initial (requests index)) system

def Following (system : RedemptionSystem Index) : Prop :=
  protocol.Following (fun index => .initial (requests index))
    (fun _ stage outcome => Settled Option.isSome stage outcome.1) system

variable {requests}

theorem onceInv_perform (hashPassword : String → String) (system : RedemptionSystem Index) (index : Index)
    (input : Input) (command : Command)
    (next : Timed Result command → Process Command (Timed Result) (Except Failure (Option Redeemed) × Nat))
    (hfollowing : Following requests system) (hprocess : system.processes index = .call command next)
    (hgood : Undisturbed system (index,input)) (hinv : OnceInv system.world (stagesOf requests system)) :
    OnceInv (system.perform (machine hashPassword) input index command next).world
      (stagesOf requests (system.perform (machine hashPassword) input index command next)) := by
  have hself := hfollowing index
  rw [hprocess] at hself
  have hallowed : (stagesOf requests system index).Allowed command := hself.1
  have hfound : ∀ other, (stagesOf requests system other).phase = .found →
      (system.processes other).pending = some (.cacheDel (stagesOf requests system other).key) :=
    fun other => pending_of_found (hfollowing other)
  unfold stagesOf at *
  rw [Protocol.stages_perform]
  unfold Undisturbed at hgood
  dsimp only at hgood
  rw [hprocess,Process.pending_call] at hgood
  generalize protocol.stages (fun index => .initial (requests index)) system = stages at *
  change OnceAfter hashPassword input system.world stages index command
  cases command with
  | sql statement | revoke jtis | sendEmail mail => exact hallowed.elim
  | cacheGet key =>
    refine onceInv_cacheGet hashPassword input hinv hallowed ?_
    intro other hother hphase hkey
    exact hgood other hother (by rw [hfound other hphase,hkey])
  | cacheDel key => exact onceInv_cacheDel hashPassword input hinv hallowed hgood
  | memoryTake key => exact onceInv_memoryTake hashPassword input hinv hallowed
  | cacheSet key value ttlSeconds => exact onceInv_cacheSet hashPassword input hinv hallowed
  | memoryPut key payload ttlSeconds => exact onceInv_memoryPut hashPassword input hinv hallowed

/-! ## Every interleaving -/

theorem key_stagesOf (system : RedemptionSystem Index) (index : Index) :
    (stagesOf requests system index).key = (requests index).key := by
  refine Protocol.stageAfter_kept Stage.key ?_ (.initial (requests index)) (system.trace index)
  intro stage command answer
  change (stage.next command answer.1).key = _
  unfold Stage.next
  split <;> rfl

theorem cleared_of_redeems {system : RedemptionSystem Index} {index : Index}
    (hfollowing : Following requests system) (hredeems : Redeems system index) :
    (stagesOf requests system index).phase.cleared = true := by
  obtain ⟨redeemed,hresponse⟩ := hredeems
  obtain ⟨⟨result,nowMs⟩,hresult,hoption⟩ := bind_eq_some_iff.mp hresponse
  have hsettled := hfollowing.settled hresult
  cases result with
  | error error => exact hsettled.elim
  | ok value =>
    obtain rfl : value = some redeemed := some.inj hoption
    exact hsettled.2 rfl

/-- Redemptions that do not overlap, and whose deletions take effect, redeem
each code at most once. -/
theorem redeemed_once_of_undisturbed (env : CodeEnv) (hashPassword : String → String)
    (requests : Index → Redemption) (arrivals : Index → Nat) (world : World) (events : List (Index × Input))
    (hapart : ∀ key, world.redis.strings key = none ∨ world.memory key = none)
    (hunissued : ∀ index key, (requests index).issues = some key → Absent world key)
    (hissuers : ∀ first second key, (requests first).issues = some key →
      (requests second).issues = some key → first = second)
    (hundisturbed : Along (System.step (machine hashPassword)) Undisturbed
      (received env requests arrivals world) events)
    (first second : Index) (hdistinct : first ≠ second)
    (hsame : (requests first).key = (requests second).key) :
    ¬(Redeems (run (System.step (machine hashPassword)) (received env requests arrivals world) events)
          first ∧
        Redeems (run (System.step (machine hashPassword)) (received env requests arrivals world) events)
          second) := by
  rintro ⟨hfirst,hsecond⟩
  have hreceived : Following requests (received env requests arrivals world) :=
    fun index => redeem_guides env (requests index) (arrivals index)
  have hstart : OnceInv world fun index => .initial (requests index) :=
    ⟨nofun,nofun,nofun,fun index key hissues _ => ⟨hunissued index key hissues,nofun⟩,hissuers,hapart⟩
  obtain ⟨hfollowing,hinv⟩ := Protocol.Following.run_invariant (machine_serves hashPassword _ _) (onceInv_perform hashPassword)
    hundisturbed hreceived hstart
  apply hdistinct
  apply hinv.once first second (took_of_cleared (cleared_of_redeems hfollowing hfirst))
    (took_of_cleared (cleared_of_redeems hfollowing hsecond))
  rw [key_stagesOf,key_stagesOf]
  exact hsame

end Interleavings

/-! ## A state that is redeemed twice -/

def sampleState : String := "5f0c6a1be2d94b7fa8307c19d24e6b80c3f1a97e5d2b46089ac7e1f3b5d70246"
def sampleVerifier : String := "dBjftJeZ4CVP-mB92K27uhbUJU1p1r_wW1gFWFOEjXk"
def sampleChallenge : String := "E9Melhoa2OwvFrEMTJguCHaoeK1t8URWbuGJSstw-cM"
def sampleRecordText : String := "\x7b\"codeChallenge\":\"E9Melhoa2OwvFrEMTJguCHaoeK1t8URWbuGJSstw-cM\"\x7d"

def sampleEnv : CodeEnv where
  stringifyLink _ := ""
  parseLink _ := none
  stringifyExchange _ := ""
  parseExchange _ := none
  stringifyState _ := sampleRecordText
  parseState text := if text = sampleRecordText then some ⟨sampleChallenge,none⟩ else none
  s256 verifier := if verifier = sampleVerifier then sampleChallenge else ""
  production := true

def sampleWorld : World where
  users := noUsers
  index _ := none
  redis := Store.empty.put (stateKey sampleState) ⟨sampleRecordText,some 600000⟩
  memory _ := none
  outbox := []

def sampleSystem : RedemptionSystem Bool :=
  received sampleEnv (fun _ => .state sampleState sampleVerifier) (fun _ => 0) sampleWorld

def healthyEvents (indices : List Bool) : List (Bool × Input) :=
  indices.map fun index => (index,Input.healthy 1000)

def breakerOpen : Input := ⟨1000,true,.failed false .circuitOpen,.answered,true⟩

def sampleAfter (events : List (Bool × Input)) : RedemptionSystem Bool :=
  run (System.step (machine id)) sampleSystem events

/-- Two reads before the deletions, or a deletion that is lost. -/
theorem state_redeemed_twice : (Redeems (sampleAfter (healthyEvents [false,true,false,true])) false ∧
      Redeems (sampleAfter (healthyEvents [false,true,false,true])) true) ∧
    Redeems (sampleAfter ((false,.healthy 1000) :: (false,breakerOpen) :: healthyEvents [true,true])) false ∧
    Redeems (sampleAfter ((false,.healthy 1000) :: (false,breakerOpen) :: healthyEvents [true,true])) true :=
  ⟨⟨⟨.state,by decide +kernel⟩,⟨.state,by decide +kernel⟩⟩,
    ⟨.state,by decide +kernel⟩,⟨.state,by decide +kernel⟩⟩

theorem state_redeemed_once_in_turn : Redeems (sampleAfter (healthyEvents [false,false,true])) false ∧
      ¬(Redeems (sampleAfter (healthyEvents [false,false,true])) false ∧
        Redeems (sampleAfter (healthyEvents [false,false,true])) true) := by
  refine ⟨⟨.state,by decide +kernel⟩,?_⟩
  refine redeemed_once_of_undisturbed sampleEnv id (fun _ : Bool => .state sampleState sampleVerifier)
    (fun _ => 0) sampleWorld _ (fun _ => .inr rfl) ?_ ?_ ?_ false true Bool.false_ne_true rfl
  · intro index key hissues
    cases hissues
  · intro first second key hissues
    cases hissues
  · refine ⟨?_,rfl,?_,trivial⟩
    · intro other _ hpending
      cases other <;> cases hpending
    · intro other _ hpending
      cases other <;> cases hpending

end Routiq.Uam.Redemptions
