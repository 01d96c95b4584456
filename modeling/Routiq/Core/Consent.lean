import Mathlib.Data.List.Basic
import Mathlib.Logic.Function.Basic

/-! A value that may be moved to a proposed one with the consent of every party.
A proposal sends each party a token; a request that redeems a token records the
grant later, and a request that sees every grant moves the value later still.
As long as nobody proposes between these, a move has the consent of all parties,
given since the latest proposal. -/
namespace Routiq.Core.Consent
open Function List

variable {Index Party Token Address : Type}

inductive Event (Party Token Address : Type) where
  | proposed (target : Address)
  | issued (party : Party) (token : Token) (address : Address)
  | redeemed (party : Party) (token : Token)
deriving DecidableEq

/-- Where a request stands: it has redeemed a token and not recorded the grant,
it has seen every grant, or it has read what to move to. -/
inductive Phase (Party Address : Type) where
  | idle
  | redeemed (party : Party)
  | decided
  | moving (target : Address)
deriving DecidableEq

structure Ledger (Index Party Token Address : Type) where
  value : Address
  pending : Option Address
  token : Party → Option Token
  granted : Party → Bool
  phase : Index → Phase Party Address
  events : List (Event Party Token Address)

def Granted (since : List (Event Party Token Address)) (party : Party) (address : Address) : Prop :=
  ∃ token, .issued party token address ∈ since ∧ .redeemed party token ∈ since

def Settled (events : List (Event Party Token Address)) : Prop := ∀ target, .proposed target ∉ events

section
variable (mailTo : Address → Address → Party → Address)

/-- Since the latest proposal, which is for this target, every party has
consented to move there from this value. -/
def Consented (events : List (Event Party Token Address)) (value target : Address) : Prop :=
  ∃ before since, events = before ++ .proposed target :: since ∧ Settled since ∧
    ∀ party, Granted since party (mailTo value target party)

def Supports (since : List (Event Party Token Address)) (value target : Address) : Phase Party Address → Prop
  | .idle => True
  | .redeemed party => Granted since party (mailTo value target party)
  | .decided => ∀ party, Granted since party (mailTo value target party)
  | .moving moved => moved = target ∧ ∀ party, Granted since party (mailTo value target party)

variable (ledger : Ledger Index Party Token Address)

structure Backed (target : Address)
    (before since : List (Event Party Token Address)) : Prop where
  events : ledger.events = before ++ .proposed target :: since
  settled : Settled since
  token : ∀ party token, ledger.token party = some token →
    .issued party token (mailTo ledger.value target party) ∈ since
  granted : ∀ party, ledger.granted party = true → Granted since party (mailTo ledger.value target party)
  phase : ∀ index, Supports mailTo since ledger.value target (ledger.phase index)

/-- A pending proposal is backed; without one, whoever is about to move the
value leaves it where it is. -/
structure Consistent : Prop where
  backed : ∀ target, ledger.pending = some target → ∃ before since, Backed mailTo ledger target before since
  moved : ledger.pending = none → ∀ index target, ledger.phase index = .moving target → ledger.value = target

end

variable {mailTo : Address → Address → Party → Address} {since : List (Event Party Token Address)}
  {party : Party}

theorem Granted.append {address : Address} (hgranted : Granted since party address)
    (more : List (Event Party Token Address)) : Granted (since ++ more) party address := by
  obtain ⟨token,hissued,hredeemed⟩ := hgranted
  exact ⟨token,mem_append_left more hissued,mem_append_left more hredeemed⟩

theorem Settled.append {more : List (Event Party Token Address)} (hsince : Settled since)
    (hmore : Settled more) : Settled (since ++ more) := by
  intro target hmem
  rcases mem_append.mp hmem with hmem | hmem
  · exact hsince target hmem
  · exact hmore target hmem

theorem settled_nil : Settled ([] : List (Event Party Token Address)) := by
  intro target hmem
  cases hmem

variable {value : Address}

theorem Supports.append {target : Address} {phase : Phase Party Address}
    (hsupports : Supports mailTo since value target phase) (more : List (Event Party Token Address)) :
    Supports mailTo (since ++ more) value target phase := by
  cases phase with
  | idle => trivial
  | redeemed party => exact Granted.append hsupports more
  | decided => exact fun party => (hsupports party).append more
  | moving moved => exact ⟨hsupports.1,fun party => (hsupports.2 party).append more⟩

variable {ledger : Ledger Index Party Token Address} {index : Index} {phase : Phase Party Address}
  {more : List (Event Party Token Address)} {target : Address}

def Ledger.reissue (ledger : Ledger Index Party Token Address) (token : Party → Option Token)
    (more : List (Event Party Token Address)) : Ledger Index Party Token Address :=
  { ledger with token := token
                events := ledger.events ++ more }

variable {token : Party → Option Token}

theorem consistent_reissue (hconsistent : Consistent mailTo ledger) (hmore : Settled more)
    (hissued : ∀ target, ledger.pending = some target → ∀ party issued, token party = some issued →
      Event.issued party issued (mailTo ledger.value target party) ∈ more) :
    Consistent mailTo (ledger.reissue token more) where
  backed target hpending := by
    obtain ⟨before,since,hbacked⟩ := hconsistent.backed target hpending
    refine ⟨before,since ++ more,?_,hbacked.settled.append hmore,?_,?_,?_⟩
    · simp [Ledger.reissue,hbacked.events]
    · intro party issued htoken
      exact mem_append_right since (hissued target hpending party issued htoken)
    · exact fun party hgranted => (hbacked.granted party hgranted).append more
    · exact fun other => (hbacked.phase other).append more
  moved := hconsistent.moved

def Ledger.propose (ledger : Ledger Index Party Token Address) (target : Address)
    (token : Party → Option Token) (more : List (Event Party Token Address)) :
    Ledger Index Party Token Address :=
  { ledger with pending := some target
                token := token
                granted := fun _ => false
                events := ledger.events ++ .proposed target :: more }

theorem consistent_propose (hidle : ∀ other, ledger.phase other = .idle) (hmore : Settled more)
    (hissued : ∀ party issued, token party = some issued →
      Event.issued party issued (mailTo ledger.value target party) ∈ more) :
    Consistent mailTo (ledger.propose target token more) where
  backed other hpending := by
    obtain rfl : target = other := Option.some.inj hpending
    refine ⟨ledger.events,more,rfl,hmore,hissued,?_,?_⟩
    · intro party hgranted
      cases hgranted
    · intro index
      rw [Ledger.propose,hidle index]
      trivial
  moved hpending := by cases hpending

theorem consented_of_moving (hconsistent : Consistent mailTo ledger)
    (hmoving : ledger.phase index = .moving target) (hchange : ledger.value ≠ target) :
    Consented mailTo ledger.events ledger.value target := by
  cases hpending : ledger.pending with
  | none => exact absurd (hconsistent.moved hpending index target hmoving) hchange
  | some proposed =>
    obtain ⟨before,since,hbacked⟩ := hconsistent.backed proposed hpending
    have hsupports := hbacked.phase index
    rw [hmoving] at hsupports
    obtain ⟨rfl,hgranted⟩ := hsupports
    exact ⟨before,since,hbacked.events,hbacked.settled,hgranted⟩

variable [DecidableEq Index]

def Ledger.enter (ledger : Ledger Index Party Token Address) (index : Index) (phase : Phase Party Address)
    (more : List (Event Party Token Address)) : Ledger Index Party Token Address :=
  { ledger with phase := update ledger.phase index phase
                events := ledger.events ++ more }

variable {phases : Index → Phase Party Address}

theorem supports_update (hphases : ∀ other, Supports mailTo since value target (phases other))
    (hphase : Supports mailTo since value target phase) (other : Index) :
    Supports mailTo since value target (update phases index phase other) := by
  by_cases hother : other = index
  · rw [hother,update_self]
    exact hphase
  · rw [update_of_ne hother]
    exact hphases other

theorem Backed.enter {before : List (Event Party Token Address)}
    (hbacked : Backed mailTo ledger target before since) (hmore : Settled more)
    (hphase : Supports mailTo (since ++ more) ledger.value target phase) :
    Backed mailTo (ledger.enter index phase more) target before (since ++ more) where
  events := by simp [Ledger.enter,hbacked.events]
  settled := hbacked.settled.append hmore
  token party token htoken := mem_append_left more (hbacked.token party token htoken)
  granted party hgranted := (hbacked.granted party hgranted).append more
  phase := supports_update (fun other => (hbacked.phase other).append more) hphase

theorem moved_update (hmoved : ∀ other target, phases other = .moving target → value = target)
    (hphase : ∀ target, phase = .moving target → value = target) (other : Index) (target : Address)
    (hmoving : update phases index phase other = .moving target) : value = target := by
  by_cases hother : other = index
  · rw [hother,update_self] at hmoving
    exact hphase target hmoving
  · rw [update_of_ne hother] at hmoving
    exact hmoved other target hmoving

theorem Consistent.enter (hconsistent : Consistent mailTo ledger) (hmore : Settled more)
    (hbacked : ∀ target before since, ledger.pending = some target → Backed mailTo ledger target before since →
      Supports mailTo (since ++ more) ledger.value target phase)
    (hmoved : ledger.pending = none → ∀ target, phase = .moving target → ledger.value = target) :
    Consistent mailTo (ledger.enter index phase more) where
  backed target hpending := by
    obtain ⟨before,since,hsince⟩ := hconsistent.backed target hpending
    exact ⟨before,since ++ more,hsince.enter hmore (hbacked target before since hpending hsince)⟩
  moved hpending := moved_update (hconsistent.moved hpending) (hmoved hpending)

theorem enter_self (ledger : Ledger Index Party Token Address) (index : Index) :
    ledger.enter index (ledger.phase index) [] = ledger := by
  simp [Ledger.enter,update_eq_self]

section
variable (hconsistent : Consistent mailTo ledger)
include hconsistent

theorem consistent_leave : Consistent mailTo (ledger.enter index .idle []) :=
  hconsistent.enter settled_nil (fun _ _ _ _ _ => trivial) fun _ _ hmoving => by cases hmoving

theorem consistent_redeem {token : Token} (htoken : ledger.token party = some token) :
    Consistent mailTo (ledger.enter index (.redeemed party) [.redeemed party token]) := by
  refine hconsistent.enter ?_ ?_ ?_
  · intro target hmem
    cases mem_singleton.mp hmem
  · intro target before since _ hbacked
    exact ⟨token,mem_append_left _ (hbacked.token party token htoken),
      mem_append_right _ (mem_singleton_self _)⟩
  · intro _ target hmoving
    cases hmoving

theorem consistent_decide (hgranted : ∀ party, ledger.granted party = true) :
    Consistent mailTo (ledger.enter index .decided []) := by
  refine hconsistent.enter settled_nil ?_ ?_
  · intro target before since _ hbacked party
    exact (hbacked.granted party (hgranted party)).append []
  · intro _ target hmoving
    cases hmoving

theorem consistent_read (hpending : ledger.pending = some target) (hdecided : ledger.phase index = .decided) :
    Consistent mailTo (ledger.enter index (.moving target) []) := by
  refine hconsistent.enter settled_nil ?_ ?_
  · intro other before since hother hbacked
    have hsupports := hbacked.phase index
    rw [hdecided] at hsupports
    exact ⟨Option.some.inj (hpending.symm.trans hother),fun party => (hsupports party).append []⟩
  · intro hnone
    rw [hpending] at hnone
    contradiction

end

def Ledger.grant [DecidableEq Party] (ledger : Ledger Index Party Token Address) (index : Index)
    (party : Party) : Ledger Index Party Token Address :=
  { ledger with granted := update ledger.granted party true
                phase := update ledger.phase index .idle }

theorem consistent_grant [DecidableEq Party] (hconsistent : Consistent mailTo ledger)
    (hredeemed : ledger.phase index = .redeemed party) : Consistent mailTo (ledger.grant index party) where
  backed target hpending := by
    obtain ⟨before,since,hbacked⟩ := hconsistent.backed target hpending
    refine ⟨before,since,hbacked.events,hbacked.settled,hbacked.token,?_,
      supports_update hbacked.phase trivial⟩
    intro other hother
    by_cases hparty : other = party
    · have hsupports := hbacked.phase index
      rw [hredeemed] at hsupports
      rw [hparty]
      exact hsupports
    · simp only [Ledger.grant,update_of_ne hparty] at hother
      exact hbacked.granted other hother
  moved hpending := moved_update (hconsistent.moved hpending) fun target hmoving => by cases hmoving

def Ledger.move (ledger : Ledger Index Party Token Address) (index : Index) (target : Address) :
    Ledger Index Party Token Address :=
  { ledger with value := target
                pending := none
                token := fun _ => none
                granted := fun _ => false
                phase := update ledger.phase index .idle }

theorem consistent_move (hconsistent : Consistent mailTo ledger) (hmoving : ledger.phase index = .moving target) :
    Consistent mailTo (ledger.move index target) where
  backed other hpending := by cases hpending
  moved _ := by
    refine moved_update ?_ fun _ hidle => by cases hidle
    intro other moved hother
    cases hpending : ledger.pending with
    | none =>
      exact (hconsistent.moved hpending index target hmoving).symm.trans
        (hconsistent.moved hpending other moved hother)
    | some proposed =>
      obtain ⟨before,since,hbacked⟩ := hconsistent.backed proposed hpending
      have hown := hbacked.phase index
      have hsupports := hbacked.phase other
      rw [hmoving] at hown
      rw [hother] at hsupports
      exact hown.1.trans hsupports.1.symm

end Routiq.Core.Consent
