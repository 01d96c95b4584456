import Routiq.Core.Runs
import Routiq.Uam.Session
import Mathlib.Data.List.Infix
import Mathlib.Data.List.Nodup

/-! Honest clients of one account, one request after the other. Every client
presents the newest refresh token it was given, and at most five sessions are
alive. A rotation pushes and slices before it pulls, so on a full list it
drops the oldest hash as well, unless the presented token is that oldest one. -/
namespace Routiq.Uam.HonestSessions
open Core.Runs Users Session List

structure ClientSession where
  token : String
  exp : Nat
deriving DecidableEq

/-- The account table, the clients' sessions in the order their tokens were
issued, and the time of the last request. -/
structure Account where
  users : UserTable
  sessions : List ClientSession
  nowMs : Nat

inductive SessionEvent where
  | login (tokens : TokenPair)
  | refresh (presented : String) (issued : TokenPair)
  | logout (presented : String)

def succeeded : Phase → Bool
  | .succeeded => true
  | _ => false

def ClientSession.live (session : ClientSession) (nowMs : Nat) : Bool := nowMs / 1000 < session.exp

def Account.alive (account : Account) (nowMs : Nat) : List ClientSession :=
  account.sessions.filter fun session => session.live nowMs

def Account.others (account : Account) (nowMs : Nat) (presented : String) : List ClientSession :=
  (account.alive nowMs).filter fun session => session.token ≠ presented

section

variable (env : SessionEnv) (userId : String) (lifetime : Nat)

def startedSession (nowMs : Nat) (token : String) : ClientSession := ⟨token,nowMs / 1000 + lifetime⟩

section
variable (account : Account) (timed : Nat × SessionEvent)

/-- A request of a client at a given time; a failed refresh ends its session. -/
def sessionStep : Account :=
  match timed with
  | (nowMs,.login tokens) =>
      match persistSessionTokens env nowMs userId tokens account.users with
      | .ok users =>
          ⟨users,account.alive nowMs ++ [startedSession lifetime nowMs tokens.refreshToken],nowMs⟩
      | .error _ => account
  | (nowMs,.refresh presented issued) =>
      let answer := refreshAccessToken env nowMs ⟨presented,issued⟩ account.users
      let others := account.others nowMs presented
      ⟨answer.1,if succeeded answer.2 then others ++ [startedSession lifetime nowMs issued.refreshToken]
        else others,
        nowMs⟩
  | (nowMs,.logout presented) =>
      match logout env nowMs presented account.users with
      | .ok users => ⟨users,account.others nowMs presented,nowMs⟩
      | .error _ => account

def hashes (account : Account) : List String := storedHashes account.users userId

section
variable (account : Account) (nowMs : Nat) (token : String)

/-- A token that was just generated for the account: its hash is none of the
stored ones. -/
structure NewToken : Prop where
  given : token.isEmpty = false
  decoded : env.decodeRefresh token = some ⟨userId,.refresh,some (nowMs / 1000 + lifetime)⟩
  unstored : hashRefreshToken env token ∉ hashes userId account

def Held : Prop :=
  ∃ session ∈ account.alive nowMs, session.token = token

end

/-- Clients refresh with the newest token of a live session, and a login leaves
at most five sessions alive. A logout may come after the token has expired. -/
def Honest : Prop := account.nowMs ≤ timed.1 ∧
    match timed.2 with
    | .login tokens =>
        (account.alive timed.1).length < 5 ∧ NewToken env userId lifetime account timed.1 tokens.refreshToken
    | .refresh presented issued =>
        Held account timed.1 presented ∧ NewToken env userId lifetime account timed.1 issued.refreshToken
    | .logout presented =>
        Held account timed.1 presented ∨ verifyRefreshToken env timed.1 presented = none

instance decidableNewToken (account : Account) (nowMs : Nat) (token : String) :
    Decidable (NewToken env userId lifetime account nowMs token) :=
  decidable_of_iff (token.isEmpty = false ∧
      env.decodeRefresh token = some ⟨userId,.refresh,some (nowMs / 1000 + lifetime)⟩ ∧
      hashRefreshToken env token ∉ hashes userId account)
    ⟨fun hnew => ⟨hnew.1,hnew.2.1,hnew.2.2⟩,fun hnew => ⟨hnew.given,hnew.decoded,hnew.unstored⟩⟩

instance decidableHonest : Decidable (Honest env userId lifetime account timed) :=
  match timed with
  | (_,.login _) => inferInstanceAs (Decidable (_ ∧ _ ∧ NewToken _ _ _ _ _ _))
  | (nowMs,.refresh presented _) => inferInstanceAs (Decidable
      (_ ∧ (∃ session ∈ account.alive nowMs, session.token = presented) ∧ NewToken _ _ _ _ _ _))
  | (nowMs,.logout presented) => inferInstanceAs (Decidable
      (_ ∧ ((∃ session ∈ account.alive nowMs, session.token = presented) ∨ _ = none)))

/-- What an honest client is owed: a refresh succeeds, and replaces exactly the
presented hash by the new one. -/
def Survives : Prop :=
  match timed.2 with
  | .refresh presented issued =>
      (refreshAccessToken env timed.1 ⟨presented,issued⟩ account.users).2 = .succeeded ∧
        ∀ token, token ∈ storedHashes
            (refreshAccessToken env timed.1 ⟨presented,issued⟩ account.users).1 userId ↔
          token = hashRefreshToken env issued.refreshToken ∨
            token ∈ hashes userId account ∧ token ≠ hashRefreshToken env presented
  | _ => True

/-- A refresh finds room in the stored list, or presents its oldest token. -/
def RoomOrOldest : Prop :=
  match timed.2 with
  | .refresh presented _ =>
      (hashes userId account).length < 5 ∨
        (hashes userId account).head? = some (hashRefreshToken env presented)
  | _ => True

end

def sessionHashes (sessions : List ClientSession) : List String :=
  sessions.map fun session => hashRefreshToken env session.token

/-- The newest stored hashes are those of the clients' sessions; before them
there may be hashes of tokens that have expired. -/
structure Tracked (account : Account) : Prop where
  exists_row : (account.users.lookup userId).isSome = true
  stored : sessionHashes env account.sessions <:+ hashes userId account
  distinct : (hashes userId account).Nodup
  atMostFive : (hashes userId account).length ≤ 5
  issued : ∀ session ∈ account.sessions, session.token.isEmpty = false ∧
    env.decodeRefresh session.token = some ⟨userId,.refresh,some session.exp⟩
  ordered : account.sessions.Pairwise fun older newer => older.exp ≤ newer.exp
  recent : ∀ session ∈ account.sessions, session.exp ≤ account.nowMs / 1000 + lifetime

/-! ## Push, slice and pull -/

section
variable (stored : List String) (newHash : String)

theorem pushedHashes_eq_drop :
    pushedHashes stored newHash = (stored ++ [newHash]).drop (stored.length + 1 - 5) := by
  unfold pushedHashes sliceItems maxRefresh
  rw [if_pos (by decide),length_append,length_singleton]
  rfl

theorem pushedHashes_suffix : pushedHashes stored newHash <:+ stored ++ [newHash] := by
  rw [pushedHashes_eq_drop]
  exact drop_suffix ..

theorem length_pushedHashes : (pushedHashes stored newHash).length = min (stored.length + 1) 5 := by
  rw [pushedHashes_eq_drop,length_drop,length_append,length_singleton]
  omega

end

variable {stored : List String}

theorem suffix_pushedHashes {kept : List String} (hkept : kept <:+ stored) (hfour : kept.length < 5)
    (newHash : String) : kept ++ [newHash] <:+ pushedHashes stored newHash := by
  obtain ⟨stale,rfl⟩ := hkept
  apply suffix_of_suffix_length_le _ (pushedHashes_suffix ..)
  · rw [length_pushedHashes,length_append,length_append,length_singleton]
    omega
  · rw [append_assoc]
    exact suffix_append ..

theorem pushedHashes_of_full {oldest : String} (hfull : stored.length = 4) (newHash : String) :
    pushedHashes (oldest :: stored) newHash = stored ++ [newHash] := by
  rw [pushedHashes_eq_drop,length_cons,hfull]
  rfl

variable {storedKey newHash : String}

theorem rotatedHashes_exact (hfive : stored.length ≤ 5)
    (hnew : newHash ≠ storedKey) (hroom : stored.length < 5 ∨ stored.head? = some storedKey) :
    rotatedHashes stored storedKey newHash = stored.filter (fun token => token ≠ storedKey) ++ [newHash] := by
  unfold rotatedHashes
  by_cases hlength : stored.length < 5
  · rw [pushedHashes_eq_drop,Nat.sub_eq_zero_of_le hlength,drop_zero,filter_append]
    simp [hnew]
  · obtain ⟨rest,rfl⟩ : ∃ rest, stored = storedKey :: rest := by
      cases stored with
      | nil => simp at hlength
      | cons oldest rest =>
        have hhead := hroom.resolve_left hlength
        rw [head?_cons,Option.some.injEq] at hhead
        exact ⟨rest,by rw [hhead]⟩
    have hrest : rest.length = 4 := by
      rw [length_cons] at hlength hfive
      omega
    rw [pushedHashes_of_full hrest,filter_append,filter_cons]
    simp [hnew]

theorem oldest_lost (hfive : stored.length ≤ 5) (hdistinct : stored.Nodup)
    (hnew : newHash ∉ stored) (hfull : ¬(stored.length < 5 ∨ stored.head? = some storedKey)) :
    ∃ oldest ∈ stored, oldest ≠ storedKey ∧ oldest ∉ rotatedHashes stored storedKey newHash := by
  rw [not_or] at hfull
  cases stored with
  | nil => simp at hfull
  | cons oldest rest =>
    have hrest : rest.length = 4 := by
      rw [length_cons] at hfull hfive
      omega
    have hne : oldest ≠ storedKey := fun heq => hfull.2 (by rw [heq]; rfl)
    refine ⟨oldest,mem_cons_self ..,hne,?_⟩
    intro hmem
    have hpushed := (mem_filter.mp hmem).1
    rw [pushedHashes_of_full hrest,mem_append,mem_singleton] at hpushed
    rcases hpushed with hkept | hissued
    · exact (nodup_cons.mp hdistinct).1 hkept
    · exact hnew (hissued ▸ mem_cons_self ..)

/-! ## Runs -/

section

variable {env userId lifetime} {account : Account} {nowMs : Nat} {presented : String}

theorem alive_suffix {sessions : List ClientSession}
    (hordered : sessions.Pairwise fun older newer => older.exp ≤ newer.exp) (nowMs : Nat) :
    (sessions.filter fun session => session.live nowMs) <:+ sessions := by
  induction sessions with
  | nil => exact suffix_refl _
  | cons session rest ih =>
    rw [pairwise_cons] at hordered
    by_cases hlive : session.live nowMs = true
    · have hall : ∀ other ∈ session :: rest, other.live nowMs = true := by
        intro other hother
        rcases mem_cons.mp hother with rfl | hrest
        · exact hlive
        · have hlater := hordered.1 other hrest
          simp only [ClientSession.live,decide_eq_true_eq] at hlive ⊢
          omega
      rw [filter_eq_self.mpr hall]
    · rw [filter_cons,if_neg hlive]
      exact (ih hordered.2).trans (suffix_cons ..)

section
variable (htracked : Tracked env userId lifetime account)
include htracked

theorem alive_stored (nowMs : Nat) : sessionHashes env (account.alive nowMs) <:+ hashes userId account :=
  ((alive_suffix htracked.ordered nowMs).map _).trans htracked.stored

variable (hheld : Held account nowMs presented)
include hheld

theorem hash_mem_of_held : hashRefreshToken env presented ∈ hashes userId account := by
  obtain ⟨session,hsession,rfl⟩ := hheld
  exact (alive_stored htracked nowMs).subset (mem_map_of_mem hsession)

theorem verified_of_held : presented.isEmpty = false ∧
      ∃ exp, verifyRefreshToken env nowMs presented = some ⟨userId,.refresh,some exp⟩ := by
  obtain ⟨session,hsession,rfl⟩ := hheld
  obtain ⟨hmem,hlive⟩ := mem_filter.mp hsession
  obtain ⟨hgiven,hdecoded⟩ := htracked.issued session hmem
  refine ⟨hgiven,session.exp,(verifyRefreshToken_eq_some env).mpr ⟨hdecoded,?_,rfl⟩⟩
  simpa [TokenPayload.expired,ClientSession.live] using hlive

theorem others_stored : sessionHashes env (account.others nowMs presented) <:+
      (hashes userId account).filter fun token => token ≠ hashRefreshToken env presented := by
  have halive := alive_stored htracked nowMs
  have hdistinct : (sessionHashes env (account.alive nowMs)).Nodup := htracked.distinct.sublist halive.sublist
  obtain ⟨held,hmem,rfl⟩ := hheld
  have hothers : sessionHashes env (account.others nowMs held.token) =
      (sessionHashes env (account.alive nowMs)).filter
        fun token => token ≠ hashRefreshToken env held.token := by
    unfold sessionHashes Account.others
    rw [filter_map]
    congr 1
    apply filter_congr
    intro session hsession
    have hinjective := inj_on_of_nodup_map hdistinct hsession hmem
    simp only [Function.comp_apply,decide_eq_decide]
    exact not_congr ⟨fun heq => congrArg _ heq,fun heq => congrArg _ (hinjective heq)⟩
  rw [hothers]
  exact halive.filter _

theorem refresh_of_held (issued : TokenPair) :
    ∃ next, refreshAccessToken env nowMs ⟨presented,issued⟩ account.users = (next,.succeeded) ∧
      (next.lookup userId).isSome = true ∧
      storedHashes next userId = rotatedHashes (hashes userId account) (hashRefreshToken env presented)
        (hashRefreshToken env issued.refreshToken) := by
  obtain ⟨row,hrow⟩ := Option.isSome_iff_exists.mp htracked.exists_row
  obtain ⟨hgiven,exp,hverified⟩ := verified_of_held htracked hheld
  exact refreshAccessToken_of_stored env ⟨presented,issued⟩ hgiven hverified hrow
    (hash_mem_of_held htracked hheld)

end

variable {token : String}

theorem newHash_ne (htracked : Tracked env userId lifetime account)
    (hnew : NewToken env userId lifetime account nowMs token) (hheld : Held account nowMs presented) :
    hashRefreshToken env token ≠ hashRefreshToken env presented :=
  fun heq => hnew.unstored (heq ▸ hash_mem_of_held htracked hheld)

theorem survives_iff (account : Account) (timed : Nat × SessionEvent)
    (hhonest : Honest env userId lifetime account timed) (htracked : Tracked env userId lifetime account) :
    Survives env userId account timed ↔ RoomOrOldest env userId account timed := by
  obtain ⟨nowMs,event⟩ := timed
  cases event with
  | login tokens | logout presented => exact Iff.rfl
  | refresh presented issued =>
    obtain ⟨-,hheld,hnew⟩ := hhonest
    obtain ⟨next,hanswer,-,hrotated⟩ := refresh_of_held htracked hheld issued
    simp only [Survives,RoomOrOldest,hanswer,hrotated,true_and]
    constructor
    · intro hexact
      by_contra hfull
      obtain ⟨oldest,hmem,hne,hlost⟩ :=
        oldest_lost htracked.atMostFive htracked.distinct hnew.unstored hfull
      exact hlost ((hexact oldest).mpr (Or.inr ⟨hmem,hne⟩))
    · intro hroom token
      rw [rotatedHashes_exact htracked.atMostFive (newHash_ne htracked hnew hheld) hroom]
      simp only [mem_append,mem_filter,mem_singleton,decide_eq_true_eq]
      exact or_comm

variable {users : UserTable}

section
variable (htracked : Tracked env userId lifetime account) (hclock : account.nowMs ≤ nowMs)
include htracked hclock

variable {kept : List ClientSession} (hkept : kept.Sublist account.sessions)
  (hrow : (users.lookup userId).isSome = true)
include hkept hrow

theorem tracked_kept (hstored : sessionHashes env kept <:+ storedHashes users userId)
    (hfewer : (storedHashes users userId).Sublist (hashes userId account)) :
    Tracked env userId lifetime ⟨users,kept,nowMs⟩ where
  exists_row := hrow
  stored := hstored
  distinct := htracked.distinct.sublist hfewer
  atMostFive := hfewer.length_le.trans htracked.atMostFive
  issued := fun session hsession => htracked.issued session (hkept.subset hsession)
  ordered := htracked.ordered.sublist hkept
  recent := by
    intro session hsession
    have hrecent := htracked.recent session (hkept.subset hsession)
    have hseconds : account.nowMs / 1000 ≤ nowMs / 1000 := Nat.div_le_div_right hclock
    dsimp only
    omega

theorem tracked_started
    (hstored : sessionHashes env kept ++ [hashRefreshToken env token] <:+ storedHashes users userId)
    (hdistinct : (storedHashes users userId).Nodup) (hfive : (storedHashes users userId).length ≤ 5)
    (hnew : NewToken env userId lifetime account nowMs token) :
    Tracked env userId lifetime ⟨users,kept ++ [startedSession lifetime nowMs token],nowMs⟩ := by
  have hrecent : ∀ session ∈ kept, session.exp ≤ nowMs / 1000 + lifetime := by
    intro session hsession
    have hbefore := htracked.recent session (hkept.subset hsession)
    have hseconds : account.nowMs / 1000 ≤ nowMs / 1000 := Nat.div_le_div_right hclock
    omega
  refine ⟨hrow,?_,hdistinct,hfive,?_,?_,?_⟩
  · rw [sessionHashes,map_append]
    exact hstored
  · intro session hsession
    rcases mem_append.mp hsession with hold | hlast
    · exact htracked.issued session (hkept.subset hold)
    · rw [mem_singleton.mp hlast]
      exact ⟨hnew.given,hnew.decoded⟩
  · refine pairwise_append.mpr ⟨htracked.ordered.sublist hkept,pairwise_singleton _ _,?_⟩
    intro older holder newer hnewer
    rw [mem_singleton.mp hnewer]
    exact hrecent older holder
  · intro session hsession
    rcases mem_append.mp hsession with hold | hlast
    · exact hrecent session hold
    · rw [mem_singleton.mp hlast]
      exact Nat.le_refl _

end

theorem nodup_append_newHash {stored : List String} (hstored : stored.Sublist (hashes userId account))
    (htracked : Tracked env userId lifetime account)
    (hnew : NewToken env userId lifetime account nowMs token) :
    (stored ++ [hashRefreshToken env token]).Nodup := by
  rw [nodup_append]
  refine ⟨htracked.distinct.sublist hstored,nodup_singleton _,?_⟩
  intro old hold new hmem heq
  rw [mem_singleton] at hmem
  subst hmem
  exact hnew.unstored (heq ▸ hstored.subset hold)

theorem others_sublist (account : Account) (nowMs : Nat) (presented : String) :
    (account.others nowMs presented).Sublist account.sessions :=
  filter_sublist.trans filter_sublist

theorem tracked_login {tokens : TokenPair}
    (hhonest : Honest env userId lifetime account (nowMs,.login tokens))
    (htracked : Tracked env userId lifetime account) :
    Tracked env userId lifetime (sessionStep env userId lifetime account (nowMs,.login tokens)) := by
  obtain ⟨hclock,hroom,hnew⟩ := hhonest
  obtain ⟨row,hrow⟩ := Option.isSome_iff_exists.mp htracked.exists_row
  obtain ⟨next,document,hok,hsome,hhashes⟩ := applyUpdate_persist env nowMs hrow tokens
  have hstored := hhashes userId
  rw [if_pos rfl] at hstored
  simp only [sessionStep,persistSessionTokens,hok]
  refine tracked_started htracked hclock filter_sublist hsome ?_ ?_ ?_ hnew
  · rw [hstored]
    refine suffix_pushedHashes (alive_stored htracked nowMs) ?_ _
    rwa [sessionHashes,length_map]
  · rw [hstored]
    exact (nodup_append_newHash (List.Sublist.refl _) htracked hnew).sublist
      (pushedHashes_suffix ..).sublist
  · rw [hstored,length_pushedHashes]
    exact Nat.min_le_right ..

theorem tracked_refresh {issued : TokenPair}
    (hhonest : Honest env userId lifetime account (nowMs,.refresh presented issued))
    (hsurvives : Survives env userId account (nowMs,.refresh presented issued))
    (htracked : Tracked env userId lifetime account) : Tracked env userId lifetime
      (sessionStep env userId lifetime account (nowMs,.refresh presented issued)) := by
  have hroom := (survives_iff account _ hhonest htracked).mp hsurvives
  obtain ⟨hclock,hheld,hnew⟩ := hhonest
  obtain ⟨next,hanswer,hsome,hrotated⟩ := refresh_of_held htracked hheld issued
  rw [rotatedHashes_exact htracked.atMostFive (newHash_ne htracked hnew hheld) hroom] at hrotated
  simp only [sessionStep,hanswer,succeeded,↓reduceIte]
  refine tracked_started htracked hclock (others_sublist ..) hsome ?_ ?_ ?_ hnew
  · rw [hrotated]
    obtain ⟨stale,hstale⟩ := others_stored htracked hheld
    exact ⟨stale,by rw [← append_assoc,hstale]⟩
  · rw [hrotated]
    exact nodup_append_newHash filter_sublist htracked hnew
  · have hshorter : ((hashes userId account).filter
        fun token => token ≠ hashRefreshToken env presented).length < (hashes userId account).length := by
      apply length_filter_lt_length_iff_exists.mpr
      exact ⟨_,hash_mem_of_held htracked hheld,by simp⟩
    rw [hrotated,length_append,length_singleton]
    exact Nat.le_trans hshorter htracked.atMostFive

theorem tracked_logout (hhonest : Honest env userId lifetime account (nowMs,.logout presented))
    (htracked : Tracked env userId lifetime account) :
    Tracked env userId lifetime (sessionStep env userId lifetime account (nowMs,.logout presented)) := by
  obtain ⟨hclock,hheld | hunverified⟩ := hhonest
  · obtain ⟨row,hrow⟩ := Option.isSome_iff_exists.mp htracked.exists_row
    obtain ⟨hgiven,exp,hverified⟩ := verified_of_held htracked hheld
    obtain ⟨next,hok,hsome,hstored⟩ := removeRefreshToken_of_stored env nowMs hrow
      (hash_mem_of_held htracked hheld)
    simp only [sessionStep,logout,hgiven,hverified,Bool.false_eq_true,↓reduceIte,hok]
    refine tracked_kept htracked hclock (others_sublist ..) hsome ?_ ?_
    · rw [hstored]
      exact others_stored htracked hheld
    · rw [hstored]
      exact filter_sublist
  · -- The token of a live session verifies, so none is dropped here.
    have hothers : account.others nowMs presented = account.alive nowMs := by
      apply filter_eq_self.mpr
      intro session hsession
      rw [decide_eq_true_eq]
      intro heq
      obtain ⟨-,exp,hverified⟩ := verified_of_held htracked ⟨session,hsession,heq⟩
      rw [hunverified] at hverified
      contradiction
    simp only [sessionStep,logout,hunverified,ite_self,hothers]
    exact tracked_kept htracked hclock filter_sublist htracked.exists_row
      (alive_stored htracked nowMs) (List.Sublist.refl _)

theorem tracked_step (account : Account) (timed : Nat × SessionEvent)
    (hhonest : Honest env userId lifetime account timed) (hsurvives : Survives env userId account timed)
    (htracked : Tracked env userId lifetime account) :
    Tracked env userId lifetime (sessionStep env userId lifetime account timed) := by
  obtain ⟨nowMs,event⟩ := timed
  cases event with
  | login tokens => exact tracked_login hhonest htracked
  | refresh presented issued => exact tracked_refresh hhonest hsurvives htracked
  | logout presented => exact tracked_logout hhonest htracked

end

/-- In a run of honest clients, one request after the other, every refresh
succeeds and replaces exactly the presented hash if and only if every refresh
finds room in the stored list or presents its oldest token. -/
theorem sessions_survive_iff_roomOrOldest (account : Account) (events : List (Nat × SessionEvent))
    (htracked : Tracked env userId lifetime account)
    (hhonest : Along (sessionStep env userId lifetime) (Honest env userId lifetime) account events) :
    Along (sessionStep env userId lifetime) (Survives env userId) account events ↔
      Along (sessionStep env userId lifetime) (RoomOrOldest env userId) account events :=
  along_congr tracked_step survives_iff hhonest htracked

end

/-! ## A run that loses a session -/

def samplePair (index : Fin 7) : TokenPair := ⟨sampleToken index,some "00000000-0000-4000-8000-000000000000"⟩

def fiveLogins : List (Nat × SessionEvent) :=
  ([0,1,2,3,4].map samplePair).map fun pair => (1700000000000,.login pair)

def twoRefreshes : List (Nat × SessionEvent) := [(1700000000000,.refresh (sampleToken 1) (samplePair 5)),
    (1700000000000,.refresh (sampleToken 0) (samplePair 6))]

def newAccount : Account := ⟨accountTable [],[],0⟩
def sampleLifetime : Nat := 604800
def sampleSession (index : Fin 7) : ClientSession := ⟨sampleToken index,1700604800⟩
def fullAccount : Account := run (sessionStep sampleSessionEnv "u1" sampleLifetime) newAccount fiveLogins
def refreshedAccount : Account := sessionStep sampleSessionEnv "u1" sampleLifetime fullAccount
    (1700000000000,.refresh (sampleToken 1) (samplePair 5))

/-- After the second client's refresh the first client's session is alive, and
its hash is gone. -/
example : refreshedAccount.alive 1700000000000 = [0,2,3,4,5].map sampleSession ∧
    hashes "u1" refreshedAccount = [2,3,4,5].map sampleDigest := by
  decide +kernel

theorem tracked_newAccount : Tracked sampleSessionEnv "u1" sampleLifetime newAccount := by
  refine ⟨?_,nil_suffix,?_,?_,by simp [newAccount],List.Pairwise.nil,by simp [newAccount]⟩
  all_goals decide +kernel

theorem honest_sampleRun : Along (sessionStep sampleSessionEnv "u1" sampleLifetime)
      (Honest sampleSessionEnv "u1" sampleLifetime) newAccount (fiveLogins ++ twoRefreshes) := by
  decide +kernel

theorem sessions_survive_iff_sampleRun :
    Along (sessionStep sampleSessionEnv "u1" sampleLifetime) (Survives sampleSessionEnv "u1") newAccount
        (fiveLogins ++ twoRefreshes) ↔
      Along (sessionStep sampleSessionEnv "u1" sampleLifetime) (RoomOrOldest sampleSessionEnv "u1")
        newAccount (fiveLogins ++ twoRefreshes) :=
  sessions_survive_iff_roomOrOldest sampleSessionEnv "u1" sampleLifetime newAccount
    (fiveLogins ++ twoRefreshes) tracked_newAccount honest_sampleRun

/-- Five clients log in, the second refreshes, and the first one's refresh is
then refused as a reuse: all sessions are invalidated. -/
theorem first_client_refused : Tracked sampleSessionEnv "u1" sampleLifetime newAccount ∧
      Along (sessionStep sampleSessionEnv "u1" sampleLifetime)
        (Honest sampleSessionEnv "u1" sampleLifetime) newAccount (fiveLogins ++ twoRefreshes) ∧
      ¬Along (sessionStep sampleSessionEnv "u1" sampleLifetime) (Survives sampleSessionEnv "u1")
        newAccount (fiveLogins ++ twoRefreshes) ∧
      (refreshAccessToken sampleSessionEnv 1700000000000 ⟨sampleToken 0,samplePair 6⟩
        refreshedAccount.users).2 = .refused sessionInvalidated := by
  have hrefused : (refreshAccessToken sampleSessionEnv 1700000000000 ⟨sampleToken 0,samplePair 6⟩
      refreshedAccount.users).2 = .refused sessionInvalidated := by
    decide +kernel
  refine ⟨tracked_newAccount,honest_sampleRun,?_,hrefused⟩
  intro hsurvives
  have hlast := ((along_append _ _ _ _ _).mp hsurvives).2.2.1.1
  exact absurd (hrefused.symm.trans hlast) (by simp)

end Routiq.Uam.HonestSessions
