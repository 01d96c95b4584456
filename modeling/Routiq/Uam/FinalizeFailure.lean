import Routiq.Uam.Migration

/-! What a finalisation that does not succeed leaves behind. It deletes the
account that has the new address before it moves its own, prunes the index after
the move, and deletes again where it meets a duplicate address; nothing is undone
when a later statement is refused. -/
namespace Routiq.Uam.FinalizeFailure
open Core Function Runs Processes Actions Users IdentityIndex Commands Option AccountRequests Migration
open Session (TokenPair)

/-! ## Deletions -/

def Lost (before after : World) : Prop :=
  (∃ id, (before.users.lookup id).isSome = true ∧ after.users.lookup id = none) ∨
    ∃ key, (before.index key).isSome = true ∧ after.index key = none

def deletes : Command → Bool
  | .sql (.findByIdAndDelete _) => true
  | .sql (.deleteIndex _ _) => true
  | _ => false

variable {world : World}

theorem isSome_index_of_not_deletes (hashPassword : String → String) (nowMs : Nat) {statement : Statement}
    (hdeletes : deletes (.sql statement) = false) {key : String} (hentry : (world.index key).isSome = true) :
    ((execStatement hashPassword nowMs world statement).2.index key).isSome = true := by
  have hput : ∀ changed entry, (Function.update world.index changed (some entry) key).isSome = true := by
    intro changed entry
    by_cases hkey : key = changed
    · rw [hkey,update_self]
      rfl
    · rw [update_of_ne hkey]
      exact hentry
  unfold execStatement
  split
  · exact hentry
  · exact hentry
  · split <;> exact hentry
  · split <;> exact hentry
  · split
    · split <;> exact hentry
    · exact hentry
  · contradiction
  · exact hentry
  · split
    · exact hentry
    · split
      · exact hput _ _
      · exact hentry
  · split
    · exact hput _ _
    · exact hentry
  · contradiction

variable {command : Command}

theorem not_lost_of_not_deletes {hashPassword : String → String} {input : Input}
    (hdeletes : deletes command = false) : ¬Lost world (exec hashPassword input world command).2 := by
  rintro (⟨id,hbefore,hafter⟩ | ⟨key,hbefore,hafter⟩)
  · have heffect := rowEffect_exec hashPassword input world command id
    rw [hafter] at heffect
    generalize world.users.lookup id = row at heffect hbefore
    generalize hnone : (none : Option Row) = after at heffect
    cases heffect with
    | same => simp [← hnone] at hbefore
    | saved document hid | updated tokenVersion update => simp [map_eq_none_iff.mp hnone.symm] at hbefore
    | inserted uuid data hid habsent created | deleted => contradiction
  · have hkept : ((exec hashPassword input world command).2.index key).isSome = true := by
      cases command with
      | sql statement =>
        have hstatement := isSome_index_of_not_deletes hashPassword input.nowMs hdeletes hbefore
        simp only [exec]
        cases input.database with
        | answered => exact hstatement
        | failed applied =>
          cases applied with
          | true => exact hstatement
          | false => exact hbefore
      | cacheSet _ _ _ | cacheDel _ | sendEmail _ =>
        simp only [exec]
        split <;> exact hbefore
      | cacheGet _ | memoryTake _ | memoryPut _ _ _ | revoke _ => exact hbefore
    rw [hafter] at hkept
    contradiction

theorem not_lost_self : ¬Lost world world := by
  rintro (⟨id,hbefore,hafter⟩ | ⟨key,hbefore,hafter⟩)
  · simp [hafter] at hbefore
  · simp [hafter] at hbefore

/-! ## Hindrances -/

/-- The statement throws, or does not find the row it is for. -/
def refused : (command : Command) → Result command → Bool
  | .sql (.findById _ _), .ok none => true
  | .sql (.findOneAndUpdate _ _ _), .ok none => true
  | .sql _, .error _ => true
  | _, _ => false

def conflicts : (command : Command) → Result command → Bool
  | .sql _, .error (.duplicateKey (some _)) => true
  | _, _ => false

/-- Whether the request has deleted anything, and whether it was hindered: by a
refusal since then, or by another account with the address. -/
structure Deletion where
  (begun hindered : Bool)

section
variable (stage : Deletion)

def Deletion.next (command : Command) (answer : Result command) : Deletion where
  begun := stage.begun || deletes command
  hindered := stage.hindered || conflicts command answer ||
    (stage.begun || deletes command) && refused command answer

section
variable {Value : Type}

abbrev Guided (post : Deletion → Except Failure Value → Prop) (stage : Deletion)
    (action : UamAction Value) : Prop :=
  Guides Possible .next (fun _ _ => True) post stage action

def NoConflict (failure : Failure) : Prop := ∀ email, failure ≠ .duplicateKey (some email)

/-- A postcondition that asks nothing of a request that was hindered, and
nothing of one that throws before it has deleted anything. -/
structure Lenient (stage : Deletion) (post : Deletion → Except Failure Value → Prop) : Prop where
  hindered : ∀ after outcome, after.hindered = true → post after outcome
  thrown : ∀ failure, stage.begun = false → NoConflict failure → post stage (.error failure)

def Kept (stage after : Deletion) (outcome : Except Failure Value) : Prop :=
  after.hindered = true ∨
    after = stage ∧ ∀ failure, outcome = .error failure → stage.begun = false ∧ NoConflict failure

def Ended : Except Failure Response → Prop
  | .ok response => stage.hindered = true ∨ (stage.begun = true → response.status = 200)
  | .error failure => stage.hindered = true ∨ stage.begun = false ∧ NoConflict failure

def Settled : Except Failure Response → Prop
  | .ok response => stage.hindered = true ∨ (stage.begun = true → response.status = 200)
  | .error _ => True

theorem lenient_kept (stage : Deletion) :
    Lenient stage (Kept stage : Deletion → Except Failure Value → Prop) where
  hindered _ _ hhindered := .inl hhindered
  thrown failure hbegun hconflict := by
    refine .inr ⟨rfl,?_⟩
    rintro _ ⟨⟩
    exact ⟨hbegun,hconflict⟩

end

theorem lenient_ended : Lenient stage Ended where
  hindered after outcome hhindered := by cases outcome <;> exact .inl hhindered
  thrown failure hbegun hconflict := .inr ⟨hbegun,hconflict⟩

end

variable {failure : Failure} {user : Document} {userId : String} {issued : TokenPair} {env : MigrationEnv}

section Rules
variable {Value Other : Type} {stage : Deletion} {post : Deletion → Except Failure Value → Prop}

theorem follows_always {post : Deletion → Except Failure Value × Nat → Prop}
    (hpost : ∀ after outcome, post after outcome)
    {process : Process Command (Timed Result) (Except Failure Value × Nat)} :
    (untimed Possible .next fun _ _ => True).Follows post stage process := by
  induction process generalizing stage with
  | done value => exact hpost _ _
  | call command next ih => exact ⟨trivial,fun answer _ => ih answer⟩

theorem guided_hindered {action : UamAction Value}
    (hpost : ∀ after outcome, after.hindered = true → post after outcome)
    (hstage : stage.hindered = true) : Guided post stage action := by
  intro nowMs
  generalize action nowMs = process
  induction process generalizing stage with
  | done value => exact hpost _ _ hstage
  | call command next ih =>
    refine ⟨trivial,?_⟩
    intro answer _
    apply ih
    simp [untimed,Deletion.next,hstage]

theorem Lenient.bind (hlenient : Lenient stage post) {action : UamAction Other}
    {rest : Other → UamAction Value} (haction : Guided (Kept stage) stage action)
    (hrest : ∀ value, Guided post stage (rest value)) : Guided post stage (action >>= rest) := by
  refine .bind (.mono haction ?_)
  intro after outcome hkept
  rcases hkept with hhindered | ⟨rfl,hthrown⟩
  · cases outcome with
    | ok value => exact guided_hindered hlenient.hindered hhindered
    | error failure => exact hlenient.hindered _ _ hhindered
  · cases outcome with
    | ok value => exact hrest value
    | error failure =>
      obtain ⟨hbegun,hconflict⟩ := hthrown failure rfl
      exact hlenient.thrown failure hbegun hconflict

theorem kept_pure {value : Value} : Guided (Kept stage) stage (pure value : UamAction Value) :=
  guides_pure.mpr (.inr ⟨rfl,nofun⟩)

variable {statement : Statement}

theorem refused_error (failure : Failure) : refused (.sql statement) (.error failure) = true := by
  cases statement <;> rfl

section
variable (stage : Deletion) (statement : Statement)

def Deletion.after : Deletion :=
  { stage with begun := stage.begun || deletes (.sql statement) }

theorem next_cases (answer : Result (.sql statement)) : (stage.next (.sql statement) answer).hindered = true ∨
      stage.next (.sql statement) answer = stage.after statement ∧ conflicts (.sql statement) answer = false ∧
        ((stage.begun || deletes (.sql statement)) = true → refused (.sql statement) answer = false) := by
  cases hnext : (stage.next (.sql statement) answer).hindered with
  | true => exact .inl rfl
  | false =>
    refine .inr ?_
    simp only [Deletion.next,Bool.or_eq_false_iff,Bool.and_eq_false_iff] at hnext
    obtain ⟨⟨hstage,hconflict⟩,hrefused⟩ := hnext
    refine ⟨?_,hconflict,?_⟩
    · simp only [Deletion.next,Deletion.after,hstage,hconflict,Bool.false_or,Deletion.mk.injEq,true_and]
      rcases hrefused with hbegun | hrefused
      · simp [hbegun]
      · simp [hrefused]
    · intro hbegun
      rcases hrefused with hnone | hrefused
      · simp [hnone] at hbegun
      · exact hrefused

end

theorem Lenient.query_bind (hlenient : Lenient stage post) {rest : statement.Out → UamAction Value}
    (hrest : ∀ value : statement.Out, Possible (.sql statement) (.ok value) →
      ((stage.begun || deletes (.sql statement)) = true → refused (.sql statement) (.ok value) = false) →
      Guided post (stage.after statement) (rest value)) : Guided post stage (query statement >>= rest) := by
  refine guides_query_bind.mpr ⟨trivial,?_,?_⟩
  · intro value hpossible
    rcases next_cases stage statement (.ok value) with hhindered | ⟨hnext,_,hrefused⟩
    · exact guided_hindered hlenient.hindered hhindered
    · rw [hnext]
      exact hrest value hpossible hrefused
  · intro failure
    rcases next_cases stage statement (.error failure) with hhindered | ⟨hnext,hconflict,hrefused⟩
    · exact hlenient.hindered _ _ hhindered
    · have hbegun : (stage.begun || deletes (.sql statement)) = false := by
        rw [← Bool.not_eq_true]
        intro hbegun
        rw [refused_error] at hrefused
        exact absurd (hrefused hbegun) (by decide)
      have hafter : stage.after statement = stage := by
        rw [Deletion.after,hbegun,← (Bool.or_eq_false_iff.mp hbegun).1]
      rw [hnext,hafter]
      refine hlenient.thrown failure (Bool.or_eq_false_iff.mp hbegun).1 ?_
      rintro email rfl
      contradiction

theorem kept_query (hstage : deletes (.sql statement) = true → stage.begun = true) :
    Guided (Kept stage) stage (query statement) := by
  have hafter : stage.after statement = stage := by
    cases hdeletes : deletes (.sql statement) with
    | true =>
      obtain ⟨begun,hindered⟩ := stage
      obtain rfl : begun = true := hstage hdeletes
      rfl
    | false => simp [Deletion.after,hdeletes]
  have hbind : query statement = query statement >>= pure := (bind_pure _).symm
  rw [hbind]
  refine (lenient_kept stage).query_bind ?_
  intro value _ _
  rw [hafter]
  exact kept_pure

theorem kept_now : Guided (Kept stage) stage (.now : UamAction Nat) :=
  fun _ => .inr ⟨rfl,nofun⟩

theorem kept_perform (hnext : ∀ answer, stage.next command answer = stage) :
    Guided (Kept stage) stage (.perform command : UamAction (Result command)) :=
  fun _ => ⟨trivial,fun answer _ => .inr ⟨hnext answer.1,nofun⟩⟩

/-! ## Parts of the finalisation -/

theorem upsertEntries_kept (entries : List (String × IndexEntry)) :
    Guided (Kept stage) stage (upsertEntries entries) := by
  induction entries with
  | nil => exact kept_pure
  | cons entry entries ih =>
    refine (lenient_kept stage).bind ?_ fun _ => ih
    refine (lenient_kept stage).bind (kept_query nofun) ?_
    intro found
    cases found with
    | none | some _ => exact kept_query nofun

theorem Lenient.continues (hlenient : Lenient stage post) (rest : Other → UamAction Value) :
    Lenient stage (Continues Possible .next (fun _ _ => True) post rest) where
  hindered after outcome hhindered := by
    cases outcome with
    | ok value => exact guided_hindered hlenient.hindered hhindered
    | error failure => exact hlenient.hindered _ _ hhindered
  thrown := hlenient.thrown

variable {account : AccountEnv}

theorem sync_bind (hlenient : Lenient stage post)
    {rest : Unit → UamAction Value} (hrest : ∀ done, Guided post { stage with begun := true } (rest done)) :
    Guided post stage (AccountRequests.syncIdentityIndexesFromUser account user >>= rest) := by
  have hcontinues := hlenient.continues rest
  refine Guides.bind ?_
  refine hcontinues.bind kept_now ?_
  intro nowMs
  refine hcontinues.bind (upsertEntries_kept _) ?_
  intro _
  refine guides_attempt.mpr ⟨trivial,?_⟩
  intro answer _
  rcases next_cases stage _ answer with hhindered | ⟨hnext,hconflict,hrefused⟩
  · exact hcontinues.hindered _ _ hhindered
  · cases answer with
    | ok done =>
      have hafter : stage.after (.deleteIndex user.id.val
          ((impliedEntries account.identity nowMs user).map Prod.fst)) = { stage with begun := true } := by
        simp [Deletion.after,deletes]
      rw [hnext,hafter]
      exact hrest done
    | error failure => exact absurd (hrefused (by simp [deletes])) (by simp [refused_error])

theorem persistSessionTokens_kept
    {version : Int} : Guided (Kept stage) stage (persistSessionTokens account userId issued version) := by
  have hset : ∀ key value ttl, Guided (Kept stage) stage (cacheSet key value ttl) :=
    fun key value ttl => kept_perform fun _ => by simp [Deletion.next,deletes,conflicts,refused]
  have hget : ∀ key, Guided (Kept stage) stage (cacheGet key) :=
    fun key => kept_perform fun _ => by simp [Deletion.next,deletes,conflicts,refused]
  refine (lenient_kept stage).bind (kept_query nofun) ?_
  intro _
  refine (lenient_kept stage).bind ?_ fun _ => kept_pure
  refine (lenient_kept stage).bind (hset _ _ _) ?_
  intro available
  cases available with
  | true => exact (lenient_kept stage).bind (hget _) fun _ => kept_pure
  | false => exact kept_pure

theorem checkBio_kept {bio : String} : Guided (Kept stage) stage (checkBio userId bio) := by
  refine (lenient_kept stage).bind (kept_query nofun) ?_
  intro found
  cases found with
  | none => exact kept_pure
  | some user =>
    dsimp only
    split
    · exact kept_pure
    · exact (lenient_kept stage).bind (kept_query nofun) fun _ => kept_pure

theorem findUserByPrimaryEmail_kept {email : String} :
    Guided (Kept stage) stage (findUserByPrimaryEmail env email) := by
  have hid : Guided (Kept stage) stage (findUserIdByPrimaryEmail env email) := by
    refine (lenient_kept stage).bind (kept_query nofun) ?_
    intro entry
    exact (lenient_kept stage).bind kept_now fun _ => kept_pure
  refine (lenient_kept stage).bind hid ?_
  intro userId
  cases userId with
  | none => exact kept_pure
  | some userId =>
    dsimp only
    split
    · exact kept_pure
    · exact kept_query nofun

end Rules

/-! ## The finalisation -/

variable {response : Response}

section Finalisation
variable {env : MigrationEnv} {stage : Deletion}

theorem ended_pure (hstatus : stage.begun = true → response.status = 200) :
    Guided Ended stage (pure response) := guides_pure.mpr (.inr hstatus)

variable {currentUser : Document} {newEmail : String} {issued : TokenPair}

theorem mergeAccounts_ended {existing : Document} :
    Guided Ended stage (mergeAccounts env currentUser existing newEmail issued) := by
  refine (lenient_ended stage).query_bind ?_
  intro _ _ _
  -- From here on every refusal is a hindrance.
  generalize hbegun : stage.after (.deleteIndex existing.id.val []) = begun
  obtain hstarted : begun.begun = true := by rw [← hbegun]; simp [Deletion.after,deletes]
  have hlenient := lenient_ended begun
  refine hlenient.bind (kept_query fun _ => hstarted) ?_
  intro _
  refine hlenient.bind kept_now ?_
  intro nowMs
  refine hlenient.query_bind ?_
  intro found _ hfound
  rw [show begun.after _ = begun by simp [Deletion.after,deletes]]
  cases found with
  | none => exact absurd (hfound (by simp [hstarted])) (by simp [refused])
  | some updated =>
    refine hlenient.bind kept_now ?_
    intro laterMs
    refine hlenient.bind (kept_query nofun) ?_
    intro saved
    refine sync_bind hlenient ?_
    intro _
    refine (lenient_ended _).bind checkBio_kept ?_
    intro _
    exact (lenient_ended _).bind persistSessionTokens_kept fun _ => ended_pure fun _ => rfl

theorem updateAccount_ended (hclean : stage.begun = false) :
    Guided Ended stage (updateAccount env currentUser newEmail issued) := by
  have hlenient := lenient_ended stage
  refine hlenient.bind kept_now ?_
  intro nowMs
  refine hlenient.bind (kept_query nofun) ?_
  intro found
  cases found with
  | none => exact ended_pure (by simp [hclean])
  | some updated =>
    refine hlenient.bind kept_now ?_
    intro laterMs
    refine hlenient.bind (kept_query nofun) ?_
    intro saved
    refine sync_bind hlenient ?_
    intro _
    exact (lenient_ended _).bind persistSessionTokens_kept fun _ => ended_pure fun _ => rfl

theorem moveAccount_ended (hclean : stage.begun = false) :
    Guided Ended stage (moveAccount env userId newEmail issued) := by
  have hlenient := lenient_ended stage
  refine hlenient.bind (kept_query nofun) ?_
  intro found
  cases found with
  | none => exact ended_pure (by simp [hclean])
  | some user =>
    refine hlenient.bind kept_now ?_
    intro nowMs
    refine hlenient.bind (kept_query nofun) ?_
    intro saved
    refine sync_bind hlenient ?_
    intro _
    have hbegun := lenient_ended { stage with begun := true }
    refine hbegun.bind checkBio_kept ?_
    intro _
    refine hbegun.bind (kept_query nofun) ?_
    intro _
    refine hbegun.bind persistSessionTokens_kept ?_
    intro _
    refine hbegun.query_bind ?_
    intro final _ hfound
    cases final with
    | none => exact absurd (hfound rfl) (by simp [refused])
    | some final => exact ended_pure fun _ => rfl

variable {user : Document}

theorem finalizeAddress_ended (hclean : stage.begun = false) :
    Guided Ended stage (finalizeAddress env user currentUser issued) := by
  unfold finalizeAddress
  split
  · exact ended_pure (by simp [hclean])
  · refine (lenient_ended stage).bind findUserByPrimaryEmail_kept ?_
    intro found
    cases found with
    | none => exact moveAccount_ended hclean
    | some existing =>
      dsimp only
      split
      · exact updateAccount_ended hclean
      · exact mergeAccounts_ended

theorem migrationFailed_settled (hended : Ended stage (.error failure)) :
    Guided Settled stage (migrationFailed env user failure) := by
  have hlenient : ∀ after outcome, after.hindered = true → Settled after outcome := by
    intro after outcome hhindered
    cases outcome with
    | ok response => exact .inl hhindered
    | error error => trivial
  rcases hended with hhindered | ⟨hclean,hconflict⟩
  · exact guided_hindered hlenient hhindered
  · cases failure with
    | rejected => exact guides_pure.mpr (.inr (by simp [hclean]))
    | duplicateKey email =>
      cases email with
      | none => exact guides_pure.mpr (.inr (by simp [hclean]))
      | some email => exact absurd rfl (hconflict email)

theorem finalizeMigrationInternal_settled (hclean : stage.begun = false) :
    Guided Settled stage (finalizeMigrationInternal env user issued) := by
  refine .tryCatch (.mono (?_ : Guided Ended stage _) ?_)
  · split
    · exact ended_pure (by simp [hclean])
    · refine (lenient_ended stage).bind (kept_query nofun) ?_
      intro found
      cases found with
      | none => exact ended_pure (by simp [hclean])
      | some currentUser =>
        dsimp only
        split
        · exact ended_pure (by simp [hclean])
        · exact finalizeAddress_ended hclean
  · intro after outcome hended
    cases outcome with
    | ok response => exact hended
    | error failure => exact migrationFailed_settled hended

end Finalisation

/-! ## Every interleaving -/

section Systems
variable {Index : Type} [DecidableEq Index]

abbrev Request : Type := Process Command (Timed Result) (Except Failure Response × Nat)

def finalising (env : MigrationEnv) (finalizing : Index) (user : Document) (issued : TokenPair) (arrival : Nat)
    (others : Index → Request) (world : World) : MigrationSystem Index :=
  .start world (Function.update others finalizing (finalizeMigrationInternal env user issued arrival))

section
variable (system : MigrationSystem Index) (index : Index)

def hasDeleted : Bool :=
  (system.trace index).any fun entry => deletes entry.1

/-- The next statement of the finalisation meets no other account that has the
address it writes, and it is not refused if it deletes or comes after a deletion. -/
def Unhindered (hashPassword : String → String) (finalizing : Index) (system : MigrationSystem Index)
    (event : Index × Input) : Prop :=
  event.1 = finalizing → ∀ command, (system.processes finalizing).pending = some command →
    conflicts command (exec hashPassword event.2 system.world command).1 = false ∧
      (hasDeleted system finalizing = true ∨ deletes command = true →
        refused command (exec hashPassword event.2 system.world command).1 = false)

def initial (_ : Index) : Deletion := ⟨false,false⟩
def deletions : Protocol Command (Timed Result) Deletion := untimed Possible .next fun _ _ => True

theorem begun_stageAfter (stage : Deletion) (entries : List (Entry Command (Timed Result))) :
    (deletions.stageAfter stage entries).begun = (stage.begun || entries.any fun entry => deletes entry.1) := by
  induction entries generalizing stage with
  | nil => simp [Protocol.stageAfter]
  | cons entry entries ih =>
    have hnext := ih (stage.next entry.1 entry.2.1)
    simp only [List.any_cons,← Bool.or_assoc]
    exact hnext

theorem begun_stages : (deletions.stages initial system index).begun = hasDeleted system index :=
  begun_stageAfter ⟨false,false⟩ (system.trace index)

end

variable {hashPassword : String → String} {finalizing : Index} {system : MigrationSystem Index}
  {input : Input} {index : Index} {next : Timed Result command → Request}

theorem hasDeleted_perform
    (hdeleted : hasDeleted system finalizing = true ∨ index = finalizing ∧ deletes command = true) :
    hasDeleted (system.perform (machine hashPassword) input index command next) finalizing = true := by
  unfold hasDeleted at hdeleted ⊢
  by_cases hindex : finalizing = index
  · subst hindex
    rw [System.trace_perform_self,List.any_append,Bool.or_eq_true]
    rcases hdeleted with hdeleted | ⟨_,hcommand⟩
    · exact .inl hdeleted
    · exact .inr (by simpa using hcommand)
  · rw [System.trace_perform_other _ _ _ _ _ hindex]
    rcases hdeleted with hdeleted | ⟨heq,_⟩
    · exact hdeleted
    · exact absurd heq.symm hindex

theorem hasDeleted_run (hashPassword : String → String) (events : List (Index × Input))
    (hdeleted : hasDeleted system finalizing = true) :
    hasDeleted (run (.step (machine hashPassword)) system events) finalizing = true := by
  have hstep : ∀ (system : MigrationSystem Index) (event : Index × Input),
      hasDeleted system finalizing = true →
      hasDeleted (system.step (machine hashPassword) event) finalizing = true := by
    intro system event hbefore
    rcases system.step_cases (machine hashPassword) event with hsame | ⟨command,next,_,_,hperform⟩
    · rw [hsame]
      exact hbefore
    · rw [hperform]
      exact hasDeleted_perform (.inl hbefore)
  exact invariant_run_always hstep events hdeleted

theorem hindered_perform
    (hprocess : system.processes index = .call command next)
    (hunhindered : Unhindered hashPassword finalizing system (index,input))
    (hstage : (deletions.stages initial system finalizing).hindered = false) :
    (deletions.stages initial (system.perform (machine hashPassword) input index command next)
      finalizing).hindered = false := by
  rw [Protocol.stages_perform]
  by_cases hindex : finalizing = index
  · subst hindex
    rw [update_self]
    obtain ⟨hconflict,hrefused⟩ := hunhindered rfl command (by rw [hprocess,Process.pending_call])
    rw [← begun_stages] at hrefused
    have hlast : (((deletions.stages initial system finalizing).begun || deletes command) &&
        refused command (exec hashPassword input system.world command).1) = false := by
      rw [← Bool.not_eq_true,Bool.and_eq_true,Bool.or_eq_true]
      rintro ⟨hbegun,hanswer⟩
      rw [hrefused hbegun] at hanswer
      contradiction
    simp only [deletions,untimed,Deletion.next,machine] at hlast hstage ⊢
    simp [hstage,hconflict,hlast]
  · rw [update_of_ne hindex]
    exact hstage

theorem hasDeleted_of_lost
    (hlost : Lost system.world (system.step (machine hashPassword) (finalizing,input)).world) :
    hasDeleted (system.step (machine hashPassword) (finalizing,input)) finalizing = true := by
  rcases system.step_cases (machine hashPassword) (finalizing,input) with
    hsame | ⟨command,next,_,_,hperform⟩
  · rw [hsame] at hlost
    exact absurd hlost not_lost_self
  · rw [hperform] at hlost ⊢
    refine hasDeleted_perform (.inr ⟨rfl,?_⟩)
    rw [← Bool.not_eq_false]
    intro hkept
    exact not_lost_of_not_deletes hkept hlost

def finalizationPost (finalizing index : Index) (stage : Deletion) (outcome : Except Failure Response × Nat) :
    Prop := index = finalizing → Settled stage outcome.1

theorem finalising_follows (env : MigrationEnv) (finalizing : Index) (user : Document) (issued : TokenPair)
    (arrival : Nat) (others : Index → Request) (world : World) :
    deletions.Following initial (finalizationPost finalizing)
      (finalising env finalizing user issued arrival others world) := by
  intro index
  by_cases hindex : index = finalizing
  · subst hindex
    have hprocess : (finalising env index user issued arrival others world).processes index =
        finalizeMigrationInternal env user issued arrival := update_self _ _ _
    rw [hprocess]
    exact (finalizeMigrationInternal_settled rfl arrival).mono fun _ _ hsettled _ => hsettled
  · exact follows_always fun _ _ heq => absurd heq hindex

abbrev proceed (env : MigrationEnv) : MigrationSystem Index → List (Index × Input) → MigrationSystem Index :=
  run (.step (machine env.account.session.hashPassword))

theorem succeeded_of_hasDeleted {arrival : Nat}
    {others : Index → Request} {world : World} {events : List (Index × Input)}
    (hunhindered : Along (System.step (machine env.account.session.hashPassword))
      (Unhindered env.account.session.hashPassword finalizing)
      (finalising env finalizing user issued arrival others world) events)
    (hresponse : responseOf (proceed env (finalising env finalizing user issued arrival others world) events)
      finalizing = some response)
    (hdeleted : hasDeleted (proceed env (finalising env finalizing user issued arrival others world) events)
      finalizing = true) : response.status = 200 := by
  have hperform : ∀ (system : MigrationSystem Index) (index : Index) (input : Input) (command : Command)
      (next : Timed Result command → Request),
      deletions.Following initial (finalizationPost finalizing) system →
      system.processes index = .call command next →
      Unhindered env.account.session.hashPassword finalizing system (index,input) →
      (deletions.stages initial system finalizing).hindered = false →
      (deletions.stages initial (system.perform (machine env.account.session.hashPassword) input index
        command next) finalizing).hindered = false :=
    fun _ _ _ _ _ _ hprocess hevent hstage => hindered_perform hprocess hevent hstage
  obtain ⟨hfollowing,hstage⟩ := Protocol.Following.run_invariant
    (machine_serves env.account.session.hashPassword Deletion.next fun _ _ => True) hperform hunhindered
    (finalising_follows env finalizing user issued arrival others world) rfl
  obtain ⟨nowMs,hresult⟩ := result_of_response hresponse
  rw [← begun_stages] at hdeleted
  rcases hfollowing.settled hresult rfl with hhindered | hstatus
  · exact absurd (hhindered.symm.trans hstage) (by decide)
  · exact hstatus hdeleted

/-- A finalisation that does not succeed has deleted nothing, if it meets no
other account with the address and no statement is refused from its first
deletion on. -/
theorem failed_finalization_destroys_nothing (env : MigrationEnv) (finalizing : Index) (user : Document)
    (issued : TokenPair) (arrival : Nat) (others : Index → Request) (world : World)
    (before after : List (Index × Input)) (input : Input)
    (hunhindered : Along (.step (machine env.account.session.hashPassword))
      (Unhindered env.account.session.hashPassword finalizing)
      (finalising env finalizing user issued arrival others world) (before ++ (finalizing,input) :: after))
    {response : Response}
    (hresponse : responseOf (proceed env (finalising env finalizing user issued arrival others world)
      (before ++ (finalizing,input) :: after)) finalizing = some response) (hfailed : response.status ≠ 200) :
    ¬Lost (proceed env (finalising env finalizing user issued arrival others world) before).world
      (proceed env (finalising env finalizing user issued arrival others world)
        (before ++ [(finalizing,input)])).world := by
  intro hlost
  rw [proceed,run_append] at hlost
  have hlater := hasDeleted_run env.account.session.hashPassword after (hasDeleted_of_lost hlost)
  rw [← run_cons,← run_append] at hlater
  exact hfailed (succeeded_of_hasDeleted hunhindered hresponse hlater)

end Systems

def loadedUser : Document := .load (resolveFields verifiedSelection) (verifiedRow 0)
def sampleIssued : TokenPair := ⟨"refresh",some "jti"⟩
def idle (_ : Bool) : Request := .done (.error .rejected,0)

/-- The version was raised before the finalisation reads it. -/
theorem failed_finalization_raisedVersion :
    (responseOf (proceed sampleMigrationEnv (finalising sampleMigrationEnv true loadedUser sampleIssued
        1700000000000 idle (holderWorld 1)) [(true,.healthy 1700000000000)]) true).map Response.status = some 409 ∧
      ¬Lost (holderWorld 1) (proceed sampleMigrationEnv (finalising sampleMigrationEnv true loadedUser
        sampleIssued 1700000000000 idle (holderWorld 1)) [(true,.healthy 1700000000000)]).world := by
  have hstatus : (responseOf (proceed sampleMigrationEnv (finalising sampleMigrationEnv true loadedUser
      sampleIssued 1700000000000 idle (holderWorld 1)) [(true,.healthy 1700000000000)]) true).map
      Response.status = some 409 := by
    decide +kernel
  refine ⟨hstatus,?_⟩
  obtain ⟨response,hresponse,hcode⟩ := map_eq_some_iff.mp hstatus
  refine failed_finalization_destroys_nothing sampleMigrationEnv true loadedUser sampleIssued 1700000000000 idle
    (holderWorld 1) [] [] (.healthy 1700000000000) ⟨?_,trivial⟩ hresponse (by rw [hcode]; decide)
  intro _ command hpending
  obtain rfl : .sql (.findById "u1" currentSelection) = command := some.inj hpending
  decide +kernel

def endSessions : Bool → Request := fun _ =>
  AccountRequests.handle sampleAccountEnv (.invalidate "u1") 1700000000000

def mergeSchedule : List (Bool × Input) :=
  [true,true,true,true,true,false,false,true].map fun index => (index,.healthy 1700000000000)

/-- The other account is deleted, then the version-guarded update finds a version
that another request has raised: the answer is 409. -/
theorem merge_refused_after_deletion :
    (responseOf (proceed sampleMigrationEnv (finalising sampleMigrationEnv true loadedUser sampleIssued
        1700000000000 endSessions (holderWorld 0)) mergeSchedule) true).map Response.status = some 409 ∧
      Lost (proceed sampleMigrationEnv (finalising sampleMigrationEnv true loadedUser sampleIssued
          1700000000000 endSessions (holderWorld 0)) (mergeSchedule.take 4)).world
        (proceed sampleMigrationEnv (finalising sampleMigrationEnv true loadedUser sampleIssued
          1700000000000 endSessions (holderWorld 0)) (mergeSchedule.take 5)).world ∧
      ((proceed sampleMigrationEnv (finalising sampleMigrationEnv true loadedUser sampleIssued
        1700000000000 endSessions (holderWorld 0)) mergeSchedule).world.users.lookup "u2").isNone = true := by
  refine ⟨by decide +kernel,.inl ⟨"u2",by decide +kernel,?_⟩,by decide +kernel⟩
  rw [← isNone_iff_eq_none]
  decide +kernel

end Routiq.Uam.FinalizeFailure
