import Routiq.Uam.AccountStages

/-! Whether a logout or a reset is final. A token leaves the stored list by a
`save` that writes the whole list back, and the list that is written is a copy
read some statements before. A request that still holds a copy with the token
in it puts the token back; one that has already looked the token up exchanges
it. Once the token is gone and nobody is about to do either, it stays gone. -/
namespace Routiq.Uam.SessionFinality
open Core Function Runs KeyedTable Processes Actions Users Commands AccountRequests Option List AccountStages
open Session hiding persistSessionTokens removeRefreshToken refreshAccessToken logout

/-! ## The stored list after a command -/

theorem itemsOf_columnValue (raw : Option Value) :
    itemsOf (some (columnValue .refreshTokens raw)) = itemsOf raw := by
  unfold columnValue
  rw [if_pos (by decide)]
  cases raw with
  | none => rfl
  | some value => cases value <;> rfl

variable {hash : String}

theorem mem_pushedHashes {stored : List String} {newHash : String}
    (hmem : hash ∈ pushedHashes stored newHash) : hash ∈ stored ∨ hash = newHash := by
  unfold pushedHashes sliceItems at hmem
  rw [if_pos (by decide)] at hmem
  simpa using mem_of_mem_drop hmem

variable {fields : List Field} {row : Row}

theorem hashesOf_load (hmem : hash ∈ hashesOf (Document.load fields row)) :
    hash ∈ itemsOf (some (row.columns .refreshTokens)) := by
  by_cases hloaded : Field.refreshTokens ∈ fields
  · simpa [hashesOf,Document.load,hloaded] using hmem
  · simp [hashesOf,Document.load,hloaded,itemsOf] at hmem

theorem hashesOf_load_of_loaded (htokens : ((Document.load fields row).values .refreshTokens).isSome = true) :
    hashesOf (Document.load fields row) = itemsOf (some (row.columns .refreshTokens)) := by
  by_cases hloaded : Field.refreshTokens ∈ fields
  · simp [hashesOf,Document.load,hloaded]
  · simp [Document.load,hloaded] at htokens

theorem storedHashes_of_copy {users : UserTable} (hrow : users.lookup row.id.val = some row)
    (hmem : hash ∈ hashesOf (.load fields row)) : hash ∈ storedHashes users row.id.val := by
  rw [storedHashes_of_lookup hrow]
  exact hashesOf_load hmem

variable {document saved : Document} {id : String} {update : UpdateDoc}

section Statements
variable {env : SessionEnv} {users next : UserTable} {userId hash : String} {nowMs : Nat}

theorem storedHashes_save
    (hsave : document.save env.hashPassword nowMs users = .ok (next,saved))
    (htokens : (document.values .refreshTokens).isSome = true)
    (hmem : hash ∈ storedHashes next userId) : document.id.val = userId ∧ hash ∈ hashesOf document ∨
      document.id.val ≠ userId ∧ hash ∈ storedHashes users userId := by
  rw [storedHashes_of_lookups (lookup_save hsave)] at hmem
  by_cases hid : userId = document.id.val
  · rw [if_pos hid] at hmem
    refine .inl ⟨hid.symm,?_⟩
    have hassigned : document.assignments env.hashPassword nowMs .refreshTokens =
        some (columnValue .refreshTokens (document.values .refreshTokens)) := by
      simp [Document.assignments,Document.writeField,jsonbFields,htokens,storedValue]
    cases hrow : users.lookup document.id.val with
    | none => simp [hrow,itemsOf] at hmem
    | some row =>
      simp only [hrow,map_some,Row.assign,hassigned,getD_some,itemsOf_columnValue] at hmem
      exact hmem
  · rw [if_neg hid] at hmem
    exact .inr ⟨fun heq => hid heq.symm,hmem⟩

theorem storedHashes_update {issued : TokenPair} {document : Option Document}
    (hupdate : applyUpdate nowMs users id update = .ok (next,document))
    (hkind : update = persistUpdate env issued ∨ ∃ storedKey, update = rotateUpdate env storedKey issued)
    (hmem : hash ∈ storedHashes next userId) :
    hash ∈ storedHashes users userId ∨ hash = hashRefreshToken env issued.refreshToken := by
  cases hrow : users.lookup id with
  | none =>
    simp only [applyUpdate,hrow,Except.ok.injEq,Prod.mk.injEq] at hupdate
    rw [← hupdate.1] at hmem
    exact .inl hmem
  | some row =>
    have hpushed : ∀ table, (∀ other, storedHashes table other = if other = id then
          pushedHashes (storedHashes users id) (hashRefreshToken env issued.refreshToken)
          else storedHashes users other) → hash ∈ storedHashes table userId →
        hash ∈ storedHashes users userId ∨ hash = hashRefreshToken env issued.refreshToken := by
      intro table htable hmem
      rw [htable] at hmem
      by_cases hid : userId = id
      · rw [if_pos hid] at hmem
        rw [hid]
        exact mem_pushedHashes hmem
      · rw [if_neg hid] at hmem
        exact .inl hmem
    rcases hkind with rfl | ⟨storedKey,rfl⟩
    · obtain ⟨table,found,hok,_,htable⟩ := applyUpdate_persist env nowMs hrow issued
      rw [hok] at hupdate
      cases hupdate
      exact hpushed next htable hmem
    · obtain ⟨table,found,hok,_,htable⟩ := applyUpdate_rotate env nowMs hrow storedKey issued
      rw [hok] at hupdate
      cases hupdate
      rw [htable] at hmem
      by_cases hid : userId = id
      · rw [if_pos hid] at hmem
        rw [hid]
        exact mem_pushedHashes (mem_of_mem_filter hmem)
      · rw [if_neg hid] at hmem
        exact .inl hmem

end Statements

/-! ## Copies of the list -/

section
variable (userId hash : String) (stage : SessionStage)

def Holding : Prop :=
  ∃ hashes, stage.held = some (userId,hashes) ∧ hash ∈ hashes

/-- The next command of a request stores the token again, exchanges it, or
leaves the request with a copy that it may still store. -/
def Revives : Command → Prop
  | .sql (.save document) => document.id.val = userId ∧ hash ∈ hashesOf document
  | .sql (.findOneAndUpdate id _ update) => id = userId ∧ hash ∈ update.pull.map Prod.snd
  | .sql (.findIndex _) | .sql (.updateIndex _ _) | .sql (.insertIndex _ _) | .sql (.deleteIndex _ _) =>
    Holding userId hash stage
  | _ => False

end

section Commands
variable {env : SessionEnv} {stage : SessionStage} {command : Command} {userId hash : String}

theorem holding_of_revives (hallowed : stage.Allowed env command)
    (hrevives : Revives userId hash stage command) : Holding userId hash stage := by
  unfold Revives at hrevives
  split at hrevives
  · obtain ⟨rfl,hmem⟩ := hrevives
    exact hallowed.2.1 hash hmem
  · obtain ⟨rfl,hmem⟩ := hrevives
    obtain ⟨_,issued,_,hpersist | ⟨storedKey,hashes,hrotate,hheld,hstored⟩⟩ := hallowed
    · rw [hpersist] at hmem
      simp [persistUpdate] at hmem
    · rw [hrotate] at hmem
      simp only [rotateUpdate,map_cons,map_nil,mem_singleton] at hmem
      exact ⟨hashes,hheld,hmem ▸ hstored⟩
  · exact hrevives
  · exact hrevives
  · exact hrevives
  · exact hrevives
  · exact hrevives.elim

variable {statement : Statement}

/-- What a statement may add to a list: a token that is still to be issued, or
the hashes of a saved copy. -/
theorem storedHashes_execStatement (hallowed : stage.Allowed env (.sql statement)) (nowMs : Nat)
    (world : World)
    (hmem : hash ∈ storedHashes (execStatement env.hashPassword nowMs world statement).2.users userId) :
    hash ∈ storedHashes world.users userId ∨ stage.issues = some hash ∨
      Revives userId hash stage (.sql statement) := by
  cases statement with
  | save document =>
    simp only [execStatement] at hmem
    cases hsave : document.save env.hashPassword nowMs world.users with
    | error message =>
      rw [hsave] at hmem
      exact .inl hmem
    | ok outcome =>
      obtain ⟨next,saved⟩ := outcome
      rw [hsave] at hmem
      rcases storedHashes_save hsave hallowed.1 hmem with hsaved | hkept
      · exact .inr (.inr hsaved)
      · exact .inl hkept.2
  | findOneAndUpdate id guard update =>
    obtain ⟨_,issued,hissues,hkind⟩ := hallowed
    simp only [execStatement] at hmem
    split at hmem
    · cases hupdate : applyUpdate nowMs world.users id update with
      | error message =>
        rw [hupdate] at hmem
        exact .inl hmem
      | ok outcome =>
        obtain ⟨next,updated⟩ := outcome
        rw [hupdate] at hmem
        have hkind' : update = persistUpdate env issued ∨
            ∃ storedKey, update = rotateUpdate env storedKey issued := by
          refine hkind.imp_right ?_
          rintro ⟨storedKey,_,hrotate,_⟩
          exact ⟨storedKey,hrotate⟩
        rcases storedHashes_update hupdate hkind' hmem with hstored | rfl
        · exact .inl hstored
        · exact .inr (.inl hissues)
    · exact .inl hmem
  | insert uuid data | findByIdAndDelete id => exact hallowed.elim
  | findById id selection | findOne filter selection | findIndex key | deleteIndex id keep =>
    exact .inl hmem
  | updateIndex key entry =>
    simp only [execStatement] at hmem
    split at hmem
    · exact .inl hmem
    · split at hmem <;> exact .inl hmem
  | insertIndex key entry =>
    simp only [execStatement] at hmem
    split at hmem <;> exact .inl hmem

theorem storedHashes_exec (hallowed : stage.Allowed env command) (input : Input) (world : World)
    (hmem : hash ∈ storedHashes (exec env.hashPassword input world command).2.users userId) :
    hash ∈ storedHashes world.users userId ∨ stage.issues = some hash ∨
      Revives userId hash stage command := by
  cases command with
  | sql statement =>
    simp only [exec] at hmem
    cases hfate : input.database with
    | answered =>
      rw [hfate] at hmem
      exact storedHashes_execStatement hallowed input.nowMs world hmem
    | failed applied =>
      rw [hfate] at hmem
      cases applied with
      | false => exact .inl hmem
      | true => exact storedHashes_execStatement hallowed input.nowMs world hmem
  | cacheSet key value ttlSeconds | cacheDel key | sendEmail mail =>
    simp only [exec] at hmem
    split at hmem <;> exact .inl hmem
  | cacheGet key | memoryTake key | memoryPut key payload ttlSeconds | revoke jtis => exact .inl hmem

theorem updated_next (stage : SessionStage) {guard : Option Value}
    (answer : Result (.sql (.findOneAndUpdate id guard update))) :
    (stage.next (.sql (.findOneAndUpdate id guard update)) answer).held = none ∧
      (stage.next (.sql (.findOneAndUpdate id guard update)) answer).issues = none ∧
      (stage.next (.sql (.findOneAndUpdate id guard update)) answer).ended = stage.ended := by
  cases answer with
  | error error => exact ⟨rfl,rfl,rfl⟩
  | ok found =>
    cases found with
    | none | some document => exact ⟨rfl,rfl,rfl⟩

theorem revives_of_holding_error {error : Failure}
    (hholding : Holding userId hash (stage.next (.sql statement) (.error error))) :
    Revives userId hash stage (.sql statement) := by
  obtain ⟨hashes,hheld,hmem⟩ := hholding
  cases statement with
  | findIndex _ | updateIndex _ _ | insertIndex _ _ | deleteIndex _ _ => exact ⟨hashes,hheld,hmem⟩
  | findById _ _ | findOne _ _ | save _ | insert _ _ | findOneAndUpdate _ _ _ | findByIdAndDelete _ =>
    cases hheld

theorem holding_answered (hallowed : stage.Allowed env (.sql statement)) (nowMs : Nat) (world : World)
    (habsent : hash ∉ storedHashes world.users userId)
    (hholding : Holding userId hash
      (stage.next (.sql statement) (execStatement env.hashPassword nowMs world statement).1)) :
    Revives userId hash stage (.sql statement) := by
  cases statement with
  | findById id selection =>
    simp only [execStatement,findById] at hholding
    cases hrow : world.users.lookup id with
    | none =>
      rw [hrow] at hholding
      obtain ⟨hashes,hheld,_⟩ := hholding
      cases hheld
    | some row =>
      rw [hrow] at hholding
      obtain ⟨hashes,hheld,hmem⟩ := hholding
      cases hheld
      have hlookup : world.users.lookup row.id.val = some row :=
        Table.lookup_of_mem (Table.mem_of_lookup hrow).1
      exact absurd (storedHashes_of_copy hlookup hmem) habsent
  | findOne filter selection =>
    simp only [execStatement] at hholding
    cases hrow : world.users.rows.find? filter.accepts with
    | none =>
      rw [hrow] at hholding
      obtain ⟨hashes,hheld,_⟩ := hholding
      cases hheld
    | some row =>
      rw [hrow] at hholding
      obtain ⟨hashes,hheld,hmem⟩ := hholding
      cases hheld
      have hlookup : world.users.lookup row.id.val = some row :=
        Table.lookup_of_mem (mem_of_find?_eq_some hrow)
      exact absurd (storedHashes_of_copy hlookup hmem) habsent
  | save document =>
    simp only [execStatement] at hholding
    cases hsave : document.save env.hashPassword nowMs world.users with
    | error message =>
      rw [hsave] at hholding
      exact revives_of_holding_error hholding
    | ok outcome =>
      obtain ⟨next,saved⟩ := outcome
      rw [hsave] at hholding
      obtain ⟨hashes,hheld,hmem⟩ := hholding
      rcases save_returns hsave with ⟨row,hrow,rfl⟩ | ⟨_,rfl⟩
      · have hid : row.id.val = document.id.val := (Table.mem_of_lookup hrow).2
        cases hheld
        have hstored : hash ∈ storedHashes next row.id.val :=
          storedHashes_of_copy (by rw [hid]; exact hrow) hmem
        rcases storedHashes_save hsave hallowed.1 hstored with hsaved | hkept
        · exact hsaved
        · exact absurd hkept.2 habsent
      · cases hheld
        exact ⟨rfl,hmem⟩
  | findOneAndUpdate id guard update =>
    obtain ⟨hashes,hheld,_⟩ := hholding
    cases (updated_next stage _).1.symm.trans hheld
  | insert uuid data | findByIdAndDelete id => exact hallowed.elim
  | findIndex _ | updateIndex _ _ | insertIndex _ _ | deleteIndex _ _ => exact hholding

theorem holding_exec (hallowed : stage.Allowed env command) (input : Input) (world : World)
    (habsent : hash ∉ storedHashes world.users userId) (hholding : Holding userId hash
      (stage.next command (exec env.hashPassword input world command).1)) :
    Revives userId hash stage command := by
  cases command with
  | sql statement =>
    simp only [exec] at hholding
    cases hfate : input.database with
    | answered =>
      rw [hfate] at hholding
      exact holding_answered hallowed input.nowMs world habsent hholding
    | failed applied =>
      rw [hfate] at hholding
      exact revives_of_holding_error hholding
  | cacheGet _ | cacheSet _ _ _ | cacheDel _ | memoryTake _ | memoryPut _ _ _ | revoke _
  | sendEmail _ =>
    obtain ⟨hashes,hheld,_⟩ := hholding
    cases hheld

section
variable (userId hash : String) (target : Target)

/-- The command that ends the target of a request on an account: a load that
does not find the token or the account, or the save. -/
def Ends (users : UserTable) : Command → Prop
  | .sql (.findById id _) => id = userId ∧
    (target = .token userId hash ∧ hash ∉ storedHashes users userId ∨ users.lookup userId = none)
  | .sql (.save document) => document.id.val = userId
  | _ => False

def Aims : Prop := target = .token userId hash ∨ target = .account

end

theorem not_nothing_of_aims {target : Target} (haims : Aims userId hash target) : target ≠ .nothing := by
  rintro rfl
  rcases haims with haims | haims <;> contradiction

theorem absent_of_saved (hallowed : stage.Allowed env (.sql (.save document)))
    (haims : Aims userId hash stage.target) : hash ∉ hashesOf document := by
  obtain ⟨_,_,htarget⟩ := hallowed
  intro hmem
  rcases haims with haims | haims
  · rw [haims] at htarget
    exact htarget.2 hmem
  · rw [haims] at htarget
    have hempty : hashesOf document = [] := htarget
    rw [hempty] at hmem
    cases hmem

/-- When a request ends its target, the token is not stored and the request
holds no copy with it. -/
theorem ended_answered (hallowed : stage.Allowed env (.sql statement)) (haims : Aims userId hash stage.target)
    (nowMs : Nat) (world : World)
    (hopen : stage.ended ≠ some userId) (hended : (stage.next (.sql statement)
      (execStatement env.hashPassword nowMs world statement).1).ended = some userId) :
    Ends userId hash stage.target world.users (.sql statement) ∧
      hash ∉ storedHashes (execStatement env.hashPassword nowMs world statement).2.users userId ∧
      ¬Holding userId hash
        (stage.next (.sql statement) (execStatement env.hashPassword nowMs world statement).1) := by
  cases statement with
  | findById id selection =>
    simp only [execStatement,findById] at hended ⊢
    cases hrow : world.users.lookup id with
    | none =>
      rw [hrow] at hended
      simp only [map_none,SessionStage.next,SessionStage.missing,
        if_neg (not_nothing_of_aims haims),some.injEq] at hended
      subst hended
      refine ⟨⟨rfl,.inr hrow⟩,?_,?_⟩
      · simp [storedHashes,hrow,itemsOf]
      · rintro ⟨hashes,hheld,_⟩
        cases hheld
    | some row =>
      rw [hrow] at hended
      have hlookup : world.users.lookup row.id.val = some row :=
        Table.lookup_of_mem (Table.mem_of_lookup hrow).1
      simp only [map_some,SessionStage.next,SessionStage.loaded] at hended ⊢
      rcases haims with htarget | htarget
      · simp only [htarget] at hended
        split at hended
        next hfound =>
          obtain rfl : row.id.val = userId := some.inj hended
          rw [hashesOf_load_of_loaded hfound.1] at hfound
          refine ⟨⟨(Table.mem_of_lookup hrow).2.symm,.inl ⟨htarget,?_⟩⟩,?_,?_⟩
          · rw [storedHashes_of_lookup hlookup]
            exact hfound.2
          · rw [storedHashes_of_lookup hlookup]
            exact hfound.2
          · rintro ⟨hashes,hheld,hmem⟩
            cases hheld
            exact hfound.2 (hashesOf_load hmem)
        · exact absurd hended hopen
      · simp only [htarget] at hended
        exact absurd hended hopen
  | save document =>
    simp only [execStatement] at hended ⊢
    cases hsave : document.save env.hashPassword nowMs world.users with
    | error message =>
      rw [hsave] at hended
      exact absurd hended hopen
    | ok outcome =>
      obtain ⟨next,saved⟩ := outcome
      have habsent := absent_of_saved hallowed haims
      rw [hsave] at hended
      simp only [SessionStage.next,SessionStage.saved,if_neg (not_nothing_of_aims haims),
        some.injEq] at hended
      rcases save_returns hsave with ⟨row,hrow,rfl⟩ | ⟨hgone,rfl⟩
      · have hid : row.id.val = document.id.val := (Table.mem_of_lookup hrow).2
        have hended' : row.id.val = userId := hended
        have hstored : hash ∉ storedHashes next userId := by
          intro hmem
          rcases storedHashes_save hsave hallowed.1 hmem with hsaved | hkept
          · exact habsent hsaved.2
          · exact hkept.1 (hid.symm.trans hended')
        refine ⟨hid.symm.trans hended',hstored,?_⟩
        rintro ⟨hashes,hheld,hmem⟩
        cases hheld
        exact hstored (storedHashes_of_copy (by rw [hid]; exact hrow) hmem)
      · have hended' : document.id.val = userId := hended
        refine ⟨hended',?_,?_⟩
        · rw [hended'] at hgone
          simp [storedHashes,hgone,itemsOf]
        · rintro ⟨hashes,hheld,hmem⟩
          cases hheld
          exact habsent hmem
  | findOneAndUpdate id guard update => exact absurd ((updated_next stage _).2.2.symm.trans hended) hopen
  | findOne filter selection =>
    simp only [execStatement] at hended
    cases hrow : world.users.rows.find? filter.accepts with
    | none | some row =>
      rw [hrow] at hended
      exact absurd hended hopen
  | insert uuid data | findByIdAndDelete id => exact hallowed.elim
  | findIndex _ | updateIndex _ _ | insertIndex _ _ | deleteIndex _ _ => exact absurd hended hopen

theorem ended_exec (hallowed : stage.Allowed env command) (haims : Aims userId hash stage.target)
    (input : Input) (world : World) (hopen : stage.ended ≠ some userId)
    (hended : (stage.next command (exec env.hashPassword input world command).1).ended = some userId) :
    Ends userId hash stage.target world.users command ∧
      hash ∉ storedHashes (exec env.hashPassword input world command).2.users userId ∧
      ¬Holding userId hash (stage.next command (exec env.hashPassword input world command).1) := by
  cases command with
  | sql statement =>
    simp only [exec] at hended ⊢
    cases hfate : input.database with
    | answered =>
      rw [hfate] at hended
      exact ended_answered hallowed haims input.nowMs world hopen hended
    | failed applied =>
      rw [hfate] at hended
      cases statement <;> exact absurd hended hopen
  | cacheGet _ | cacheSet _ _ _ | cacheDel _ | memoryTake _ | memoryPut _ _ _ | revoke _
  | sendEmail _ => exact absurd hended hopen

end Commands

/-! ## Every interleaving -/

variable {stage : SessionStage}

theorem issues_next (hunissued : stage.issues ≠ some hash) (command : Command) (answer : Result command) :
    (stage.next command answer).issues ≠ some hash := by
  unfold SessionStage.next
  split <;> first | exact hunissued | (intro hissues; cases hissues)

variable {command : Command} {userId : String}

section Interleavings
variable {Index : Type} [DecidableEq Index] {env : AccountEnv} {requests : Index → AccountRequest}
  {arrivals : Index → Nat}

theorem target_stagesOf (system : AccountSystem Index) (index : Index) :
    (stagesOf env requests arrivals system index).sessions.target =
      targetOf env (arrivals index) (requests index) := by
  refine Protocol.stageAfter_kept (fun stage : Stage => stage.sessions.target) ?_
    (.initial env (arrivals index) (requests index)) (system.trace index)
  intro stage command answer
  change (stage.sessions.next command answer.1).target = _
  unfold SessionStage.next
  split <;> rfl

variable (env requests arrivals) in
/-- The token is gone, and nobody is about to bring it back or to exchange it. -/
structure Gone (userId hash : String) (system : AccountSystem Index) : Prop where
  absent : hash ∉ storedHashes system.world.users userId
  unissued : ∀ index, (stagesOf env requests arrivals system index).sessions.issues ≠ some hash
  idle : ∀ index command, (system.processes index).pending = some command →
    ¬Revives userId hash (stagesOf env requests arrivals system index).sessions command

section Step
variable {userId hash : String} {system : AccountSystem Index} {index : Index} {input : Input}
  {command : Command}
  {next : Timed Result command → Process Command (Timed Result) (Except Failure Response × Nat)}

theorem unissued_perform
    (hunissued : ∀ index, (stagesOf env requests arrivals system index).sessions.issues ≠ some hash)
    (other : Index) : (stagesOf env requests arrivals
      (system.perform (machine env.session.hashPassword) input index command next) other).sessions.issues ≠
        some hash := by
  rw [stagesOf_perform]
  by_cases hother : other = index
  · subst hother
    rw [update_self]
    exact issues_next (hunissued other) command _
  · rw [update_of_ne hother]
    exact hunissued other

section
variable (hfollowing : Following env requests arrivals system)
  (hprocess : system.processes index = .call command next)
include hfollowing hprocess

/-- After a command that leaves the token unstored and its request without a
copy, the token is gone if it was not in use by the others. -/
theorem gone_perform_of
    (hunissued : ∀ index, (stagesOf env requests arrivals system index).sessions.issues ≠ some hash)
    (habsent : hash ∉ storedHashes (exec env.session.hashPassword input system.world command).2.users userId)
    (hholding : ¬Holding userId hash ((stagesOf env requests arrivals system index).sessions.next command
      (exec env.session.hashPassword input system.world command).1))
    (hothers : ∀ other, other ≠ index → ∀ command, (system.processes other).pending = some command →
      ¬Revives userId hash (stagesOf env requests arrivals system other).sessions command) :
    Gone env requests arrivals userId hash
      (system.perform (machine env.session.hashPassword) input index command next) := by
  refine ⟨habsent,unissued_perform hunissued,?_⟩
  intro other pending hpending hrevives
  by_cases hother : other = index
  · subst hother
    have hallowed := (hfollowing.perform (machine_serves _ _ _) hprocess input).allowed hpending
    have hholding' := holding_of_revives hallowed.1 hrevives
    rw [Protocol.stages_perform,update_self] at hholding'
    exact hholding hholding'
  · rw [stagesOf_perform,update_of_ne hother] at hrevives
    have hpending' : (system.processes other).pending = some pending := by
      rw [← hpending]
      simp only [System.perform,update_of_ne hother]
    exact hothers other hother pending hpending' hrevives

theorem gone_perform (hgone : Gone env requests arrivals userId hash system) :
    Gone env requests arrivals userId hash
      (system.perform (machine env.session.hashPassword) input index command next) := by
  have hpending : (system.processes index).pending = some command := by
    rw [hprocess,Process.pending_call]
  have hallowed := (allowed_of_pending hfollowing hpending).1
  have hidle := hgone.idle index command hpending
  refine gone_perform_of hfollowing hprocess hgone.unissued ?_ ?_ fun other _ => hgone.idle other
  · intro hmem
    rcases storedHashes_exec hallowed input system.world hmem with hstored | hissues | hrevives
    · exact hgone.absent hstored
    · exact hgone.unissued index hissues
    · exact hidle hrevives
  · intro hholding
    exact hidle (holding_exec hallowed input system.world hgone.absent hholding)

end

/-! ## Until the end of a session -/

def Saved (system : AccountSystem Index) (index : Index) (userId : String) : Prop :=
  ∃ (document saved : Document) (nowMs : Nat),
    ⟨.sql (.save document),(.ok saved,nowMs)⟩ ∈ system.trace index ∧ document.id.val = userId

variable (env requests arrivals) in
/-- While a request ends a token, no other request is about to bring the token
back or to exchange it. -/
def Uncontested (index : Index) (userId hash : String) (system : AccountSystem Index)
    (event : Index × Input) : Prop :=
  event.1 = index → ∀ command, (system.processes index).pending = some command →
    Ends userId hash (targetOf env (arrivals index) (requests index)) system.world.users command →
    ∀ other, other ≠ index → ∀ pending, (system.processes other).pending = some pending →
      ¬Revives userId hash (stagesOf env requests arrivals system other).sessions pending

variable (env requests arrivals) in
structure Progress (ending : Index) (userId hash : String) (system : AccountSystem Index) : Prop where
  unissued : ∀ index, (stagesOf env requests arrivals system index).sessions.issues ≠ some hash
  ended : (stagesOf env requests arrivals system ending).sessions.ended = some userId →
    Gone env requests arrivals userId hash system
  saved : Saved system ending userId → Gone env requests arrivals userId hash system

variable {ending : Index}

theorem progress_perform
    (haims : Aims userId hash (targetOf env (arrivals ending) (requests ending)))
    (hfollowing : Following env requests arrivals system)
    (hprocess : system.processes index = .call command next)
    (huncontested : Uncontested env requests arrivals ending userId hash system (index,input))
    (hprogress : Progress env requests arrivals ending userId hash system) :
    Progress env requests arrivals ending userId hash
      (system.perform (machine env.session.hashPassword) input index command next) := by
  by_cases hgone : Gone env requests arrivals userId hash system
  · exact ⟨unissued_perform hprogress.unissued,fun _ => gone_perform hfollowing hprocess hgone,
      fun _ => gone_perform hfollowing hprocess hgone⟩
  have hopen : (stagesOf env requests arrivals system ending).sessions.ended ≠ some userId :=
    fun hended => hgone (hprogress.ended hended)
  by_cases hindex : ending = index
  · subst hindex
    have hpending : (system.processes ending).pending = some command := by
      rw [hprocess,Process.pending_call]
    have hallowed := (allowed_of_pending hfollowing hpending).1
    have haims' : Aims userId hash (stagesOf env requests arrivals system ending).sessions.target := by
      rw [target_stagesOf]
      exact haims
    have hended : ((stagesOf env requests arrivals system ending).sessions.next command
          (exec env.session.hashPassword input system.world command).1).ended = some userId →
        Gone env requests arrivals userId hash
          (system.perform (machine env.session.hashPassword) input ending command next) := by
      intro hended
      obtain ⟨hends,habsent,hholding⟩ := ended_exec hallowed haims' input system.world hopen hended
      rw [target_stagesOf] at hends
      exact gone_perform_of hfollowing hprocess hprogress.unissued habsent hholding
        (huncontested rfl command hpending hends)
    refine ⟨unissued_perform hprogress.unissued,?_,?_⟩
    · rw [stagesOf_perform,update_self]
      exact hended
    · rintro ⟨document,saved,nowMs,hmem,hid⟩
      rw [System.trace_perform_self,mem_append,mem_singleton] at hmem
      rcases hmem with hearlier | hnow
      · exact absurd (hprogress.saved ⟨document,saved,nowMs,hearlier,hid⟩) hgone
      · injection hnow with hcommand hanswer
        subst hcommand
        have hsaved : (exec env.session.hashPassword input system.world (.sql (.save document))).1 =
            .ok saved := (congrArg Prod.fst (eq_of_heq hanswer)).symm
        have hpossible := exec_possible env.session.hashPassword input system.world (.sql (.save document))
        apply hended
        rw [hsaved] at hpossible ⊢
        rw [← hid]
        simp only [SessionStage.next,SessionStage.saved,if_neg (not_nothing_of_aims haims'),id_of_saved hpossible]
  · refine ⟨unissued_perform hprogress.unissued,?_,?_⟩
    · rw [stagesOf_perform,update_of_ne hindex]
      exact fun hended => absurd hended hopen
    · rintro ⟨document,saved,nowMs,hmem,hid⟩
      rw [System.trace_perform_other _ _ _ _ _ hindex] at hmem
      exact absurd (hprogress.saved ⟨document,saved,nowMs,hmem,hid⟩) hgone

end Step

/-! ## What a response says -/

section
variable (system : AccountSystem Index) (index : Index)

def Issued : Prop := ∃ id guard update, ∃ answer : Timed Result (.sql (.findOneAndUpdate id guard update)),
    ⟨.sql (.findOneAndUpdate id guard update),answer⟩ ∈ system.trace index

def Accepted (userId hash : String) : Prop :=
  ∃ guard update, ∃ answer : Timed Result (.sql (.findOneAndUpdate userId guard update)),
    ⟨.sql (.findOneAndUpdate userId guard update),answer⟩ ∈ system.trace index ∧
      hash ∈ update.pull.map Prod.snd

def Succeeded : Prop := (responseOf system index).map Response.status = some 200

end

instance (system : AccountSystem Index) (index : Index) : Decidable (Succeeded system index) :=
  inferInstanceAs (Decidable (_ = _))

/-- The request has ended the token on the account: a logout that presented it,
an invalidation or a reset of the account, or a refresh that ended all
sessions. -/
def Final (env : AccountEnv) (arrival : Nat) (system : AccountSystem Index) (index : Index)
    (userId hash : String) : AccountRequest → Prop
  | .logout call => logoutTarget env arrival call = some (userId,hash) ∧ Succeeded system index
  | .invalidate id => id = userId ∧ Succeeded system index
  | .reset _ => Succeeded system index ∧ ∀ id, Saved system index id → id = userId
  | .refresh _ => Saved system index userId
  | .login _ => False

theorem issues_stageAfter {entries : List (Entry Command (Timed Result))} {stage : Stage}
    (hissues : ((protocol env.session).stageAfter stage entries).sessions.issues = some hash) :
    stage.sessions.issues = some hash ∧
      ∀ id guard update, ∀ answer : Timed Result (.sql (.findOneAndUpdate id guard update)),
        ⟨.sql (.findOneAndUpdate id guard update),answer⟩ ∉ entries := by
  induction entries generalizing stage with
  | nil => exact ⟨hissues,fun _ _ _ _ => not_mem_nil⟩
  | cons entry entries ih =>
    obtain ⟨hfirst,hrest⟩ := ih hissues
    have hnext : (stage.sessions.next entry.1 entry.2.1).issues = some hash := hfirst
    refine ⟨?_,?_⟩
    · by_contra hunissued
      exact issues_next hunissued entry.1 entry.2.1 hnext
    · intro id guard update answer hmem
      rcases mem_cons.mp hmem with rfl | hmem
      · cases (updated_next stage.sessions answer.1).2.1.symm.trans hnext
      · exact hrest id guard update answer hmem

variable {index : Index}

section
variable {system : AccountSystem Index}

theorem cleared_next {answer : Result command} (hbefore : stage.cleared.isSome ≠ true)
    (hafter : (stage.next command answer).cleared.isSome = true) :
    ∃ document saved, (⟨command,answer⟩ : Entry Command Result) = ⟨.sql (.save document),.ok saved⟩ := by
  unfold SessionStage.next at hafter
  split at hafter <;> first | exact ⟨_,_,rfl⟩ | exact absurd hafter hbefore

theorem saved_of_cleared
    (hcleared : (stagesOf env requests arrivals system index).sessions.cleared.isSome = true) :
    ∃ userId, Saved system index userId := by
  obtain ⟨⟨command,answer,nowMs⟩,hmem,stage,hbefore,hafter⟩ :=
    Protocol.exists_entry_of_stageAfter (fun stage : Stage => stage.sessions.cleared.isSome = true)
      (fun hnone => by cases hnone) hcleared
  obtain ⟨document,saved,hentry⟩ := cleared_next hbefore hafter
  cases hentry
  exact ⟨document.id.val,document,saved,nowMs,hmem,rfl⟩

variable {ending : Index}

theorem gone_of_final
    (hfollowing : Following env requests arrivals system)
    (hprogress : Progress env requests arrivals ending userId hash system)
    (hfinal : Final env (arrivals ending) system ending userId hash (requests ending)) :
    Gone env requests arrivals userId hash system := by
  have hcompletes : Succeeded system ending → ∃ response : Response, response.status = 200 ∧
      Completes env.session (stagesOf env requests arrivals system ending).sessions (requests ending)
        response := by
    intro hsucceeded
    obtain ⟨response,hresponse,hstatus⟩ := map_eq_some_iff.mp hsucceeded
    obtain ⟨nowMs,hresult⟩ := result_of_response hresponse
    exact ⟨response,hstatus,(settled_of_result hfollowing hresult).1⟩
  cases hrequest : requests ending with
  | login request =>
    rw [hrequest] at hfinal
    exact hfinal.elim
  | refresh call =>
    rw [hrequest] at hfinal
    exact hprogress.saved hfinal
  | logout call =>
    rw [hrequest] at hfinal hcompletes
    obtain ⟨response,hstatus,hended⟩ := hcompletes hfinal.2
    refine hprogress.ended (hended hstatus userId hash ?_)
    rw [target_stagesOf,hrequest]
    simp only [targetOf,hfinal.1]
  | reset request =>
    rw [hrequest] at hfinal hcompletes
    obtain ⟨response,hstatus,hcleared⟩ := hcompletes hfinal.1
    obtain ⟨id,hsaved⟩ := saved_of_cleared (hcleared hstatus)
    exact hprogress.saved (hfinal.2 id hsaved ▸ hsaved)
  | invalidate id =>
    rw [hrequest] at hfinal hcompletes
    obtain ⟨response,hstatus,hended⟩ := hcompletes hfinal.2
    rw [hfinal.1] at hended
    exact hprogress.ended hended

theorem aims_of_final {arrival : Nat} {request : AccountRequest}
    (hfinal : Final env arrival system ending userId hash request) :
    Aims userId hash (targetOf env arrival request) := by
  cases request with
  | login request => exact hfinal.elim
  | logout call =>
    refine .inl ?_
    simp only [targetOf,hfinal.1]
  | refresh call | reset request | invalidate id => exact .inr rfl

end

theorem accepted_perform {system earlier : AccountSystem Index} {input : Input}
    {next : Timed Result command → Process Command (Timed Result) (Except Failure Response × Nat)}
    (hprocess : system.processes index = .call command next)
    (hgone : Gone env requests arrivals userId hash system)
    (haccepted : ∀ other, Accepted system other userId hash → Accepted earlier other userId hash)
    (other : Index)
    (hnow : Accepted (system.perform (machine env.session.hashPassword) input index command next) other
      userId hash) : Accepted earlier other userId hash := by
  obtain ⟨guard,update,answer,hmem,hpulled⟩ := hnow
  by_cases hother : other = index
  · subst hother
    rw [System.trace_perform_self,mem_append,mem_singleton] at hmem
    rcases hmem with hearlier | hnow
    · exact haccepted other ⟨guard,update,answer,hearlier,hpulled⟩
    · injection hnow with hcommand _
      subst hcommand
      have hpending : (system.processes other).pending = some (.sql (.findOneAndUpdate userId guard update)) := by
        rw [hprocess,Process.pending_call]
      exact absurd ⟨rfl,hpulled⟩ (hgone.idle other _ hpending)
  · rw [System.trace_perform_other _ _ _ _ _ hother] at hmem
    exact haccepted other ⟨guard,update,answer,hmem,hpulled⟩

/-- A token that is ended while nobody else works with a copy of it is never
stored and never exchanged again. -/
theorem sessions_stay_ended_of_uncontested (env : AccountEnv) (requests : Index → AccountRequest)
    (arrivals : Index → Nat) (world : World) (before during after : List (Index × Input)) (ending : Index)
    (userId hash : String) (hbegun : (reached env requests arrivals world before).trace ending = [])
    (hissued : ∀ index, issuesOf env (requests index) = some hash →
      Issued (reached env requests arrivals world before) index)
    (huncontested : Along (System.step (machine env.session.hashPassword))
      (Uncontested env requests arrivals ending userId hash) (reached env requests arrivals world before)
      during)
    (hfinal : Final env (arrivals ending) (reached env requests arrivals world (before ++ during)) ending
      userId hash (requests ending)) :
    hash ∉ storedHashes (reached env requests arrivals world (before ++ during ++ after)).world.users
        userId ∧
      ∀ index, Accepted (reached env requests arrivals world (before ++ during ++ after)) index userId hash →
        Accepted (reached env requests arrivals world (before ++ during)) index userId hash := by
  have hbefore : Progress env requests arrivals ending userId hash
      (reached env requests arrivals world before) := by
    refine ⟨fun index hissues => ?_,?_,?_⟩
    · obtain ⟨hinitial,hnone⟩ := issues_stageAfter hissues
      obtain ⟨id,guard,update,answer,hmem⟩ := hissued index hinitial
      exact hnone id guard update answer hmem
    · intro hended
      unfold stagesOf Protocol.stages at hended
      rw [hbegun] at hended
      cases hended
    · rintro ⟨document,saved,nowMs,hmem,_⟩
      rw [hbegun] at hmem
      cases hmem
  obtain ⟨hfollowing,hprogress⟩ := run_invariant (Progress env requests arrivals ending userId hash)
    (fun system index input command next hfollowing hprocess hgood hinv =>
      progress_perform (aims_of_final hfinal) hfollowing hprocess hgood hinv)
    huncontested (following_reached world before) hbefore
  unfold reached at hfinal ⊢
  rw [run_append] at hfinal ⊢
  rw [run_append]
  have hgone := gone_of_final hfollowing hprogress hfinal
  have hgood : ∀ (system : AccountSystem Index) (event : Index × Input), True := fun _ _ => trivial
  obtain ⟨_,hstill,haccepted⟩ := run_invariant (fun system =>
      Gone env requests arrivals userId hash system ∧
        ∀ index, Accepted system index userId hash → Accepted _ index userId hash)
    (fun system index input command next hfollowing hprocess _ hinv =>
      ⟨gone_perform hfollowing hprocess hinv.1,accepted_perform hprocess hinv.1 hinv.2⟩)
    (along_of_forall hgood _ after) hfollowing ⟨hgone,fun _ haccepted => haccepted⟩
  exact ⟨hstill.absent,haccepted⟩

end Interleavings

/-! ## A logout that another one undoes -/

def sampleWorld : World := accountWorld [sampleDigest 0,sampleDigest 1]

def sampleRequests : Fin 3 → AccountRequest
  | 0 => .logout ⟨some (sampleToken 0),none⟩
  | 1 => .logout ⟨some (sampleToken 1),none⟩
  | 2 => .refresh ⟨sampleToken 0,none,⟨sampleToken 2,none⟩⟩

def sampleEvents (indices : List (Fin 3)) : List (Fin 3 × Input) :=
  indices.map fun index => (index,Input.healthy 1700000000000)

def sampleReached (arrival : Nat) (indices : List (Fin 3)) : AccountSystem (Fin 3) :=
  reached sampleAccountEnv sampleRequests (fun _ => arrival) sampleWorld (sampleEvents indices)

/-- Both logouts read the list before either saves it: the second save brings
the first token back, and a refresh accepts it. The logout of a token that has
expired leaves it in the list. -/
theorem logged_out_token_accepted :
    (Final sampleAccountEnv 1700000000000 (sampleReached 1700000000000 [0,1,0]) 0 "u1" (sampleDigest 0)
        (sampleRequests 0) ∧
      sampleDigest 0 ∈ storedHashes (sampleReached 1700000000000 [0,1,0,1]).world.users "u1" ∧
      Succeeded (sampleReached 1700000000000 [0,1,0,1,2,2,2,2,2]) 2) ∧
    Succeeded (sampleReached 1700604800000 []) 0 ∧
      sampleDigest 0 ∈ storedHashes (sampleReached 1700604800000 []).world.users "u1" := by
  refine ⟨⟨⟨?_,?_⟩,?_,?_⟩,?_,?_⟩ <;> decide +kernel

def loads : Option Command → Bool
  | none | some (.sql (.findById _ _)) => true
  | _ => false

theorem not_revives_of_loads {pending : Option Command} (hloads : loads pending = true) (hpending : pending = some command) :
    ¬Revives userId hash stage command := by
  subst hpending
  unfold loads at hloads
  split at hloads
  · contradiction
  next heq =>
    cases heq
    exact not_false
  · contradiction

theorem logged_out_token_gone :
    Final sampleAccountEnv 1700000000000 (sampleReached 1700000000000 [0,0]) 0 "u1" (sampleDigest 0)
        (sampleRequests 0) ∧
      sampleDigest 0 ∉ storedHashes (sampleReached 1700000000000 [0,0,1,1]).world.users "u1" := by
  have hrun : (logoutTarget sampleAccountEnv 1700000000000 ⟨some (sampleToken 0),none⟩ =
        some ("u1",sampleDigest 0) ∧ Succeeded (sampleReached 1700000000000 [0,0]) 0) ∧
      ∀ other : Fin 3, other ≠ 0 → loads ((sampleReached 1700000000000 []).processes other).pending = true ∧
          loads ((sampleReached 1700000000000 [0]).processes other).pending = true := by
    decide +kernel
  have hfinal : Final sampleAccountEnv 1700000000000 (sampleReached 1700000000000 [0,0]) 0 "u1"
      (sampleDigest 0) (sampleRequests 0) := hrun.1
  refine ⟨hfinal,?_⟩
  refine (sessions_stay_ended_of_uncontested sampleAccountEnv sampleRequests (fun _ => 1700000000000)
    sampleWorld [] (sampleEvents [0,0]) (sampleEvents [1,1]) 0 "u1" (sampleDigest 0) rfl ?_ ?_ hfinal).1
  · intro index hissues
    have hnone : ∀ index, issuesOf sampleAccountEnv (sampleRequests index) ≠ some (sampleDigest 0) := by
      decide +kernel
    exact absurd hissues (hnone index)
  · refine ⟨?_,?_,trivial⟩
    · intro _ command _ _ other hother pending hpending
      exact not_revives_of_loads (hrun.2 other hother).1 hpending
    · intro _ command _ _ other hother pending hpending
      exact not_revives_of_loads (hrun.2 other hother).2 hpending

end Routiq.Uam.SessionFinality
