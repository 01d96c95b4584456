import Routiq.ControlPlane.ServedRevisions

/-! Whether the live configuration and the rollback stack agree. A push is
activated and published under the lock of the stack; a pop is activated and
published after the lock is released. -/
namespace Routiq.ControlPlane.MutationOrder
open Function Core.Runs Core.Processes Store Handlers Stages ServedRevisions Function Option List

variable {Index Snapshot Json : Type}

/-! ## Changes of the stack and published revisions -/

section
variable (log : List (Index × Entry (Command Snapshot Json) Answer))

def changesOf : List Index :=
  log.filterMap fun entry =>
    match entry.2 with
    | ⟨.pushConfig _,_⟩ => some entry.1
    | ⟨.popConfig,_⟩ => some entry.1
    | _ => none

def revisionsOf : List (Index × Nat) :=
  log.filterMap fun entry =>
    match entry.2 with
    | ⟨.fetchAddRevision,previous⟩ => some (entry.1,previous + 1)
    | _ => none

end

variable [DecidableEq Index]

/-- A request changes the stack only when no other has released the lock with
its change unpublished. Only a rollback ever is in that position. -/
def NoneReleased (system : ConfigSystem Index Snapshot Json) (event : Index × Input) : Prop :=
  match (system.processes event.1).pending with
  | some (.pushConfig _) | some .popConfig =>
    ∀ other, (stagesOf system other).Changing → (stagesOf system other).holdsLock = true
  | _ => True

def Owner (property : Stage Snapshot → Prop) (stages : Index → Stage Snapshot)
    (owner : Option Index) : Prop :=
  ∀ index, property (stages index) ↔ owner = some index

section Owners
variable {property : Stage Snapshot → Prop} {stages : Index → Stage Snapshot}
  {owner : Option Index} {index : Index} {stage : Stage Snapshot}

theorem owner_update {after : Option Index} (howner : Owner property stages owner)
    (hself : property stage ↔ after = some index)
    (hothers : ∀ other, other ≠ index → (after = some other ↔ owner = some other)) :
    Owner property (update stages index stage) after := by
  intro other
  by_cases hother : other = index
  · subst hother
    rw [update_self]
    exact hself
  · rw [update_of_ne hother,hothers other hother]
    exact howner other

theorem owner_kept (howner : Owner property stages owner) (hself : property stage ↔ property (stages index)) :
    Owner property (update stages index stage) owner :=
  owner_update howner (hself.trans (howner index)) fun _ _ => Iff.rfl

theorem owner_taken (howner : Owner property stages none) (hself : property stage) :
    Owner property (update stages index stage) (some index) := by
  apply owner_update howner
  · simp [hself]
  · intro other hother
    simp [hother.symm]

theorem owner_released (howner : Owner property stages (some index)) (hself : ¬property stage) :
    Owner property (update stages index stage) none := by
  apply owner_update howner
  · simp [hself]
  · intro other hother
    simp [hother.symm]

end Owners

/-- One request may hold the lock and one may be between its change of the
stack and the publication of it; without the latter, the live configuration is
the top of the stack and every change has its revision. -/
structure StackInv (seed : Nat) (world : AppState Snapshot Json)
    (log : List (Index × Entry (Command Snapshot Json) Answer)) (stages : Index → Stage Snapshot)
    (holder changer : Option Index) : Prop where
  holds : Owner (fun stage => stage.holdsLock = true) stages holder
  locked : world.storeLocked = holder.isSome
  changes : Owner Stage.Changing stages changer
  order : changesOf log = (revisionsOf log).map Prod.fst ++ changer.toList
  settled : changer = none → world.live = world.store.current
  target : ∀ index snapshot, (stages index).phase = .changed (some snapshot) → snapshot = world.store.current
  activated : ∀ index, (stages index).phase = .stored → world.live = world.store.current
  numbered : ∀ position entry, (revisionsOf log)[position]? = some entry → entry.2 = seed + position + 1
  counter : world.revision = seed + (revisionsOf log).length

variable {seed : Nat} {world : AppState Snapshot Json}
  {log : List (Index × Entry (Command Snapshot Json) Answer)} {stages : Index → Stage Snapshot}
  {holder changer : Option Index} {index : Index}

omit [DecidableEq Index] in
theorem stackInv_initial (hunlocked : world.storeLocked = false) (hagree : world.live = world.store.current) :
    StackInv world.revision world ([] : List (Index × _)) (fun _ => .idle) none none where
  holds index := by simp [Stage.idle]
  locked := hunlocked
  changes index := by simp [Stage.idle,Stage.Changing]
  order := rfl
  settled _ := hagree
  target index snapshot hphase := by contradiction
  activated index hphase := by contradiction
  numbered position entry hentry := by contradiction
  counter := rfl

variable {entry : Entry (Command Snapshot Json) Answer} {after : AppState Snapshot Json}
  {snapshot : Snapshot}

section
variable (hinv : StackInv seed world log stages holder changer)
include hinv

variable {stage : Stage Snapshot}

theorem StackInv.moved {holder' : Option Index} (hlive : after.live = world.live)
    (hstore : after.store = world.store) (hrevision : after.revision = world.revision)
    (hchanges : changesOf [(index,entry)] = []) (hrevisions : revisionsOf [(index,entry)] = [])
    (hholds : Owner (fun stage => stage.holdsLock = true) (update stages index stage) holder')
    (hlocked : after.storeLocked = holder'.isSome)
    (hphase : stage.phase = (stages index).phase ∨ ¬stage.Changing ∧ ¬(stages index).Changing) :
    StackInv seed after (log ++ [(index,entry)]) (update stages index stage) holder' changer := by
  have hchanges' : changesOf (log ++ [(index,entry)]) = changesOf log := by
    unfold changesOf at hchanges ⊢
    rw [filterMap_append,hchanges,append_nil]
  have hrevisions' : revisionsOf (log ++ [(index,entry)]) = revisionsOf log := by
    unfold revisionsOf at hrevisions ⊢
    rw [filterMap_append,hrevisions,append_nil]
  have hchanging : stage.Changing ↔ (stages index).Changing := by
    rcases hphase with hsame | ⟨hnot,hbefore⟩
    · unfold Stage.Changing
      rw [hsame]
    · simp [hnot,hbefore]
  have hread : ∀ other phase, (update stages index stage other).phase = phase →
      Stage.Changing ⟨false,phase⟩ → (stages other).phase = phase := by
    intro other phase hother hphase'
    by_cases hindex : other = index
    · subst hindex
      rw [update_self] at hother
      rcases hphase with hsame | ⟨hnot,_⟩
      · rw [← hsame,hother]
      · rw [← hother] at hphase'
        exact absurd hphase' hnot
    · rw [update_of_ne hindex] at hother
      exact hother
  constructor
  · exact hholds
  · exact hlocked
  · exact owner_kept hinv.changes hchanging
  · rw [hchanges',hrevisions',hinv.order]
  · rw [hlive,hstore]
    exact hinv.settled
  · intro other snapshot hother
    rw [hstore]
    exact hinv.target other snapshot (hread other _ hother (.inr ⟨_,rfl⟩))
  · intro other hother
    rw [hlive,hstore]
    exact hinv.activated other (hread other _ hother (.inl rfl))
  · rw [hrevisions']
    exact hinv.numbered
  · rw [hrevision,hrevisions',hinv.counter]

theorem StackInv.frame (hlive : after.live = world.live)
    (hstore : after.store = world.store) (hlocked : after.storeLocked = world.storeLocked)
    (hrevision : after.revision = world.revision) (hchanges : changesOf [(index,entry)] = [])
    (hrevisions : revisionsOf [(index,entry)] = []) (hholds : stage.holdsLock = (stages index).holdsLock)
    (hphase : stage.phase = (stages index).phase ∨ ¬stage.Changing ∧ ¬(stages index).Changing) :
    StackInv seed after (log ++ [(index,entry)]) (update stages index stage) holder changer :=
  hinv.moved hlive hstore hrevision hchanges hrevisions (owner_kept hinv.holds (by rw [hholds]))
    (by rw [hlocked,hinv.locked]) hphase

theorem StackInv.loadRevision (hloaded : (stages index).phase = .loaded snapshot) :
    StackInv seed world (log ++ [(index,⟨.loadRevision,world.revision⟩)])
      (update stages index ⟨(stages index).holdsLock,.labelled snapshot world.revision⟩) holder changer := by
  refine hinv.frame rfl rfl rfl rfl rfl rfl rfl (.inr ⟨?_,?_⟩)
  · simp [Stage.Changing]
  · simp [Stage.Changing,hloaded]

theorem StackInv.lockStore (hfree : world.storeLocked = false) :
    StackInv seed { world with storeLocked := true } (log ++ [(index,⟨.lockStore,()⟩)])
      (update stages index ⟨true,(stages index).phase⟩) (some index) changer := by
  have hnone : holder = none := by
    rw [hinv.locked] at hfree
    exact isSome_eq_false_iff.mp hfree |> isNone_iff_eq_none.mp
  subst hnone
  exact hinv.moved rfl rfl rfl rfl rfl (owner_taken hinv.holds rfl) rfl (.inl rfl)

theorem StackInv.unlockStore (hheld : (stages index).holdsLock = true) :
    StackInv seed { world with storeLocked := false } (log ++ [(index,⟨.unlockStore,()⟩)])
      (update stages index ⟨false,(stages index).phase⟩) none changer := by
  have hself : holder = some index := (hinv.holds index).mp hheld
  subst hself
  exact hinv.moved rfl rfl rfl rfl rfl (owner_released hinv.holds (by simp)) rfl (.inl rfl)

end

theorem StackInv.change (hinv : StackInv seed world log stages holder none) (store : ConfigStore Snapshot)
    {target : Option Snapshot} (htarget : ∀ snapshot ∈ target, snapshot = store.current)
    (hchanges : changesOf [(index,entry)] = [index]) (hrevisions : revisionsOf [(index,entry)] = []) :
    StackInv seed { world with store := store } (log ++ [(index,entry)])
      (update stages index ⟨(stages index).holdsLock,.changed target⟩)
      holder (some index) := by
  have hrevisions' : revisionsOf (log ++ [(index,entry)]) = revisionsOf log := by
    unfold revisionsOf at hrevisions ⊢
    rw [filterMap_append,hrevisions,append_nil]
  have hnone : ∀ other, ¬(stages other).Changing := by
    intro other hchanging
    exact absurd ((hinv.changes other).mp hchanging) (by simp)
  constructor
  · exact owner_kept hinv.holds Iff.rfl
  · exact hinv.locked
  · exact owner_taken hinv.changes (.inr ⟨target,rfl⟩)
  · have horder := hinv.order
    unfold changesOf at hchanges horder ⊢
    rw [filterMap_append,hchanges,hrevisions',horder]
    simp
  · intro hsome
    contradiction
  · intro other snapshot hother
    by_cases hindex : other = index
    · subst hindex
      rw [update_self] at hother
      exact htarget snapshot (Phase.changed.inj hother)
    · rw [update_of_ne hindex] at hother
      exact absurd (.inr ⟨_,hother⟩) (hnone other)
  · intro other hother
    obtain ⟨_,hother⟩ := phase_of_update hother (by simp)
    exact absurd (.inl hother) (hnone other)
  · rw [hrevisions']
    exact hinv.numbered
  · rw [hrevisions']
    exact hinv.counter

section
variable (hinv : StackInv seed world log stages holder changer)
include hinv

theorem StackInv.readTarget (hpopped : (stages index).phase = .changed none) :
    StackInv seed world (log ++ [(index,⟨.currentConfig,world.store.current⟩)])
      (update stages index
        ⟨(stages index).holdsLock,.changed (some world.store.current)⟩) holder changer := by
  constructor
  · exact owner_kept hinv.holds Iff.rfl
  · exact hinv.locked
  · apply owner_kept hinv.changes
    simp [Stage.Changing,hpopped]
  · simpa [changesOf,revisionsOf] using hinv.order
  · exact hinv.settled
  · intro other snapshot hother
    by_cases hindex : other = index
    · subst hindex
      rw [update_self] at hother
      exact (some.inj (Phase.changed.inj hother)).symm
    · rw [update_of_ne hindex] at hother
      exact hinv.target other snapshot hother
  · intro other hother
    obtain ⟨_,hother⟩ := phase_of_update hother (by simp)
    exact hinv.activated other hother
  · simpa [revisionsOf] using hinv.numbered
  · simpa [revisionsOf] using hinv.counter

theorem StackInv.storeLive (hchanged : (stages index).phase = .changed (some snapshot)) :
    StackInv seed { world with live := snapshot } (log ++ [(index,⟨.storeLive snapshot,()⟩)])
      (update stages index ⟨(stages index).holdsLock,.stored⟩) holder changer := by
  have hcurrent : snapshot = world.store.current := hinv.target index snapshot hchanged
  constructor
  · exact owner_kept hinv.holds Iff.rfl
  · exact hinv.locked
  · apply owner_kept hinv.changes
    simp [Stage.Changing,hchanged]
  · simpa [changesOf,revisionsOf] using hinv.order
  · intro _
    exact hcurrent
  · intro other target hother
    obtain ⟨_,hother⟩ := phase_of_update hother (by simp)
    exact hinv.target other target hother
  · intro _ _
    exact hcurrent
  · simpa [revisionsOf] using hinv.numbered
  · simpa [revisionsOf] using hinv.counter

theorem StackInv.fetchAddRevision (hstored : (stages index).phase = .stored) :
    StackInv seed { world with revision := world.revision + 1 }
      (log ++ [(index,⟨.fetchAddRevision,world.revision⟩)])
      (update stages index ⟨(stages index).holdsLock,.outside⟩) holder none := by
  have hself : changer = some index := (hinv.changes index).mp (.inl hstored)
  subst hself
  have hrevisions : revisionsOf (log ++ [(index,⟨.fetchAddRevision,world.revision⟩)]) =
      revisionsOf log ++ [(index,world.revision + 1)] := by
    simp [revisionsOf]
  have hothers : ∀ other, other ≠ index → ¬(stages other).Changing := by
    intro other hother hchanging
    exact hother (some.inj ((hinv.changes other).mp hchanging)).symm
  constructor
  · exact owner_kept hinv.holds Iff.rfl
  · exact hinv.locked
  · exact owner_released hinv.changes (not_changing_of_outside rfl)
  · rw [hrevisions]
    simpa [changesOf] using hinv.order
  · intro _
    exact hinv.activated index hstored
  · intro other target hother
    obtain ⟨hindex,hother⟩ := phase_of_update hother (by simp)
    exact absurd (.inr ⟨_,hother⟩) (hothers other hindex)
  · intro other hother
    obtain ⟨hindex,hother⟩ := phase_of_update hother (by simp)
    exact absurd (.inl hother) (hothers other hindex)
  · intro position entry hentry
    rw [hrevisions,getElem?_append] at hentry
    by_cases hposition : position < (revisionsOf log).length
    · rw [if_pos hposition] at hentry
      exact hinv.numbered position entry hentry
    · rw [if_neg hposition] at hentry
      have hlast : position = (revisionsOf log).length := by
        have hlt := (List.getElem?_eq_some_iff.mp hentry).1
        simp only [List.length_singleton] at hlt
        omega
      subst hlast
      simp only [Nat.sub_self,getElem?_cons_zero,some.injEq] at hentry
      rw [← hentry,hinv.counter]
  · have hcounter := hinv.counter
    rw [hrevisions,length_append,List.length_singleton]
    dsimp only
    omega

end

theorem stackInv_preserves :
    protocol.Preserves (machine : Machine (Command Snapshot Json) Answer _ _) (fun _ : Index => .idle)
      NoneReleased (fun world log stages => ∃ holder changer,
        StackInv seed world log stages holder changer) := by
  rintro system index input command hpending hready hgood hallowed ⟨holder,changer,hinv⟩
  unfold NoneReleased stagesOf at hgood
  rw [hpending] at hgood
  generalize protocol.stages (fun _ => Stage.idle) system = stages at *
  -- a holder of the lock that is about to change the stack finds no change unpublished
  have hnone : (stages index).holdsLock = true → (stages index).phase = .outside →
      (∀ other, (stages other).Changing → (stages other).holdsLock = true) → changer = none := by
    intro hheld houtside hreleased
    cases hchanger : changer with
    | none => rfl
    | some other =>
      have hchanging : (stages other).Changing := (hinv.changes other).mpr hchanger
      have hother := (hinv.holds other).mp (hreleased other hchanging)
      rw [(hinv.holds index).mp hheld] at hother
      obtain rfl := some.inj hother
      exact absurd hchanging (not_changing_of_outside houtside)
  cases command with
  | lockStore =>
    have hfree : system.world.storeLocked = false := by
      simpa only [machine,ready,Bool.not_eq_true'] using hready
    exact ⟨_,_,hinv.lockStore hfree⟩
  | unlockStore => exact ⟨_,_,hinv.unlockStore hallowed⟩
  | pushConfig snapshot =>
    obtain rfl := hnone hallowed.1 hallowed.2 hgood
    exact ⟨_,_,hinv.change (system.world.store.push snapshot) (by simp) rfl rfl⟩
  | popConfig =>
    obtain rfl := hnone hallowed.1 hallowed.2 hgood
    exact ⟨_,_,hinv.change system.world.store.pop (by simp) rfl rfl⟩
  | currentConfig =>
    rcases next_currentConfig_cases Json (stages index) system.world.store.current with ⟨hphase,hnext⟩ | hnext
    · have hafter := hinv.readTarget hphase
      rw [← hnext] at hafter
      exact ⟨_,_,hafter⟩
    · exact ⟨_,_,hinv.frame rfl rfl rfl rfl rfl rfl (congrArg Stage.holdsLock hnext)
        (.inl (congrArg Stage.phase hnext))⟩
  | storeLive snapshot => exact ⟨_,_,hinv.storeLive hallowed⟩
  | fetchAddRevision => exact ⟨_,_,hinv.fetchAddRevision hallowed⟩
  | loadLive =>
    refine ⟨_,_,hinv.frame rfl rfl rfl rfl rfl rfl rfl (.inr ⟨?_,not_changing_of_outside hallowed⟩)⟩
    simp [protocol,Stage.next,Stage.Changing]
  | loadRevision =>
    rcases next_loadRevision_cases Json (stages index) system.world.revision with ⟨snapshot,hphase,hnext⟩ | hnext
    · have hafter := hinv.loadRevision hphase
      rw [← hnext] at hafter
      exact ⟨_,_,hafter⟩
    · exact ⟨_,_,hinv.frame rfl rfl rfl rfl rfl rfl (congrArg Stage.holdsLock hnext)
        (.inl (congrArg Stage.phase hnext))⟩
  | record row =>
    refine ⟨_,_,hinv.frame ?_ ?_ ?_ ?_ rfl rfl rfl (.inl rfl)⟩ <;>
      cases hfate : input.record <;> simp only [machine,exec,hfate]
  | appendEvent event =>
    refine ⟨_,_,hinv.frame ?_ ?_ ?_ ?_ rfl rfl rfl (.inl rfl)⟩ <;> simp only [machine,exec]
  | nowSecs | broadcast event => exact ⟨_,_,hinv.frame rfl rfl rfl rfl rfl rfl rfl (.inl rfl)⟩

/-- Once every request that changed the stack has finished, the live
configuration is the top of the stack; and the n-th published revision is that
of the n-th change. -/
theorem stack_agrees_of_noneReleased (env : Env Snapshot Json) (initial : AppState Snapshot Json)
    (requests : Index → Request Snapshot) (events : List (Index × Input))
    (hunlocked : initial.storeLocked = false) (hagree : initial.live = initial.store.current)
    (hgood : Along (System.step machine) NoneReleased (startSystem env initial requests) events) :
    let final := run (System.step machine) (startSystem env initial requests) events
    ((∀ index ∈ changesOf final.log, (final.processes index).result.isSome = true) →
      final.world.live = final.world.store.current) ∧
    ∀ position index revision, (revisionsOf final.log)[position]? = some (index,revision) →
      (changesOf final.log)[position]? = some index ∧ revision = initial.revision + position + 1 := by
  intro final
  have hstart : protocol.Holds (fun _ : Index => Stage.idle) (fun _ => Settled)
      (fun world log stages => ∃ holder changer, StackInv initial.revision world log stages holder changer)
      (startSystem env initial requests) :=
    .start ⟨none,none,stackInv_initial hunlocked hagree⟩ fun index => handle_follows env (requests index)
  have hholds := Protocol.Holds.run machine_serves stackInv_preserves hgood hstart
  obtain ⟨holder,changer,hinv⟩ := hholds.inv
  constructor
  · intro hfinished
    cases changer with
    | none => exact hinv.settled rfl
    | some index =>
      have hmem : index ∈ changesOf final.log := by
        rw [hinv.order]
        simp
      obtain ⟨response,hresult⟩ := isSome_iff_exists.mp (hfinished index hmem)
      exact absurd ((hinv.changes index).mpr rfl) (not_changing_of_settled (hholds.settled hresult))
  · intro position index revision hentry
    refine ⟨?_,hinv.numbered position _ hentry⟩
    have hlt := (List.getElem?_eq_some_iff.mp hentry).1
    rw [hinv.order,List.getElem?_append_left (by simpa using hlt),List.getElem?_map,hentry]
    rfl

/-! ## One rollback and one push -/

def rollbackAndPost : Bool → Request String
  | false => .rollback ⟨true,true,"10.0.0.1"⟩
  | true => .post ⟨⟨true,true,"10.0.0.2"⟩,.ok "v3",false⟩

/-- The rollback pops and releases the lock, the push runs from start to end,
and then the rollback activates what it had read. -/
def crossedRun : List (Bool × Input) :=
  List.replicate 4 (tick false) ++ List.replicate 11 (tick true) ++ List.replicate 5 (tick false)

def orderedRun : List (Bool × Input) := List.replicate 9 (tick false) ++ List.replicate 11 (tick true)

theorem noneReleased_orderedRun :
    Along (.step machine) NoneReleased (startSystem sampleEnv sampleState rollbackAndPost) orderedRun := by
  refine ⟨trivial,?_,trivial,trivial,trivial,trivial,trivial,trivial,trivial,trivial,trivial,
    trivial,trivial,?_,trivial,trivial,trivial,trivial,trivial,trivial,trivial⟩
  · intro other hchanging
    cases other <;> rcases hchanging with hphase | ⟨target,hphase⟩ <;> cases hphase
  · intro other hchanging
    cases other <;> rcases hchanging with hphase | ⟨target,hphase⟩ <;> cases hphase

theorem stack_agrees_orderedRun :
    (run (.step machine) (startSystem sampleEnv sampleState rollbackAndPost)
      orderedRun).world.live = "v3" :=
  (stack_agrees_of_noneReleased sampleEnv sampleState rollbackAndPost orderedRun rfl rfl
    noneReleased_orderedRun).1 (by decide)

theorem rollback_overtaken_by_post :
    let final := run (.step machine) (startSystem sampleEnv sampleState rollbackAndPost)
      crossedRun
    (∀ index, (final.processes index).result.isSome = true) ∧
      final.world.live = "v1" ∧ final.world.store.current = "v3" ∧
      changesOf final.log = [false,true] ∧ revisionsOf final.log = [(true,3),(false,4)] := by
  decide

end Routiq.ControlPlane.MutationOrder
