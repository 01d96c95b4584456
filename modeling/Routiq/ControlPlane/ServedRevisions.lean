import Routiq.ControlPlane.Stages
import Routiq.ControlPlane.Sidecar

/-! Whether a served configuration carries the revision it was published under.
A read loads the live configuration and then the counter; a mutation stores the
one and then bumps the other. -/
namespace Routiq.ControlPlane.ServedRevisions
open Function Core.Runs Core.Processes Store Handlers Stages Sidecar Function

variable {Index Snapshot Json : Type}

/-! ## What was live under each revision -/

/-- The live configuration as the log leaves it, and the one that was live when
each revision was published. -/
structure Publications (Snapshot : Type) where
  live : Snapshot
  published : Nat → Option Snapshot

def Publications.initial (state : AppState Snapshot Json) : Publications Snapshot :=
  ⟨state.live,update (fun _ => none) state.revision (some state.live)⟩

def Publications.observe (publications : Publications Snapshot) :
    Entry (Command Snapshot Json) Answer → Publications Snapshot
  | ⟨.storeLive snapshot,_⟩ => { publications with live := snapshot }
  | ⟨.fetchAddRevision,previous⟩ =>
    { publications with
      published := update publications.published (previous + 1) (some publications.live) }
  | _ => publications

def publicationsOf (state : AppState Snapshot Json)
    (log : List (Index × Entry (Command Snapshot Json) Answer)) : Publications Snapshot :=
  log.foldl (fun publications entry => publications.observe entry.2) (.initial state)

variable (state : AppState Snapshot Json)

@[simp] theorem publicationsOf_nil :
    publicationsOf state ([] : List (Index × Entry (Command Snapshot Json) Answer)) = .initial state := rfl

theorem publicationsOf_concat (log : List (Index × Entry (Command Snapshot Json) Answer)) (index : Index)
    (entry : Entry (Command Snapshot Json) Answer) :
    publicationsOf state (log ++ [(index,entry)]) = (publicationsOf state log).observe entry := by
  simp [publicationsOf,List.foldl_append]

/-! ## Reads and mutations that do not overlap -/

abbrev ConfigSystem (Index Snapshot Json : Type) :=
  System Index (Command Snapshot Json) Answer (AppState Snapshot Json) (Response Snapshot)

variable [DecidableEq Index]

section
variable (system : ConfigSystem Index Snapshot Json)

def stagesOf : Index → Stage Snapshot :=
  protocol.stages (fun _ => .idle) system

/-- A read starts only when no mutation is between its store and its counter
bump, and a mutation stores only when no read is between its two loads. -/
def NoOverlap (event : Index × Input) : Prop :=
  match (system.processes event.1).pending with
  | some .loadLive => ∀ other, (stagesOf system other).phase ≠ .stored
  | some (.storeLive _) => ∀ other snapshot, (stagesOf system other).phase ≠ .loaded snapshot
  | _ => True

end

/-- While no mutation is between its two steps, the live configuration is the
one published under the counter's revision. -/
structure LabelInv (initial world : AppState Snapshot Json)
    (log : List (Index × Entry (Command Snapshot Json) Answer)) (stages : Index → Stage Snapshot) :
    Prop where
  live : (publicationsOf initial log).live = world.live
  quiet : (∀ index, (stages index).phase ≠ .stored) →
    (publicationsOf initial log).published world.revision = some world.live
  loaded : ∀ index snapshot, (stages index).phase = .loaded snapshot →
    snapshot = world.live ∧ ∀ other, (stages other).phase ≠ .stored
  labelled : ∀ index snapshot revision, (stages index).phase = .labelled snapshot revision →
    revision ≤ world.revision ∧ (publicationsOf initial log).published revision = some snapshot

variable {initial world : AppState Snapshot Json}
  {log : List (Index × Entry (Command Snapshot Json) Answer)} {stages : Index → Stage Snapshot}

omit [DecidableEq Index] in
theorem labelInv_initial : LabelInv initial initial ([] : List (Index × _)) (fun _ => .idle) where
  live := rfl
  quiet _ := by simp [Publications.initial]
  loaded index snapshot hphase := by simp [Stage.idle] at hphase
  labelled index snapshot revision hphase := by simp [Stage.idle] at hphase

variable {index : Index}

theorem phase_of_update {stage : Stage Snapshot} {phase : Phase Snapshot} {other : Index}
    (hother : (update stages index stage other).phase = phase) (hphase : stage.phase ≠ phase) :
    other ≠ index ∧ (stages other).phase = phase := by
  rw [update_apply] at hother
  split at hother
  · contradiction
  · exact ⟨‹_›,hother⟩

section
variable (hinv : LabelInv initial world log stages)
include hinv

theorem LabelInv.frame {after : AppState Snapshot Json} {entry : Entry (Command Snapshot Json) Answer}
    {stage : Stage Snapshot} (hlive : after.live = world.live) (hrevision : after.revision = world.revision)
    (hentry : (publicationsOf initial log).observe entry = publicationsOf initial log)
    (hphase : stage.phase = (stages index).phase ∨
      (stages index).phase ≠ .stored ∧ ∃ target, stage.phase = .changed target) :
    LabelInv initial after (log ++ [(index,entry)]) (update stages index stage) := by
  have hstored : ∀ other, (update stages index stage other).phase = .stored ↔
      (stages other).phase = .stored := by
    intro other
    by_cases hother : other = index
    · subst hother
      rw [update_self]
      rcases hphase with hsame | ⟨hnot,target,hchanged⟩
      · rw [hsame]
      · simp [hchanged,hnot]
    · rw [update_of_ne hother]
  have hread : ∀ other phase, (update stages index stage other).phase = phase →
      (∀ target, phase ≠ .changed target) → (stages other).phase = phase := by
    intro other phase hother hphase'
    by_cases hindex : other = index
    · subst hindex
      rw [update_self] at hother
      rcases hphase with hsame | ⟨_,target,hchanged⟩
      · rw [← hsame,hother]
      · exact absurd (hother.symm.trans hchanged) (hphase' target)
    · rw [update_of_ne hindex] at hother
      exact hother
  constructor
  · rw [publicationsOf_concat,hentry,hlive,hinv.live]
  · intro hnone
    rw [publicationsOf_concat,hentry,hlive,hrevision]
    exact hinv.quiet fun other hother => hnone other ((hstored other).mpr hother)
  · intro other snapshot hother
    obtain ⟨hsnapshot,hnone⟩ := hinv.loaded other snapshot (hread other _ hother (by simp))
    refine ⟨hsnapshot.trans hlive.symm,fun another hanother => ?_⟩
    exact hnone another ((hstored another).mp hanother)
  · intro other snapshot revision hother
    rw [publicationsOf_concat,hentry,hrevision]
    exact hinv.labelled other snapshot revision (hread other _ hother (by simp))

theorem LabelInv.loadLive (hnone : ∀ other, (stages other).phase ≠ .stored) :
    LabelInv initial world (log ++ [(index,⟨.loadLive,world.live⟩)])
      (update stages index ⟨(stages index).holdsLock,.loaded world.live⟩) := by
  have hnone' : ∀ other, (update stages index
      ⟨(stages index).holdsLock,.loaded world.live⟩ other).phase ≠ .stored := by
    rw [forall_update_iff stages fun _ stage => stage.phase ≠ .stored]
    exact ⟨by simp,fun other _ => hnone other⟩
  constructor
  · rw [publicationsOf_concat]
    exact hinv.live
  · intro _
    rw [publicationsOf_concat]
    exact hinv.quiet hnone
  · intro other snapshot hother
    refine ⟨?_,hnone'⟩
    by_cases hindex : other = index
    · subst hindex
      rw [update_self] at hother
      exact (Phase.loaded.inj hother).symm
    · rw [update_of_ne hindex] at hother
      exact (hinv.loaded other snapshot hother).1
  · intro other snapshot revision hother
    rw [publicationsOf_concat]
    obtain ⟨_,hother⟩ := phase_of_update hother (by simp)
    exact hinv.labelled other snapshot revision hother

theorem LabelInv.loadRevision {snapshot : Snapshot} (hloaded : (stages index).phase = .loaded snapshot) :
    LabelInv initial world (log ++ [(index,⟨.loadRevision,world.revision⟩)])
      (update stages index ⟨(stages index).holdsLock,.labelled snapshot world.revision⟩) := by
  obtain ⟨hsnapshot,hnone⟩ := hinv.loaded index snapshot hloaded
  have hpublished := hinv.quiet hnone
  constructor
  · rw [publicationsOf_concat]
    exact hinv.live
  · intro _
    rw [publicationsOf_concat]
    exact hpublished
  · intro other loaded hother
    obtain ⟨_,hother⟩ := phase_of_update hother (by simp)
    refine ⟨(hinv.loaded other loaded hother).1,?_⟩
    rw [forall_update_iff stages fun _ stage => stage.phase ≠ Phase.stored]
    exact ⟨by simp,fun another _ => hnone another⟩
  · intro other labelled revision hother
    rw [publicationsOf_concat]
    by_cases hindex : other = index
    · subst hindex
      rw [update_self] at hother
      obtain ⟨hlabelled,hrevision⟩ := Phase.labelled.inj hother
      rw [← hlabelled,← hrevision,hsnapshot]
      exact ⟨Nat.le_refl _,hpublished⟩
    · rw [update_of_ne hindex] at hother
      exact hinv.labelled other labelled revision hother

theorem LabelInv.storeLive (snapshot : Snapshot)
    (hnone : ∀ other loaded, (stages other).phase ≠ .loaded loaded) :
    LabelInv initial { world with live := snapshot } (log ++ [(index,⟨.storeLive snapshot,()⟩)])
      (update stages index ⟨(stages index).holdsLock,.stored⟩) := by
  constructor
  · rw [publicationsOf_concat]
    rfl
  · intro hquiet
    exact absurd (congrArg Stage.phase (update_self index _ stages)) (hquiet index)
  · intro other loaded hother
    obtain ⟨_,hother⟩ := phase_of_update hother (by simp)
    exact absurd hother (hnone other loaded)
  · intro other labelled revision hother
    rw [publicationsOf_concat]
    obtain ⟨_,hother⟩ := phase_of_update hother (by simp)
    exact hinv.labelled other labelled revision hother

theorem LabelInv.fetchAddRevision (hstored : (stages index).phase = .stored) :
    LabelInv initial { world with revision := world.revision + 1 }
      (log ++ [(index,⟨.fetchAddRevision,world.revision⟩)])
      (update stages index ⟨(stages index).holdsLock,.outside⟩) := by
  constructor
  · rw [publicationsOf_concat]
    exact hinv.live
  · intro _
    rw [publicationsOf_concat]
    simp [Publications.observe,hinv.live]
  · intro other loaded hother
    obtain ⟨_,hother⟩ := phase_of_update hother (by simp)
    exact absurd hstored ((hinv.loaded other loaded hother).2 index)
  · intro other labelled revision hother
    rw [publicationsOf_concat]
    obtain ⟨_,hother⟩ := phase_of_update hother (by simp)
    obtain ⟨hle,hpublished⟩ := hinv.labelled other labelled revision hother
    refine ⟨Nat.le_succ_of_le hle,?_⟩
    have hne : revision ≠ world.revision + 1 := by omega
    simp only [Publications.observe,update_of_ne hne]
    exact hpublished

end

theorem labelInv_preserves :
    protocol.Preserves (machine : Machine (Command Snapshot Json) Answer _ _) (fun _ : Index => .idle)
      NoOverlap (LabelInv initial) := by
  intro system index input command hpending hready hgood hallowed hinv
  unfold NoOverlap stagesOf at hgood
  rw [hpending] at hgood
  generalize protocol.stages (fun _ => .idle) system = stages at *
  cases command with
  | loadLive => exact hinv.loadLive hgood
  | loadRevision =>
    rcases next_loadRevision_cases Json (stages index) system.world.revision with ⟨snapshot,hphase,hnext⟩ | hnext
    · have hafter := hinv.loadRevision hphase
      rw [← hnext] at hafter
      exact hafter
    · exact hinv.frame rfl rfl rfl (.inl (congrArg Stage.phase hnext))
  | storeLive snapshot => exact hinv.storeLive snapshot hgood
  | fetchAddRevision => exact hinv.fetchAddRevision hallowed
  | currentConfig =>
    rcases next_currentConfig_cases Json (stages index) system.world.store.current with ⟨hphase,hnext⟩ | hnext
    · exact hinv.frame rfl rfl rfl (.inr ⟨by simp [hphase],_,congrArg Stage.phase hnext⟩)
    · exact hinv.frame rfl rfl rfl (.inl (congrArg Stage.phase hnext))
  | pushConfig snapshot | popConfig =>
    refine hinv.frame rfl rfl rfl (.inr ⟨?_,_,rfl⟩)
    rw [hallowed.2]
    simp
  | record row =>
    cases hfate : input.record with
    | stored | refused | replyLost =>
      refine hinv.frame ?_ ?_ rfl (.inl rfl) <;> simp only [machine,exec,hfate]
  | nowSecs | lockStore | unlockStore | broadcast event => exact hinv.frame rfl rfl rfl (.inl rfl)
  | appendEvent event => refine hinv.frame ?_ ?_ rfl (.inl rfl) <;> simp only [machine,exec]

/-! ## Served configurations -/

/-- What the agent reads in a served envelope, given what it would find in the
configuration itself. -/
def servedView (version : Snapshot → String) (routes services : Snapshot → Nat) :
    JsonView (SnapshotEnvelope Snapshot) where
  version content := some (version content.snapshot)
  routes content := some (routes content.snapshot)
  services content := some (services content.snapshot)
  revision content := some content.revision

def startSystem (env : Env Snapshot Json) (initial : AppState Snapshot Json)
    (requests : Index → Request Snapshot) : ConfigSystem Index Snapshot Json :=
  .start initial fun index => handle env (requests index)

/-- Every configuration that is served was live when its revision was
published, and so is the one that an agent has activated from such responses:
it misses nothing by ignoring the event of the revision it has. -/
theorem config_labelled_of_noOverlap (env : Env Snapshot Json) (initial : AppState Snapshot Json)
    (requests : Index → Request Snapshot) (events : List (Index × Input))
    (hgood : Along (.step machine) NoOverlap (startSystem env initial requests) events) :
    let final := run (.step machine) (startSystem env initial requests) events
    let published := (publicationsOf initial final.log).published
    (∀ index content, (final.processes index).result = some ⟨200,.envelope content⟩ →
      published content.revision = some content.snapshot) ∧
    ∀ version routes services (fetches : List (Fetch (SnapshotEnvelope Snapshot))),
      (∀ fetch ∈ fetches, ∀ content, fetch.response = .ok content →
        ∃ index, (final.processes index).result = some ⟨200,.envelope content⟩) →
      let agent := run (agentStep (servedView version routes services)) .initial fetches
      ∀ content, agent.file = some content → published agent.sync.currentRevision = some content.snapshot ∧
          decideRevision agent.sync.currentRevision content.revision = .ignore := by
  intro final published
  have hholds : protocol.Holds (fun _ => .idle) (fun _ => Settled) (LabelInv initial) final :=
    .run machine_serves labelInv_preserves hgood
      (.start labelInv_initial fun index => handle_follows env (requests index))
  have hlabelled : ∀ index content, (final.processes index).result = some ⟨200,.envelope content⟩ →
      published content.revision = some content.snapshot := by
    intro index content hresult
    have hsettled := hholds.settled hresult
    exact (hholds.inv.labelled index content.snapshot content.revision hsettled.2).2
  refine ⟨hlabelled,?_⟩
  intro version routes services fetches hserved agent content hfile
  have hagent : FileServed (servedView version routes services)
      (fun content => published content.revision = some content.snapshot) agent := by
    apply fileServed_run _ nofun
    intro fetch hfetch content hresponse
    obtain ⟨index,hresult⟩ := hserved fetch hfetch content hresponse
    exact hlabelled index content hresult
  obtain ⟨hpublished,hrevision⟩ := hagent content hfile
  have hcurrent : agent.sync.currentRevision = content.revision := hrevision
  rw [hcurrent]
  exact ⟨hpublished,if_neg (Nat.lt_irrefl _)⟩

/-! ## One read and one rollback -/

def sampleEnv : Env String String where
  version := id
  withJwtSecret := id
  validateConfig _ := ⟨true,[],[]⟩
  diffReport _ _ := ⟨[],[],[],[],[],[],[],false⟩
  toValue := some
  durable := false

def sampleState : AppState String String where
  live := "v2"
  store := (ConfigStore.new "v1" 20).push "v2"
  storeLocked := false
  revision := 2
  events := []
  broadcasts := []
  revisions := []

def readAndRollback : Bool → Request String
  | false => .get true
  | true => .rollback ⟨true,true,"10.0.0.1"⟩

def tick (index : Bool) : Bool × Input := (index,⟨7,.stored⟩)

/-- The read loads the configuration before, and the revision after, the whole
activation of the rollback. -/
def overlappingRun : List (Bool × Input) :=
  [tick false] ++ List.replicate 6 (tick true) ++ [tick false,tick false]

def separateRun : List (Bool × Input) := List.replicate 3 (tick false) ++ List.replicate 6 (tick true)

theorem noOverlap_separateRun :
    Along (.step machine) NoOverlap (startSystem sampleEnv sampleState readAndRollback) separateRun := by
  refine ⟨?_,trivial,trivial,trivial,trivial,trivial,trivial,?_,trivial,trivial⟩
  · intro other hphase
    cases other <;> cases hphase
  · intro other snapshot hphase
    cases other <;> cases hphase

theorem config_labelled_separateRun : (publicationsOf sampleState (run (.step machine)
      (startSystem sampleEnv sampleState readAndRollback) separateRun).log).published 2 = some "v2" :=
  (config_labelled_of_noOverlap sampleEnv sampleState readAndRollback separateRun
    noOverlap_separateRun).1 false ⟨"v2",2,7⟩ rfl

theorem old_config_served_under_new_revision :
    let final := run (System.step machine) (startSystem sampleEnv sampleState readAndRollback)
      overlappingRun
    (final.processes false).result = some ⟨200,.envelope ⟨"v2",3,7⟩⟩ ∧
      (publicationsOf sampleState final.log).published 3 = some "v1" ∧
      (agentStep (servedView id (fun _ => 1) fun _ => 1) .initial
        ⟨"sse-event",.ok ⟨"v2",3,7⟩,.ok ()⟩) = ⟨⟨3,"v2"⟩,some ⟨"v2",3,7⟩⟩ ∧
      decideRevision 3 3 = .ignore := by
  refine ⟨rfl,rfl,?_,rfl⟩
  decide

end Routiq.ControlPlane.ServedRevisions
