import Routiq.Core.Runs

/-! The config watcher of a worker. It takes the modification time of the file
and the content in two steps, between which the file may be replaced, so it may
remember an older time than that of the content it has loaded. -/
namespace Routiq.Edge.ConfigWatch
open Core.Runs List

variable {Content Config : Type}

/-! ## The file and the watcher -/

def unixEpoch : Nat := 0

structure FileVersion (Content : Type) where
  content : Content
  modified : Nat
  afterEpoch : unixEpoch < modified
deriving DecidableEq

/-- What a worker makes of a content: the parsed configuration, then the
secrets, origins and upstreams of the environment over it. -/
structure Loader (Content Config : Type) where
  fromStr : Content → Option Config
  applySecretOverrides : Config → Config
  default : Config

def Loader.load (loader : Loader Content Config) (content : Content) : Option Config :=
  (loader.fromStr content).map loader.applySecretOverrides

inductive Phase where
  | idle
  /-- The file had this modification time and is to be read. -/
  | statted (modified : Nat)
deriving DecidableEq

structure Watch (Content Config : Type) where
  /-- What the file has held, the current version last. -/
  files : List (FileVersion Content)
  phase : Phase
  lastModified : Nat
  live : Config
  /-- The versions that were activated, in order. -/
  loads : List (FileVersion Content)

def Watch.start (loader : Loader Content Config) : Watch Content Config :=
  ⟨[],.idle,unixEpoch,loader.default,[]⟩

/-- A replacement by the sidecar, or the next file operation of the watcher,
which may fail. -/
inductive WatchEvent (Content : Type) where
  | replace (file : FileVersion Content)
  | poll (answered : Bool)

section
variable (loader : Loader Content Config) (watch : Watch Content Config)

/-- `try_reload_config`, one file operation at a time. -/
def reloadStep (answered : Bool) : Watch Content Config :=
  match watch.files.getLast?, answered with
  | none, _ | _, false => { watch with phase := .idle }
  | some file, true =>
    match watch.phase with
    | .idle =>
      if file.modified ≤ watch.lastModified then watch
      else { watch with phase := .statted file.modified }
    | .statted modified =>
      match loader.load file.content with
      | none => { watch with phase := .idle }
      | some config =>
        { watch with
          phase := .idle
          lastModified := modified
          live := config
          loads := watch.loads ++ [file] }

def watchStep : WatchEvent Content → Watch Content Config
  | .replace file => { watch with files := watch.files ++ [file] }
  | .poll answered => reloadStep loader watch answered

def Increasing (watch : Watch Content Config) : WatchEvent Content → Prop
  | .replace file => ∀ earlier ∈ watch.files, earlier.modified < file.modified
  | .poll _ => True

/-! ## What one file operation does -/

/-- It changes nothing but the phase, or it activates the current version of
the file. -/
theorem reloadStep_cases
    (answered : Bool) : (∃ phase, reloadStep loader watch answered = { watch with phase := phase } ∧
      (phase = .idle ∨ phase = watch.phase ∨ ∃ file, watch.files.getLast? = some file ∧
        watch.lastModified < file.modified ∧ phase = .statted file.modified)) ∨
    ∃ file modified config, watch.files.getLast? = some file ∧ watch.phase = .statted modified ∧
      loader.load file.content = some config ∧
      reloadStep loader watch answered = { watch with
          phase := .idle
          lastModified := modified
          live := config
          loads := watch.loads ++ [file] } := by
  unfold reloadStep
  cases hfile : watch.files.getLast? with
  | none => exact .inl ⟨.idle,rfl,.inl rfl⟩
  | some file =>
    cases answered with
    | false => exact .inl ⟨.idle,rfl,.inl rfl⟩
    | true =>
      cases hphase : watch.phase with
      | idle =>
        by_cases hseen : file.modified ≤ watch.lastModified
        · exact .inl ⟨.idle,by simp [hseen,← hphase],.inl rfl⟩
        · exact .inl ⟨.statted file.modified,by simp [hseen],
            .inr (.inr ⟨file,rfl,Nat.not_le.mp hseen,rfl⟩)⟩
      | statted modified =>
        cases hload : loader.load file.content with
        | none => exact .inl ⟨.idle,by simp [hload],.inl rfl⟩
        | some config => exact .inr ⟨file,modified,config,rfl,rfl,hload,by simp [hload]⟩

/-! ## Every interleaving -/

def lastLoaded (loader : Loader Content Config) (loads : List (FileVersion Content)) : Config :=
  (loads.getLast?.bind fun file => loader.load file.content).getD loader.default

def Seen (watch : Watch Content Config) (time : Nat) : Prop :=
  time = unixEpoch ∨ ∃ file ∈ watch.files, time ≤ file.modified

structure WatchInv : Prop where
  increasing : watch.files.Pairwise fun earlier later => earlier.modified < later.modified
  live : watch.live = lastLoaded loader watch.loads
  held : ∀ file ∈ watch.loads, file ∈ watch.files
  ordered : watch.loads.Pairwise fun earlier later => earlier.modified ≤ later.modified
  seen : Seen watch watch.lastModified
  statted : ∀ modified, watch.phase = .statted modified → Seen watch modified
  /-- The watcher remembers the time of the current version only after having
  activated that version. -/
  remembered : ∀ file, watch.files.getLast? = some file → file.modified ≤ watch.lastModified →
    watch.loads.getLast? = some file

end

section Invariant
variable {loader : Loader Content Config} {watch : Watch Content Config}

theorem watchInv_start (loader : Loader Content Config) : WatchInv loader (.start loader) where
  increasing := List.Pairwise.nil
  live := rfl
  held file hmem := by contradiction
  ordered := List.Pairwise.nil
  seen := .inl rfl
  statted modified hphase := by contradiction
  remembered file hlast := by contradiction

variable {file : FileVersion Content}

theorem WatchInv.modified_le (hinv : WatchInv loader watch) {current : FileVersion Content}
    (hmem : file ∈ watch.files) (hcurrent : watch.files.getLast? = some current) :
    file.modified ≤ current.modified := by
  obtain ⟨older,hfiles⟩ := getLast?_eq_some_iff.mp hcurrent
  have hincreasing := hinv.increasing
  rw [hfiles] at hmem hincreasing
  rcases mem_append.mp hmem with holder | hlast
  · exact Nat.le_of_lt ((pairwise_append.mp hincreasing).2.2 file holder current (by simp))
  · exact Nat.le_of_eq (congrArg FileVersion.modified (mem_singleton.mp hlast))

theorem Seen.replaced {time : Nat} (hseen : Seen watch time) (file : FileVersion Content) :
    Seen { watch with files := watch.files ++ [file] } time :=
  hseen.imp id fun ⟨earlier,hmem,hle⟩ => ⟨earlier,mem_append_left _ hmem,hle⟩

theorem Seen.lt_of_increasing {time : Nat} (hseen : Seen watch time)
    (hincreasing : Increasing watch (.replace file)) : time < file.modified := by
  rcases hseen with rfl | ⟨earlier,hmem,hle⟩
  · exact file.afterEpoch
  · exact Nat.lt_of_le_of_lt hle (hincreasing earlier hmem)

section
variable (hinv : WatchInv loader watch)
include hinv

theorem WatchInv.replace (hincreasing : Increasing watch (.replace file)) :
    WatchInv loader { watch with files := watch.files ++ [file] } where
  increasing := by
    rw [pairwise_append]
    refine ⟨hinv.increasing,pairwise_singleton _ _,?_⟩
    intro earlier hearlier later hlater
    rw [mem_singleton.mp hlater]
    exact hincreasing earlier hearlier
  live := hinv.live
  held := fun loaded hloaded => mem_append_left _ (hinv.held loaded hloaded)
  ordered := hinv.ordered
  seen := hinv.seen.replaced file
  statted := fun modified hphase => (hinv.statted modified hphase).replaced file
  remembered := by
    intro current hcurrent hle
    rw [getLast?_concat] at hcurrent
    rw [← Option.some.inj hcurrent] at hle
    exact absurd (hinv.seen.lt_of_increasing hincreasing) (Nat.not_lt.mpr hle)

theorem WatchInv.phase {phase : Phase}
    (hphase : phase = .idle ∨ phase = watch.phase ∨ ∃ file, watch.files.getLast? = some file ∧
      watch.lastModified < file.modified ∧ phase = .statted file.modified) :
    WatchInv loader { watch with phase := phase } where
  increasing := hinv.increasing
  live := hinv.live
  held := hinv.held
  ordered := hinv.ordered
  seen := hinv.seen
  statted := by
    intro modified hstatted
    rcases hphase with hidle | hsame | ⟨file,hcurrent,_,hnew⟩
    · rw [hidle] at hstatted
      contradiction
    · exact hinv.statted modified (hsame.symm.trans hstatted)
    · have htime : file.modified = modified := Phase.statted.inj (hnew.symm.trans hstatted)
      exact .inr ⟨file,mem_of_getLast? hcurrent,Nat.le_of_eq htime.symm⟩
  remembered := hinv.remembered

theorem WatchInv.activate {modified : Nat} {config : Config}
    (hcurrent : watch.files.getLast? = some file) (hphase : watch.phase = .statted modified)
    (hload : loader.load file.content = some config) : WatchInv loader
      { watch with
        phase := .idle
        lastModified := modified
        live := config
        loads := watch.loads ++ [file] } where
  increasing := hinv.increasing
  live := by simp [lastLoaded,hload]
  held := by
    intro loaded hloaded
    rcases mem_append.mp hloaded with hloaded | hloaded
    · exact hinv.held loaded hloaded
    · rw [mem_singleton.mp hloaded]
      exact mem_of_getLast? hcurrent
  ordered := by
    rw [pairwise_append]
    refine ⟨hinv.ordered,pairwise_singleton _ _,?_⟩
    intro earlier hearlier later hlater
    rw [mem_singleton.mp hlater]
    exact hinv.modified_le (hinv.held earlier hearlier) hcurrent
  seen := hinv.statted modified hphase
  statted := fun _ hstatted => by contradiction
  remembered := by
    intro current hlast _
    rw [getLast?_concat,← hcurrent]
    exact hlast

end

theorem watchInv_step {event : WatchEvent Content} (hincreasing : Increasing watch event)
    (hinv : WatchInv loader watch) : WatchInv loader (watchStep loader watch event) := by
  cases event with
  | replace file => exact hinv.replace hincreasing
  | poll answered =>
    change WatchInv loader (reloadStep loader watch answered)
    rcases reloadStep_cases loader watch answered with
      ⟨phase,hstep,hphase⟩ | ⟨file,modified,config,hcurrent,hphase,hload,hstep⟩
    · rw [hstep]
      exact hinv.phase hphase
    · rw [hstep]
      exact hinv.activate hcurrent hphase hload

/-! ## Once the file stops changing -/

def Polling (event : WatchEvent Content) : Prop := ∃ answered, event = .poll answered

theorem files_reloadStep (loader : Loader Content Config) (watch : Watch Content Config)
    (answered : Bool) : (reloadStep loader watch answered).files = watch.files := by
  rcases reloadStep_cases loader watch answered with ⟨_,hstep,_⟩ | ⟨_,_,_,_,_,_,hstep⟩ <;>
  rw [hstep]

def Activated (file : FileVersion Content) (watch : Watch Content Config) : Prop :=
  watch.files.getLast? = some file ∧ watch.loads.getLast? = some file

theorem Activated.reloadStep (hactivated : Activated file watch) (answered : Bool) :
    Activated file (reloadStep loader watch answered) := by
  refine ⟨(files_reloadStep loader watch answered).symm ▸ hactivated.1,?_⟩
  rcases reloadStep_cases loader watch answered with ⟨_,hstep,_⟩ | ⟨read,_,_,hread,_,_,hstep⟩
  · rw [hstep]
    exact hactivated.2
  · rw [hstep,getLast?_concat,← hread]
    exact hactivated.1

theorem activated_of_two_polls (hinv : WatchInv loader watch) {config : Config}
    (hcurrent : watch.files.getLast? = some file) (hload : loader.load file.content = some config) :
    Activated file (reloadStep loader (reloadStep loader watch true) true) := by
  cases hphase : watch.phase with
  | idle =>
    by_cases hseen : file.modified ≤ watch.lastModified
    · have hactivated : Activated file watch := ⟨hcurrent,hinv.remembered file hcurrent hseen⟩
      exact (hactivated.reloadStep true).reloadStep true
    · have hstat : reloadStep loader watch true = { watch with phase := .statted file.modified } := by
        simp [reloadStep,hcurrent,hphase,hseen]
      rw [hstat]
      simp [reloadStep,Activated,hcurrent,hload]
  | statted modified =>
    have hactivated : Activated file (reloadStep loader watch true) := by
      simp [reloadStep,Activated,hcurrent,hphase,hload]
    exact hactivated.reloadStep true

theorem live_reloadStep_of_invalid (hcurrent : watch.files.getLast? = some file)
    (hload : loader.load file.content = none) (answered : Bool) :
    (reloadStep loader watch answered).live = watch.live := by
  rcases reloadStep_cases loader watch answered with ⟨_,hstep,_⟩ | ⟨read,_,_,hread,_,hparsed,_⟩
  · rw [hstep]
  · rw [hcurrent] at hread
    rw [← Option.some.inj hread,hload] at hparsed
    contradiction

variable {events : List (WatchEvent Content)}

theorem polling_run {property : Watch Content Config → Prop}
    (hstep : ∀ watch answered, property watch → property (reloadStep loader watch answered))
    (hpolling : ∀ event ∈ events, Polling event) {watch : Watch Content Config}
    (hproperty : property watch) : property (run (watchStep loader) watch events) := by
  induction events generalizing watch with
  | nil => exact hproperty
  | cons event events ih =>
    obtain ⟨answered,rfl⟩ := hpolling event mem_cons_self
    exact ih (fun later hlater => hpolling later (mem_cons_of_mem _ hlater))
      (hstep watch answered hproperty)

theorem watchInv_run (hincreasing : Along (watchStep loader) Increasing (.start loader) events) :
    WatchInv loader (run (watchStep loader) (.start loader) events) := by
  have hstep : ∀ (watch : Watch Content Config) (event : WatchEvent Content), Increasing watch event →
      WatchInv loader watch → WatchInv loader (watchStep loader watch event) :=
    fun _ _ hevent hinv => watchInv_step hevent hinv
  exact invariant_run hstep hincreasing (watchInv_start loader)

end Invariant

/-- At every time the live configuration is that of the last version activated,
versions of the file are activated in their order, a valid last content is live
after one undisturbed stat and read, and an invalid one leaves live what was. -/
theorem watcher_follows_file (loader : Loader Content Config) (events : List (WatchEvent Content))
    (hincreasing : Along (watchStep loader) Increasing (.start loader) events) :
    let final := run (watchStep loader) (.start loader) events
    final.live = lastLoaded loader final.loads ∧
    (∀ file ∈ final.loads, file ∈ final.files) ∧
    final.loads.Pairwise (fun earlier later => earlier.modified ≤ later.modified) ∧
    ∀ before file after, events = before ++ .replace file :: after → (∀ event ∈ after, Polling event) →
      (∀ config first second, loader.load file.content = some config →
        after = first ++ .poll true :: .poll true :: second → final.live = config) ∧
      (loader.load file.content = none →
        final.live = (run (watchStep loader) (.start loader) before).live) := by
  intro final
  have hfinal : WatchInv loader final := watchInv_run hincreasing
  refine ⟨hfinal.live,hfinal.held,hfinal.ordered,?_⟩
  rintro before file after rfl hpolling
  have hreplaced : (run (watchStep loader) (.start loader) (before ++ [.replace file])).files.getLast? =
      some file := by
    rw [run_append]
    exact getLast?_concat
  have hcurrent : ∀ (watch : Watch Content Config) answered, watch.files.getLast? = some file →
      (reloadStep loader watch answered).files.getLast? = some file := by
    intro watch answered hlast
    rw [files_reloadStep]
    exact hlast
  constructor
  · rintro config first second hload rfl
    have hfirst : ∀ event ∈ first, Polling event := fun event hmem =>
      hpolling event (mem_append_left _ hmem)
    have hsecond : ∀ event ∈ second, Polling event := fun event hmem =>
      hpolling event (mem_append_right _ (mem_cons_of_mem _ (mem_cons_of_mem _ hmem)))
    have hsplit : before ++ .replace file :: (first ++ .poll true :: .poll true :: second) =
        (before ++ [.replace file] ++ first) ++ (.poll true :: .poll true :: second) := by
      simp
    have hinv := watchInv_run ((along_append _ _ _ _ _).mp (hsplit ▸ hincreasing)).1
    have hlast := polling_run hcurrent hfirst hreplaced
    rw [← run_append] at hlast
    have hactivated : Activated file final := by
      unfold final
      rw [hsplit,run_append,run_cons,run_cons]
      exact polling_run (fun _ answered hactivated => hactivated.reloadStep answered) hsecond
        (activated_of_two_polls hinv hlast hload)
    rw [hfinal.live,lastLoaded,hactivated.2]
    simp [hload]
  · intro hload
    have hsplit : before ++ .replace file :: after = (before ++ [.replace file]) ++ after := by simp
    have hkept : ∀ watch answered, watch.files.getLast? = some file ∧
          watch.live = (run (watchStep loader) (.start loader) before).live →
        (reloadStep loader watch answered).files.getLast? = some file ∧
          (reloadStep loader watch answered).live =
            (run (watchStep loader) (.start loader) before).live := by
      intro watch answered ⟨hlast,hlive⟩
      exact ⟨hcurrent watch answered hlast,(live_reloadStep_of_invalid hlast hload answered).trans hlive⟩
    unfold final
    rw [hsplit,run_append]
    refine (polling_run hkept hpolling ⟨hreplaced,?_⟩).2
    rw [run_append]
    rfl

/-! ## A version that replaces another between stat and read -/

def sampleLoader : Loader String String := ⟨fun content => if content = "" then none else some content,id,"v0"⟩
def firstVersion : FileVersion String := ⟨"v1",5,by decide⟩
def secondVersion : FileVersion String := ⟨"v2",6,by decide⟩

def overtakenRead : List (WatchEvent String) :=
  [.replace firstVersion,.poll true,.replace secondVersion,.poll true,.poll true]

theorem increasing_overtakenRead :
    Along (watchStep sampleLoader) Increasing (.start sampleLoader) overtakenRead := by
  refine ⟨?_,trivial,?_,trivial,trivial,trivial⟩
  · exact fun earlier hmem => absurd hmem not_mem_nil
  · intro earlier hmem
    rw [mem_singleton.mp (hmem : earlier ∈ [firstVersion])]
    decide

theorem watcher_follows_overtakenRead :
    (run (watchStep sampleLoader) (.start sampleLoader) overtakenRead).live = "v2" :=
  ((watcher_follows_file sampleLoader overtakenRead increasing_overtakenRead).2.2.2
    [.replace firstVersion,.poll true] secondVersion [.poll true,.poll true] rfl
    (by simp [Polling])).1 "v2" [] [] rfl rfl

end Routiq.Edge.ConfigWatch
