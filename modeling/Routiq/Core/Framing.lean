import Routiq.Core.Runs

/-! Streams that are cut into frames. A framer says where the first complete
frame of a buffer ends, as soon as it is there, and more input never changes
its answer. What a buffering reader hands out then depends on the stream only,
not on the reads it arrived in. -/
namespace Routiq.Core.Framing
open Runs List Option

variable {Symbol : Type*}

structure Framer (Symbol : Type*) where
  frameEnd : List Symbol → Option Nat
  positive : ∀ {buffer size}, frameEnd buffer = some size → 0 < size
  within : ∀ {buffer size}, frameEnd buffer = some size → size ≤ buffer.length
  stable : ∀ {buffer size} rest, frameEnd buffer = some size → frameEnd (buffer ++ rest) = some size
  prompt : ∀ {buffer rest size}, frameEnd (buffer ++ rest) = some size → size ≤ buffer.length →
    frameEnd buffer = some size

/-! ## Draining a buffer -/

structure Drained (Symbol : Type*) where
  frames : List (List Symbol)
  rest : List Symbol

variable {size : Nat}

namespace Framer

variable (framer : Framer Symbol)

def drainWithin : Nat → List Symbol → Drained Symbol
  | 0, buffer => ⟨[],buffer⟩
  | fuel + 1, buffer =>
    match framer.frameEnd buffer with
    | none => ⟨[],buffer⟩
    | some size =>
      let later := drainWithin fuel (buffer.drop size)
      ⟨buffer.take size :: later.frames,later.rest⟩

/-- Every frame takes at least one symbol, so the length is fuel enough. -/
def drain (buffer : List Symbol) : Drained Symbol := framer.drainWithin buffer.length buffer

variable {framer} {buffer : List Symbol}

theorem drop_lt (hend : framer.frameEnd buffer = some size) : (buffer.drop size).length < buffer.length := by
  have hpositive := framer.positive hend
  have hwithin := framer.within hend
  rw [length_drop]
  omega

theorem frameEnd_nil : framer.frameEnd [] = none := by
  by_contra hsome
  obtain ⟨size,hend⟩ := ne_none_iff_exists'.mp hsome
  have hpositive := framer.positive hend
  have hwithin := framer.within hend
  rw [length_nil] at hwithin
  omega

theorem drainWithin_nil (fuel : Nat) : framer.drainWithin fuel [] = ⟨[],[]⟩ := by
  cases fuel with
  | zero => rfl
  | succ fuel => simp only [drainWithin,frameEnd_nil]

theorem drainWithin_fuel {first second : Nat} (hfirst : buffer.length ≤ first)
    (hsecond : buffer.length ≤ second) :
    framer.drainWithin first buffer = framer.drainWithin second buffer := by
  induction first generalizing second buffer with
  | zero => rw [length_eq_zero_iff.mp (Nat.le_zero.mp hfirst),drainWithin_nil,drainWithin_nil]
  | succ first ih =>
    cases second with
    | zero => rw [length_eq_zero_iff.mp (Nat.le_zero.mp hsecond),drainWithin_nil,drainWithin_nil]
    | succ second =>
      unfold drainWithin
      cases hend : framer.frameEnd buffer with
      | none => rfl
      | some size =>
        have hshorter := drop_lt hend
        have hrest : framer.drainWithin first (buffer.drop size) =
            framer.drainWithin second (buffer.drop size) := by
          apply ih
          · omega
          · omega
        dsimp only
        rw [hrest]

theorem drain_none (hend : framer.frameEnd buffer = none) : framer.drain buffer = ⟨[],buffer⟩ := by
  unfold drain
  cases buffer.length with
  | zero => rfl
  | succ fuel => simp only [drainWithin,hend]

theorem drain_some (hend : framer.frameEnd buffer = some size) : framer.drain buffer =
      ⟨buffer.take size :: (framer.drain (buffer.drop size)).frames,
        (framer.drain (buffer.drop size)).rest⟩ := by
  have hshorter := drop_lt hend
  unfold drain
  cases hlength : buffer.length with
  | zero => omega
  | succ fuel =>
    have hrest : framer.drainWithin fuel (buffer.drop size) =
        framer.drainWithin (buffer.drop size).length (buffer.drop size) := by
      apply drainWithin_fuel
      · omega
      · exact Nat.le_refl _
    simp only [drainWithin,hend,hrest]

theorem drain_induction (framer : Framer Symbol) {motive : List Symbol → Prop}
    (tail : ∀ buffer, framer.frameEnd buffer = none → motive buffer)
    (frame : ∀ buffer size, framer.frameEnd buffer = some size → motive (buffer.drop size) →
      motive buffer) (buffer : List Symbol) : motive buffer := by
  induction hlength : buffer.length using Nat.strongRecOn generalizing buffer with
  | _ length ih =>
    cases hend : framer.frameEnd buffer with
    | none => exact tail buffer hend
    | some size =>
      apply frame buffer size hend
      exact ih _ (hlength ▸ drop_lt hend) _ rfl

theorem drain_append (buffer more : List Symbol) : framer.drain (buffer ++ more) =
      ⟨(framer.drain buffer).frames ++ (framer.drain ((framer.drain buffer).rest ++ more)).frames,
        (framer.drain ((framer.drain buffer).rest ++ more)).rest⟩ := by
  induction buffer using drain_induction framer with
  | tail buffer hend => rw [drain_none hend,nil_append]
  | frame buffer size hend ih =>
    have hwithin := framer.within hend
    rw [drain_some (framer.stable more hend),drain_some hend,take_append_of_le_length hwithin,
      drop_append_of_le_length hwithin,ih,cons_append]

/-! ## Reading -/

def feed (framer : Framer Symbol) (reader : Drained Symbol) (read : List Symbol) : Drained Symbol :=
  let drained := framer.drain (reader.rest ++ read)
  ⟨reader.frames ++ drained.frames,drained.rest⟩

theorem run_feed (seen : List Symbol) (reads : List (List Symbol)) :
    run framer.feed (framer.drain seen) reads = framer.drain (seen ++ reads.flatten) := by
  induction reads generalizing seen with
  | nil => rw [run_nil,flatten_nil,append_nil]
  | cons read reads ih => rw [run_cons,feed,← drain_append,ih,flatten_cons,append_assoc]

/-! ## Complete frames -/

def Complete (framer : Framer Symbol) (frame : List Symbol) : Prop :=
  framer.frameEnd frame = some frame.length

theorem frameEnd_of_proper_prefix {frame tail rest : List Symbol} (hcomplete : framer.Complete frame)
    (hframe : frame = tail ++ rest) (hrest : rest ≠ []) : framer.frameEnd tail = none := by
  by_contra hsome
  obtain ⟨size,hend⟩ := ne_none_iff_exists'.mp hsome
  have hsame := framer.stable rest hend
  rw [← hframe,hcomplete] at hsame
  have hlength := congrArg List.length hframe
  have hwithin := framer.within hend
  have hmore := length_pos_iff.mpr hrest
  have hsize := some.inj hsame
  rw [length_append] at hlength
  omega

theorem drain_flatten {frames : List (List Symbol)} (hcomplete : ∀ frame ∈ frames, framer.Complete frame)
    {tail : List Symbol} (htail : framer.frameEnd tail = none) :
    framer.drain (frames.flatten ++ tail) = ⟨frames,tail⟩ := by
  induction frames with
  | nil => rw [flatten_nil,nil_append,drain_none htail]
  | cons frame frames ih =>
    have hend : framer.frameEnd (frame ++ (frames.flatten ++ tail)) = some frame.length :=
      framer.stable _ (hcomplete frame mem_cons_self)
    rw [flatten_cons,append_assoc,drain_some hend,take_left,drop_left,
      ih fun other hother => hcomplete other (mem_cons_of_mem frame hother)]

end Framer

/-! ## Terminators -/

theorem prefix_of_prefix_append {pattern text more : List Symbol} (hfront : pattern <+: text ++ more)
    (hlength : pattern.length ≤ text.length) : pattern <+: text :=
  prefix_of_prefix_length_le hfront (prefix_append text more) hlength

section Terminators
variable [DecidableEq Symbol]

def find (pattern : List Symbol) : List Symbol → Option Nat
  | [] => if pattern = [] then some 0 else none
  | symbol :: rest =>
    if pattern <+: symbol :: rest then some 0 else (find pattern rest).map (· + 1)

variable {pattern text : List Symbol} {position : Nat}

theorem find_within (hfind : find pattern text = some position) :
    position + pattern.length ≤ text.length := by
  induction text generalizing position with
  | nil =>
    unfold find at hfind
    split at hfind
    next hpattern =>
      rw [hpattern,← some.inj hfind]
      exact Nat.le_refl _
    next => contradiction
  | cons symbol rest ih =>
    unfold find at hfind
    split at hfind
    next hpattern =>
      rw [← some.inj hfind,Nat.zero_add]
      exact hpattern.length_le
    next =>
      obtain ⟨earlier,hrest,rfl⟩ := map_eq_some_iff.mp hfind
      have hle := ih hrest
      rw [length_cons]
      omega

theorem find_append (more : List Symbol) (hfind : find pattern text = some position) :
    find pattern (text ++ more) = some position := by
  induction text generalizing position with
  | nil =>
    unfold find at hfind
    split at hfind
    next hpattern =>
      subst hpattern
      rw [← some.inj hfind]
      cases more with
      | nil => rfl
      | cons symbol rest => exact if_pos nil_prefix
    next => contradiction
  | cons symbol rest ih =>
    have hwithin := find_within hfind
    unfold find at hfind
    split at hfind
    next hpattern =>
      rw [← some.inj hfind]
      exact if_pos (hpattern.trans (prefix_append _ more))
    next hpattern =>
      obtain ⟨earlier,hrest,rfl⟩ := map_eq_some_iff.mp hfind
      have hlater : ¬pattern <+: symbol :: (rest ++ more) := by
        intro hfront
        exact hpattern (prefix_of_prefix_append hfront (by omega))
      rw [cons_append,find,if_neg hlater,ih hrest]
      rfl

theorem find_beyond {more : List Symbol} (hnone : find pattern text = none)
    (hfind : find pattern (text ++ more) = some position) : text.length < position + pattern.length := by
  induction text generalizing position with
  | nil =>
    have hpattern : pattern ≠ [] := by
      rintro rfl
      contradiction
    have hpositive := length_pos_iff.mpr hpattern
    rw [length_nil]
    omega
  | cons symbol rest ih =>
    unfold find at hnone
    split at hnone
    next => contradiction
    next hpattern =>
      have hrest := map_eq_none_iff.mp hnone
      rw [cons_append,find] at hfind
      split at hfind
      next hfront =>
        by_contra hshort
        exact hpattern (prefix_of_prefix_append hfront (by omega))
      next =>
        obtain ⟨earlier,hearlier,rfl⟩ := map_eq_some_iff.mp hfind
        have hlt := ih hrest hearlier
        rw [length_cons]
        omega

theorem find_skip {first : Symbol} (more : List Symbol) (habsent : first ∉ text) :
    find (first :: pattern) (text ++ more) = (find (first :: pattern) more).map (· + text.length) := by
  induction text with
  | nil => simp
  | cons symbol rest ih =>
    obtain ⟨hsymbol,hrest⟩ := not_or.mp (fun hmem => habsent (mem_cons.mpr hmem))
    have hfront : ¬first :: pattern <+: symbol :: (rest ++ more) := by
      intro hfront
      exact hsymbol (cons_prefix_cons.mp hfront).1
    rw [cons_append,find,if_neg hfront,ih hrest,Option.map_map]
    rfl

def Framer.terminated (terminator : List Symbol) (hterminator : terminator ≠ []) : Framer Symbol where
  frameEnd buffer := (find terminator buffer).map (· + terminator.length)
  positive hend := by
    obtain ⟨position,_,rfl⟩ := map_eq_some_iff.mp hend
    have hpositive := length_pos_iff.mpr hterminator
    omega
  within hend := by
    obtain ⟨position,hfind,rfl⟩ := map_eq_some_iff.mp hend
    exact find_within hfind
  stable rest hend := by
    obtain ⟨position,hfind,rfl⟩ := map_eq_some_iff.mp hend
    rw [find_append rest hfind]
    rfl
  prompt := by
    intro buffer rest size hend hsize
    obtain ⟨position,hfind,rfl⟩ := map_eq_some_iff.mp hend
    cases hearlier : find terminator buffer with
    | none =>
      have hbeyond := find_beyond hearlier hfind
      omega
    | some earlier =>
      rw [find_append rest hearlier] at hfind
      rw [some.inj hfind]
      rfl

end Terminators

/-! ## Two kinds of frames -/

def earlier : Option Nat → Option Nat → Option Nat
  | some first, some second => some (min first second)
  | some first, none => some first
  | none, some second => some second
  | none, none => none

theorem earlier_eq_some {first second : Option Nat} : earlier first second = some size ↔
      first = some size ∧ (∀ other, second = some other → size ≤ other) ∨
        second = some size ∧ (∀ other, first = some other → size ≤ other) := by
  cases first with
  | none => cases second <;> simp [earlier]
  | some sooner =>
    cases second with
    | none => simp [earlier]
    | some later =>
      simp only [earlier,some.injEq,forall_eq']
      omega

theorem Framer.le_of_append {framer : Framer Symbol} {buffer rest : List Symbol} {other : Nat}
    (hsooner : ∀ other, framer.frameEnd buffer = some other → size ≤ other)
    (hsize : size ≤ buffer.length) (hother : framer.frameEnd (buffer ++ rest) = some other) :
    size ≤ other := by
  by_contra hlt
  exact hlt (hsooner other (framer.prompt hother (by omega)))

def Framer.either (first second : Framer Symbol) : Framer Symbol where
  frameEnd buffer := earlier (first.frameEnd buffer) (second.frameEnd buffer)
  positive hend := by
    rcases earlier_eq_some.mp hend with ⟨hfirst,_⟩ | ⟨hsecond,_⟩
    · exact first.positive hfirst
    · exact second.positive hsecond
  within hend := by
    rcases earlier_eq_some.mp hend with ⟨hfirst,_⟩ | ⟨hsecond,_⟩
    · exact first.within hfirst
    · exact second.within hsecond
  stable rest hend := by
    apply earlier_eq_some.mpr
    rcases earlier_eq_some.mp hend with ⟨hfirst,hsooner⟩ | ⟨hsecond,hsooner⟩
    · exact .inl ⟨first.stable rest hfirst,fun _ => le_of_append hsooner (first.within hfirst)⟩
    · exact .inr ⟨second.stable rest hsecond,fun _ => le_of_append hsooner (second.within hsecond)⟩
  prompt := by
    intro buffer rest size hend hsize
    apply earlier_eq_some.mpr
    rcases earlier_eq_some.mp hend with ⟨hfirst,hsooner⟩ | ⟨hsecond,hsooner⟩
    · refine .inl ⟨first.prompt hfirst hsize,fun other hother => ?_⟩
      exact hsooner other (second.stable rest hother)
    · refine .inr ⟨second.prompt hsecond hsize,fun other hother => ?_⟩
      exact hsooner other (first.stable rest hother)

end Routiq.Core.Framing
