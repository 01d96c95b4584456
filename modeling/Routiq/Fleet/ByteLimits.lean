import Routiq.Edge.Waf

/-! Texts cut to a number of bytes. The firewall walks back from the limit to
the start of a character; the control plane cuts the name of an edge with
`String::truncate`, which panics inside one. -/
namespace Routiq.Fleet.ByteLimits
open Core.Strings Edge.Waf List

def byteLength (text : Text) : Nat := (utf8 text).length

/-- `String::truncate`; a panic is `none`. -/
def truncate (text : Text) (newLen : Nat) : Option Text :=
  if byteLength text < newLen then some text
  else if isCharBoundary text newLen then some (sliceTo text newLen)
  else none

def edgeIdLimit : Nat := 64

/-- The trimmed parameter, or a name for one that is empty. -/
def edgeName (query : Text) : Text := if trim query = [] then "unknown".toList else trim query

def edgeId (query : Text) : Option Text := truncate (edgeName query) edgeIdLimit

/-- The longest beginning of a text that fits. -/
structure Longest (text : Text) (maximum : Nat) (result : Text) : Prop where
  front : result <+: text
  fits : byteLength result ≤ maximum
  longest : ∀ other, other <+: text → byteLength other ≤ maximum → byteLength other ≤ byteLength result

theorem byteLength_cons (character : Char) (text : Text) :
    byteLength (character :: text) = character.utf8Size + byteLength text := by
  simp [byteLength,utf8]

theorem boundary_iff (text : Text) (bytes : Nat) :
    isCharBoundary text bytes = true ↔ sliceTo text bytes <+: text ∧ byteLength (sliceTo text bytes) = bytes := by
  induction text generalizing bytes with
  | nil => cases bytes <;> simp [isCharBoundary,sliceTo,byteLength,utf8]
  | cons character text ih =>
    have hsize := character.utf8Size_pos
    cases bytes with
    | zero => simp [isCharBoundary,sliceTo,byteLength,utf8]
    | succ bytes =>
      simp only [isCharBoundary,sliceTo,Nat.succ_ne_zero,if_false,Bool.and_eq_true,decide_eq_true_eq,ih,
        cons_prefix_cons,true_and,byteLength_cons]
      constructor
      · rintro ⟨hfits,hfront,hlength⟩
        exact ⟨hfront,by omega⟩
      · rintro ⟨hfront,hlength⟩
        exact ⟨by omega,hfront,by omega⟩

theorem sliceTo_front {front text : Text} (hfront : front <+: text) : sliceTo text (byteLength front) = front := by
  induction front generalizing text with
  | nil => cases text <;> simp [sliceTo,byteLength,utf8]
  | cons character front ih =>
    obtain ⟨rest,rfl⟩ := hfront
    have hsize := character.utf8Size_pos
    have hrest := ih (prefix_append front rest)
    rw [byteLength_cons,cons_append,sliceTo,if_neg (by omega),Nat.add_sub_cancel_left,hrest]

theorem longest_sliceTo {text : Text} {bytes maximum : Nat} (hboundary : isCharBoundary text bytes = true)
    (hfits : bytes ≤ maximum) (hlast : ∀ later ≤ maximum, isCharBoundary text later = true → later ≤ bytes) :
    Longest text maximum (sliceTo text bytes) := by
  obtain ⟨hfront,hlength⟩ := (boundary_iff text bytes).mp hboundary
  refine ⟨hfront,hlength.trans_le hfits,?_⟩
  intro other hother hwithin
  rw [hlength]
  refine hlast _ hwithin ((boundary_iff text _).mpr ?_)
  rw [sliceTo_front hother]
  exact ⟨hother,rfl⟩

theorem longest_whole {text : Text} {maximum : Nat} (hfits : byteLength text ≤ maximum) :
    Longest text maximum text := by
  refine ⟨prefix_rfl,hfits,?_⟩
  rintro other ⟨rest,rfl⟩ -
  simp [byteLength]

theorem walkBack_last (text : Text) (maximum : Nat) :
    isCharBoundary text (walkBack text maximum) = true ∧ walkBack text maximum ≤ maximum ∧
      ∀ later ≤ maximum, isCharBoundary text later = true → later ≤ walkBack text maximum := by
  induction maximum with
  | zero => cases text <;> simp [walkBack,isCharBoundary]
  | succ maximum ih =>
    unfold walkBack
    split
    next hboundary => exact ⟨hboundary,le_rfl,fun later hlater _ => hlater⟩
    · refine ⟨ih.1,by omega,?_⟩
      intro later hlater hboundary
      rcases Nat.lt_or_eq_of_le hlater with hless | rfl
      · exact ih.2.2 later (by omega) hboundary
      · contradiction

/-- The firewall's cut never ends inside a character and keeps the longest
beginning that fits; the control plane's does so exactly if the name ends
before the limit or the limit is no place inside a character. -/
theorem truncation_total_iff (text : Text) :
    ((∀ maximum, isCharBoundary text (walkBack text maximum) = true ∧
        Longest text maximum (truncateOnCharBoundary text maximum)) ∧
      ∃ result, edgeId text = some result ∧ Longest (edgeName text) edgeIdLimit result) ↔
    byteLength (edgeName text) < edgeIdLimit ∨ isCharBoundary (edgeName text) edgeIdLimit = true := by
  have hfirewall : ∀ maximum, isCharBoundary text (walkBack text maximum) = true ∧
      Longest text maximum (truncateOnCharBoundary text maximum) := by
    intro maximum
    obtain ⟨hboundary,hfits,hlast⟩ := walkBack_last text maximum
    refine ⟨hboundary,?_⟩
    unfold truncateOnCharBoundary
    split
    next hshort => exact longest_whole hshort
    next hlong => exact longest_sliceTo hboundary hfits hlast
  rw [and_iff_right hfirewall]
  unfold edgeId truncate
  split
  next hshort => exact iff_of_true ⟨_,rfl,longest_whole hshort.le⟩ (.inl hshort)
  next hlong =>
    split
    next hboundary =>
      refine iff_of_true ⟨_,rfl,?_⟩ (.inr hboundary)
      exact longest_sliceTo hboundary le_rfl fun later hlater _ => hlater
    next hinside => simp [hlong,hinside]

/-- Sixty-three letters and one of two bytes. -/
theorem edge_name_panics :
    let name := List.replicate 63 'a' ++ ['é']
    edgeId name = none ∧ truncateOnCharBoundary name edgeIdLimit = List.replicate 63 'a' := by
  decide +kernel

end Routiq.Fleet.ByteLimits
