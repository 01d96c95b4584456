import Mathlib.Data.List.GetD

/-! Strict unpadded url-safe base64: no two texts decode to the same bytes. -/
namespace Routiq.Core.Base64
open List Option

def alphabet : List Char := "ABCDEFGHIJKLMNOPQRSTUVWXYZabcdefghijklmnopqrstuvwxyz0123456789-_".toList

def sextets : List Char → Option (List Nat)
  | [] => some []
  | char :: chars => (alphabet.idxOf? char).bind fun value => (sextets chars).map (value :: ·)

def pack : List Nat → Option (List UInt8)
  | [] => some []
  | [_] => none
  | [a,b] => if b % 16 = 0 then some [.ofNat (a * 4 + b / 16)] else none
  | [a,b,c] => if c % 4 = 0 then some [.ofNat (a * 4 + b / 16),.ofNat (b % 16 * 16 + c / 4)] else none
  | a :: b :: c :: d :: rest => (pack rest).map fun bytes =>
      .ofNat (a * 4 + b / 16) :: .ofNat (b % 16 * 16 + c / 4) :: .ofNat (c % 4 * 64 + d) :: bytes

/-- Refuses other characters, a lone last character and bits of no byte. -/
def decode (text : String) : Option (List UInt8) := (sextets text.toList).bind pack

def unpack : List UInt8 → List Nat
  | [] => []
  | [x] => [x.toNat / 4,x.toNat % 4 * 16]
  | [x,y] => [x.toNat / 4,x.toNat % 4 * 16 + y.toNat / 16,y.toNat % 16 * 4]
  | x :: y :: z :: rest => [x.toNat / 4,x.toNat % 4 * 16 + y.toNat / 16,
      y.toNat % 16 * 4 + z.toNat / 64,z.toNat % 64] ++ unpack rest

theorem unpack_pack {values : List Nat} (hvalues : ∀ value ∈ values, value < 64) {bytes : List UInt8}
    (hpack : pack values = some bytes) : unpack bytes = values := by
  induction values using pack.induct generalizing bytes with
  | case1 =>
    cases hpack
    rfl
  | case2 => contradiction
  | case3 a b hzero | case5 a b c hzero =>
    simp [pack,hzero] at hpack
    simp [← hpack,unpack] at hvalues ⊢
    omega
  | case4 a b hzero | case6 a b c hzero => simp [pack,hzero] at hpack
  | case7 a b c d rest ih =>
    obtain ⟨later,hlater,rfl⟩ := map_eq_some_iff.mp hpack
    simp [unpack] at hvalues ⊢
    refine ⟨?_,?_,?_,?_,ih hvalues.2.2.2.2 hlater⟩ <;> omega

theorem sextets_eq_some {chars : List Char} {values : List Nat} (hsextets : sextets chars = some values) :
    values.map (alphabet.getD · 'A') = chars ∧ ∀ value ∈ values, value < 64 := by
  induction chars generalizing values with
  | nil =>
    cases hsextets
    simp
  | cons char chars ih =>
    obtain ⟨value,hvalue,hrest⟩ := bind_eq_some_iff.mp hsextets
    obtain ⟨later,hlater,rfl⟩ := map_eq_some_iff.mp hrest
    obtain ⟨hlt,hchar,_⟩ := idxOf?_eq_some_iff.mp hvalue
    have hlength : alphabet.length = 64 := by decide
    obtain ⟨hchars,hvalues⟩ := ih hlater
    refine ⟨?_,forall_mem_cons.mpr ⟨hlength ▸ hlt,hvalues⟩⟩
    rw [map_cons,getD_eq_getElem _ _ hlt,hchar,hchars]

theorem encode_decode {text : String} {bytes : List UInt8} (hdecode : decode text = some bytes) :
    String.ofList ((unpack bytes).map (alphabet.getD · 'A')) = text := by
  obtain ⟨values,hsextets,hpack⟩ := bind_eq_some_iff.mp hdecode
  obtain ⟨hchars,hvalues⟩ := sextets_eq_some hsextets
  rw [unpack_pack hvalues hpack,hchars,String.ofList_toList]

end Routiq.Core.Base64
