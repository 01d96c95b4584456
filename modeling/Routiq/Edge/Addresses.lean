import Routiq.Core.Strings

/-! The two readers of an upstream's address: the health checker makes a URL of
it to probe, and a map of the proxy makes the URL to send requests to. -/
namespace Routiq.Edge.Addresses
open Core.Strings List

def http : Text := ['h','t','t','p',':','/','/']
def https : Text := ['h','t','t','p','s',':','/','/']
def tlsPort : Text := ['4','4','3']

/-- The checker takes a bare address or one with a scheme. -/
def normalizeUrl (address path : Text) : Text :=
  let path := if ['/'] <+: path then path else '/' :: path
  if http <+: address ∨ https <+: address then address ++ path else http ++ address ++ path

/-- The map of `$target_upstream`: what `^(.+):443$` matches is served by TLS. -/
def gatewayUpstreamBase (target : Text) : Text :=
  if 4 < target.length ∧ ':' :: tlsPort <:+ target then https ++ target.rdrop 4 else http ++ target

/-- `UPSTREAM_<SERVICE>` replaces the address unless it is empty. -/
def applyOverride (upstreamUrl : Option Text) (address : Text) : Text :=
  match upstreamUrl with
  | some url => if url = [] then address else url
  | none => address

/-! ## Servers -/

inductive Scheme where
  | http | https
deriving DecidableEq

def Scheme.defaultPort : Scheme → Text
  | .http => ['8','0']
  | .https => tlsPort

structure Server where
  scheme : Scheme
  (host port : Text)
deriving DecidableEq

/-- The server that a URL names behind its scheme, if its port is a number. -/
def serverAt (scheme : Scheme) (rest : Text) : Option Server :=
  let authority := rest.takeWhile (· ≠ '/')
  match authority.dropWhile (· ≠ ':') with
  | [] => some ⟨scheme,authority,scheme.defaultPort⟩
  | _ :: port =>
    if port ≠ [] ∧ port.all Char.isDigit then some ⟨scheme,authority.takeWhile (· ≠ ':'),port⟩ else none

def serverOf (url : Text) : Option Server :=
  if https <+: url then serverAt .https (url.drop 8)
  else if http <+: url then serverAt .http (url.drop 7)
  else none

structure Host where
  text : Text
  nonempty : text ≠ []
  unmarked : ∀ mark ∈ [':','/','?','#','@','\n'], mark ∉ text

structure Port where
  digits : Text
  nonempty : digits ≠ []
  decimal : digits.all Char.isDigit

theorem Host.colon (host : Host) : ':' ∉ host.text := host.unmarked _ (by decide)

theorem Host.slash (host : Host) : '/' ∉ host.text := host.unmarked _ (by decide)

/-- The documented forms of an address. -/
inductive Address where
  | bare (host : Host) (port : Port)
  | overridden (configured : Text) (host : Host)

def Address.text : Address → Text
  | .bare host port => host.text ++ ':' :: port.digits
  | .overridden configured host => applyOverride (some (https ++ host.text ++ ':' :: tlsPort)) configured

def SameServer (address path : Text) : Prop :=
  ∃ server, serverOf (normalizeUrl address path) = some server ∧ serverOf (gatewayUpstreamBase address) = some server

def Address.Plain : Address → Prop
  | .bare _ port => port.digits ≠ tlsPort
  | .overridden _ _ => False

/-! ## What they name -/

theorem serverOf_http (rest : Text) : serverOf (http ++ rest) = serverAt .http rest := by
  simp [serverOf,http,https]

theorem serverOf_https (rest : Text) : serverOf (https ++ rest) = serverAt .https rest := by
  simp [serverOf,https]

theorem Port.not_mem (port : Port) {mark : Char} (hmark : mark.isDigit = false) : mark ∉ port.digits := by
  intro hmem
  rw [all_eq_true.mp port.decimal mark hmem] at hmark
  contradiction

section
variable (host : Host) (port : Port)

theorem slash_not_mem_bare : '/' ∉ host.text ++ ':' :: port.digits := by
  simp [host.slash,port.not_mem]

theorem takeWhile_mark {front tail : Text} {mark : Char} (hfront : mark ∉ front)
    (htail : tail = [] ∨ ∃ rest, tail = mark :: rest) : (front ++ tail).takeWhile (· ≠ mark) = front := by
  have hall : ∀ character ∈ front, decide (character ≠ mark) = true :=
    fun character hmem => decide_eq_true fun heq => hfront (heq ▸ hmem)
  rcases htail with rfl | ⟨rest,rfl⟩
  · rw [append_nil,takeWhile_eq_self_iff.mpr hall]
  · rw [takeWhile_append_of_pos hall]
    simp

theorem serverAt_bare {scheme : Scheme} {tail : Text} (htail : tail = [] ∨ ∃ rest, tail = '/' :: rest) :
    serverAt scheme (host.text ++ ':' :: port.digits ++ tail) = some ⟨scheme,host.text,port.digits⟩ := by
  have hhost : (host.text ++ ':' :: port.digits).takeWhile (· ≠ ':') = host.text :=
    takeWhile_mark host.colon (.inr ⟨_,rfl⟩)
  have hsplit : (host.text ++ ':' :: port.digits).takeWhile (· ≠ ':') ++
      (host.text ++ ':' :: port.digits).dropWhile (· ≠ ':') = host.text ++ ':' :: port.digits :=
    takeWhile_append_dropWhile
  rw [hhost] at hsplit
  simp only [serverAt,takeWhile_mark (slash_not_mem_bare host port) htail,append_cancel_left hsplit,hhost]
  exact if_pos ⟨port.nonempty,port.decimal⟩

theorem serverOf_probe (path : Text) :
    serverOf (normalizeUrl (host.text ++ ':' :: port.digits) path) = some ⟨.http,host.text,port.digits⟩ := by
  have hbare : ∀ scheme : Text, '/' ∈ scheme → ¬scheme <+: host.text ++ ':' :: port.digits :=
    fun scheme hmem hstart => slash_not_mem_bare host port (hstart.subset hmem)
  have hpath : ∃ rest, (if ['/'] <+: path then path else '/' :: path) = '/' :: rest := by
    split
    next hslash =>
      obtain ⟨rest,rfl⟩ := hslash
      exact ⟨rest,rfl⟩
    · exact ⟨path,rfl⟩
  unfold normalizeUrl
  rw [if_neg (not_or.mpr ⟨hbare http (by decide),hbare https (by decide)⟩),append_assoc,serverOf_http]
  exact serverAt_bare host port (.inr hpath)

end

theorem base_tls {stem : Text} (hstem : stem ≠ []) : gatewayUpstreamBase (stem ++ ':' :: tlsPort) = https ++ stem := by
  have hlength := length_pos_of_ne_nil hstem
  unfold gatewayUpstreamBase
  rw [if_pos ⟨by simp [tlsPort]; omega,suffix_append _ _⟩]
  exact congrArg (https ++ ·) rdrop_append_length

/-- Neither port has a colon of its own, so the one before it is the last. -/
theorem suffix_bare {host : Host} {port : Port} (hsuffix : ':' :: tlsPort <:+ host.text ++ ':' :: port.digits) :
    port.digits = tlsPort := by
  have hlast : ∀ front back : Text, ':' ∉ back →
      (front ++ ':' :: back).reverse.takeWhile (· ≠ ':') = back.reverse := by
    intro front back hback
    rw [reverse_append,reverse_cons,append_assoc]
    exact takeWhile_mark (by simpa using hback) (.inr ⟨_,rfl⟩)
  obtain ⟨front,hfront⟩ := hsuffix
  have hports := congrArg (fun text => text.reverse.takeWhile (· ≠ ':')) hfront
  rw [hlast _ _ (by decide),hlast _ _ (port.not_mem (by decide))] at hports
  exact (reverse_injective hports).symm

/-- The health checker and the proxy address one server exactly if the address
is bare and its port is not the one of TLS. -/
theorem same_server_iff_plain (address : Address) (path : Text) : SameServer address.text path ↔ address.Plain := by
  cases address with
  | overridden configured host =>
    refine iff_of_false ?_ id
    rintro ⟨server,-,hbase⟩
    have htext : (Address.overridden configured host).text = https ++ host.text ++ ':' :: tlsPort := by
      simp [Address.text,applyOverride,https]
    -- The scheme that is already there is read as host and empty port.
    have hnone : serverAt .https (https ++ host.text) = none := by simp [serverAt,https]
    rw [htext,base_tls (by simp [https]),serverOf_https,hnone] at hbase
    contradiction
  | bare host port =>
    unfold SameServer Address.text Address.Plain
    dsimp only
    rw [serverOf_probe]
    constructor
    · rintro ⟨server,hprobe,hbase⟩ hport
      rw [hport,base_tls host.nonempty,serverOf_https] at hbase
      have hhost : host.text.takeWhile (· ≠ '/') = host.text := by
        simpa using takeWhile_mark host.slash (.inl rfl)
      have hcolon : host.text.dropWhile (· ≠ ':') = [] := by
        rw [dropWhile_eq_nil_iff]
        exact fun character hmem => decide_eq_true fun heq => host.colon (heq ▸ hmem)
      simp only [serverAt,hhost,hcolon] at hbase
      cases hprobe.trans hbase.symm
    · intro hport
      refine ⟨_,rfl,?_⟩
      rw [gatewayUpstreamBase,if_neg fun hsuffix => hport (suffix_bare hsuffix.2),serverOf_http]
      simpa using serverAt_bare host port (.inl rfl)

def sampleHost : Host := ⟨"uam-backend".toList,by decide,by simp⟩

/-- The form documented for TLS backends is probed without TLS, and the one
documented for the override is proxied to a host named after the scheme. -/
theorem documented_tls_forms_differ :
    let tls := (Address.bare sampleHost ⟨tlsPort,by decide,by decide⟩).text
    serverOf (normalizeUrl tls "/health".toList) = some ⟨.http,sampleHost.text,tlsPort⟩ ∧
      serverOf (gatewayUpstreamBase tls) = some ⟨.https,sampleHost.text,tlsPort⟩ ∧
      gatewayUpstreamBase (Address.overridden [] sampleHost).text = "https://https://uam-backend".toList := by
  decide +kernel

end Routiq.Edge.Addresses
