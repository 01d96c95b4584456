import Routiq.Core.Decimal
import Routiq.Core.FixedWindow
import Routiq.Core.Strings
import Routiq.Edge.Pipeline
import Routiq.Edge.Sentinel
import Mathlib.Data.Rat.Floor

/-! The web application firewall: size guards, the scans for injections and
scanners, and the limit of anonymous requests per address and second. The hash
of an address is a parameter, so two addresses may share a bucket. -/
namespace Routiq.Edge.Waf
open Core.FixedWindow Core.Strings Pipeline

def ipRateLimitSlots : Nat := 1000000
def maxUriLen : Nat := 2048
def maxAuthHeaderLen : Nat := 4096
def maxUaLen : Nat := 512
def maxBodyScanLen : Nat := 8192
def maxDecodePasses : Nat := 3
def injectionPatterns : List String := ["../","..\\",
    "<script","</script>","javascript:","onerror=","onload=","alert(",
    "union select","union all select","' or '1'='1","\" or \"1\"=\"1","or 1=1",
    "exec(","execute(","xp_cmdshell","sp_executesql",
    "/etc/passwd","/etc/shadow","/bin/sh","/bin/bash","cmd.exe","powershell",
    "<!entity","<!doctype","file://","dict://","gopher://",
    "\x7b\x7b","\x7d\x7d","$\x7b","#\x7b"]

def botPatterns : List String := ["sqlmap","nikto","nmap","masscan","zgrab","dirbuster","gobuster",
    "nuclei","hydra","burpsuite","metasploit","w3af","acunetix","wfuzz"]

/-! ## Scans -/

def occurs (pattern : Text) : Text → Bool
  | [] => pattern.isEmpty
  | character :: rest => pattern.isPrefixOf (character :: rest) || occurs pattern rest

/-- The automaton over the patterns, which ignores the case of ASCII letters. -/
def isMatch (patterns : List String) (text : Text) : Bool :=
  patterns.any fun pattern => occurs (pattern.toList.map Char.toLower) (text.map Char.toLower)

def toDigit (character : Char) : Option Nat :=
  if '0' ≤ character ∧ character ≤ '9' then some (character.toNat - '0'.toNat)
  else if 'a' ≤ character ∧ character ≤ 'f' then some (character.toNat - 'a'.toNat + 10)
  else if 'A' ≤ character ∧ character ≤ 'F' then some (character.toNat - 'A'.toNat + 10)
  else none

/-- A percent sign takes the next two characters with it, also when they are
not digits; one that is left alone at the end is dropped. -/
def urlDecode : Text → Text
  | [] => []
  | '%' :: h1 :: h2 :: rest =>
      match toDigit h1, toDigit h2 with
      | some d1, some d2 => Char.ofNat (d1 * 16 + d2) :: urlDecode rest
      | _, _ => '%' :: h1 :: h2 :: urlDecode rest
  | '%' :: _ => ['%']
  | '+' :: rest => ' ' :: urlDecode rest
  | character :: rest => character :: urlDecode rest

/-- The passes after the first one, until one changes nothing. -/
def urlDecodeAgain : Nat → Text → Text
  | 0, current => current
  | passes + 1, current =>
      let next := urlDecode current
      if next = current then current else urlDecodeAgain passes next

def urlDecodeRecursive (encoded : Text) : Text := urlDecodeAgain (maxDecodePasses - 1) (urlDecode encoded)

def isCharBoundary : Text → Nat → Bool
  | _, 0 => true
  | [], _ + 1 => false
  | character :: rest, index + 1 =>
      decide (character.utf8Size ≤ index + 1) && isCharBoundary rest (index + 1 - character.utf8Size)

def walkBack (text : Text) : Nat → Nat
  | 0 => 0
  | index + 1 => if isCharBoundary text (index + 1) then index + 1 else walkBack text index

def sliceTo : Text → Nat → Text
  | [], _ => []
  | character :: rest, bytes =>
      if bytes = 0 then [] else character :: sliceTo rest (bytes - character.utf8Size)

def truncateOnCharBoundary (text : Text) (maximum : Nat) : Text :=
  if (utf8 text).length ≤ maximum then text else sliceTo text (walkBack text maximum)

/-! ## The limit per address -/

structure WafMemory where
  blocks : Nat
  buckets : Table ipRateLimitSlots

structure WafEnv where
  fxHash : String → Nat
  ipRateLimitVar : Option String

def parseU32 (text : String) : Option Nat := (Core.Decimal.parseU64 text.toList).filter (· < 2^32)

section
variable (env : WafEnv)

def ipRateLimitRps (level : Nat) : Nat :=
  let base := (env.ipRateLimitVar.bind parseU32).getD 100
  ⌊max ((base : ℚ) * Sentinel.wafBudgetFactor level) 1⌋₊

def ipSlot (ip : String) : Fin ipRateLimitSlots :=
  ⟨env.fxHash ip % ipRateLimitSlots,Nat.mod_lt _ (by decide)⟩

def ipRateExceeded (level nowMs : Nat) (ip : String) (memory : WafMemory) : Bool × WafMemory :=
  let hit := hitAt (nowSecsU32 nowMs) (ipRateLimitRps env level) (ipSlot env ip) memory.buckets
  (!hit.1,{ memory with buckets := hit.2 })

/-! ## The inspection -/

def block (reason : WafBlock) (memory : WafMemory) : WafDecision × WafMemory :=
  (.block reason,{ memory with blocks := memory.blocks + 1 })

def scan (uri authHeader userAgent body : Text) : Option WafBlock :=
  if maxUriLen < (utf8 uri).length then some .uriTooLong
  else if maxAuthHeaderLen < (utf8 authHeader).length then some .authHeaderTooLarge
  else if isMatch injectionPatterns (urlDecodeRecursive uri) then some .injectionInUri
  else if !body.isEmpty && isMatch injectionPatterns (truncateOnCharBoundary body maxBodyScanLen) then
    some .injectionInBody
  else if isMatch botPatterns (truncateOnCharBoundary userAgent maxUaLen) then some .botDetected
  else none

def inspect (level nowMs : Nat) (uri authHeader userAgent body clientIp : String)
    (memory : WafMemory) : WafDecision × WafMemory :=
  match scan uri.toList authHeader.toList userAgent.toList body.toList with
  | some reason => block reason memory
  | none =>
      if authHeader.isEmpty && !clientIp.isEmpty then
        let exceeded := ipRateExceeded env level nowMs clientIp memory
        if exceeded.1 then block .ipRateLimit exceeded.2 else (.allow,exceeded.2)
      else (.allow,memory)

end

variable {env : WafEnv} {level nowMs : Nat} {uri authHeader userAgent body clientIp : String}
  {memory after : WafMemory}

variable (hallowed : inspect env level nowMs uri authHeader userAgent body clientIp memory = (.allow,after))
include hallowed

theorem inspect_anonymous (hanonymous : authHeader = "") (hip : clientIp ≠ "") :
    after.buckets (ipSlot env clientIp) =
      (memory.buckets (ipSlot env clientIp)).counted (nowSecsU32 nowMs) := by
  unfold inspect at hallowed
  split at hallowed
  · cases hallowed
  · rw [if_pos (by simp [hanonymous,hip])] at hallowed
    dsimp only at hallowed
    split at hallowed
    · cases hallowed
    next hexceeded =>
      cases hallowed
      apply hitAt_admitted
      simpa [ipRateExceeded] using hexceeded

theorem inspect_with_header (hheader : authHeader ≠ "") : after = memory := by
  unfold inspect at hallowed
  split at hallowed
  · cases hallowed
  · rw [if_neg (by simp [hheader])] at hallowed
    cases hallowed
    rfl

end Routiq.Edge.Waf
