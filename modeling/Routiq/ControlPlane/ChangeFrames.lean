import Routiq.Core.Strings
import Routiq.Core.Decimal
import Routiq.ControlPlane.Store

/-! The frames of the change stream as the control plane writes them: lines of
fields up to a blank one, the payload as compact JSON. -/
namespace Routiq.ControlPlane.ChangeFrames
open Core.Strings Core.Decimal Store List

/-! ## Payloads -/

/-- How `serde_json` writes a character of a string. -/
def escape (character : Char) : Text :=
  if character = '"' then ['\\','"']
  else if character = '\\' then ['\\','\\']
  else if character = '\x08' then ['\\','b']
  else if character = '\t' then ['\\','t']
  else if character = '\n' then ['\\','n']
  else if character = '\x0c' then ['\\','f']
  else if character = '\r' then ['\\','r']
  else if character.toNat < 32 then
    ['\\','u','0','0',(character.toNat / 16).digitChar,(character.toNat % 16).digitChar]
  else [character]

def jsonString (text : String) : Text := '"' :: text.toList.flatMap escape ++ ['"']

inductive Scalar where
  | number (value : Nat)
  | text (value : String)

def Scalar.print : Scalar → Text
  | .number value => value.repr.toList
  | .text value => jsonString value

def printMembers : List (String × Scalar) → Text
  | [] => []
  | [(key,value)] => jsonString key ++ ':' :: value.print
  | (key,value) :: members => jsonString key ++ ':' :: value.print ++ ',' :: printMembers members

/-- The compact text of an object; its members come sorted by key. -/
def printObject (members : List (String × Scalar)) : Text := '\x7b' :: printMembers members ++ ['\x7d']

/-! ## Frames -/

def sseRetryMs : Nat := 10000
def sseFrame (id : Option Nat) (event : String) (data : Text) : Text := (match id with
    | some id => "id: ".toList ++ id.repr.toList ++ ['\n']
    | none => []) ++
  "event: ".toList ++ event.toList ++ ['\n'] ++
  ((lines data).map fun line => "data: ".toList ++ line ++ ['\n']).flatten ++ ['\n']

def changedData (event : ConfigEvent) : Text :=
  printObject [("configVersion",.text event.version),("revision",.number event.revision),
    ("timestamp",.number event.timestamp),("type",.text event.kind)]

def configChangedFrame (event : ConfigEvent) : Text :=
  sseFrame (some event.revision) "config_changed" (changedData event)

/-- The gap before the replay, with the latest revision, or the subscriber that
fell behind the broadcast. -/
inductive Stale where
  | gap (latest : Nat)
  | lagged
deriving DecidableEq

def staleData : Stale → Text
  | .gap latest => printObject [("latestRevision",.number latest),
      ("message",.text "revision gap exceeds retained history — snapshot fetch required")]
  | .lagged => printObject
      [("message",.text "subscriber lagged behind fanout buffer — snapshot fetch required")]

def heartbeatData (nowSecs latest : Nat) : Text :=
  printObject [("latestRevision",.number latest),("ts",.number nowSecs)]

inductive StreamFrame where
  | retry
  | configChanged (event : ConfigEvent)
  | configStale (stale : Stale)
  | heartbeat (nowSecs latest : Nat)
deriving DecidableEq

def StreamFrame.text : StreamFrame → Text
  | .retry => "retry: ".toList ++ sseRetryMs.repr.toList ++ ['\n','\n']
  | .configChanged event => configChangedFrame event
  | .configStale stale => sseFrame none "config_stale" (staleData stale)
  | .heartbeat nowSecs latest => sseFrame none "heartbeat" (heartbeatData nowSecs latest)

/-! ## No line ends inside a field -/

theorem oneLine_singleton {character : Char} (hfeed : character ≠ '\n') (hreturn : character ≠ '\r') :
    OneLine [character] :=
  ⟨fun hmem => hfeed (mem_singleton.mp hmem).symm,
    fun hmem => hreturn (mem_singleton.mp hmem).symm⟩

theorem oneLine_cons {character : Char} {text : Text} (hfeed : character ≠ '\n')
    (hreturn : character ≠ '\r') (htext : OneLine text) : OneLine (character :: text) :=
  (oneLine_singleton hfeed hreturn).append htext

theorem oneLine_digitChar {digit : Nat} (hdigit : digit < 16) : OneLine [digit.digitChar] := by
  have hall : ∀ digit : Fin 16, digit.val.digitChar ≠ '\n' ∧ digit.val.digitChar ≠ '\r' := by decide
  exact oneLine_singleton (hall ⟨digit,hdigit⟩).1 (hall ⟨digit,hdigit⟩).2

theorem escape_oneLine (character : Char) : OneLine (escape character) := by
  unfold escape
  split
  · exact ⟨by decide,by decide⟩
  split
  · exact ⟨by decide,by decide⟩
  split
  · exact ⟨by decide,by decide⟩
  split
  · exact ⟨by decide,by decide⟩
  split
  · exact ⟨by decide,by decide⟩
  next hfeed =>
  split
  · exact ⟨by decide,by decide⟩
  split
  · exact ⟨by decide,by decide⟩
  next hreturn =>
  split
  · have hhead : OneLine ['\\','u','0','0'] := ⟨by decide,by decide⟩
    exact hhead.append ((oneLine_digitChar (by omega)).append (oneLine_digitChar (by omega)))
  next => exact oneLine_singleton hfeed hreturn

theorem flatMap_oneLine {Item : Type} {print : Item → Text} (items : List Item)
    (hprint : ∀ item ∈ items, OneLine (print item)) : OneLine (items.flatMap print) := by
  induction items with
  | nil => exact ⟨not_mem_nil,not_mem_nil⟩
  | cons item items ih =>
    rw [flatMap_cons]
    exact (hprint item mem_cons_self).append
      (ih fun other hother => hprint other (mem_cons_of_mem item hother))

theorem jsonString_oneLine (text : String) : OneLine (jsonString text) := by
  have hquote : OneLine ['"'] := ⟨by decide,by decide⟩
  exact hquote.append ((flatMap_oneLine _ fun character _ => escape_oneLine character).append hquote)

theorem repr_oneLine (value : Nat) : OneLine value.repr.toList := by
  constructor
  · intro hmem
    have hdigit := isDigit_of_mem_repr hmem
    contradiction
  · intro hmem
    have hdigit := isDigit_of_mem_repr hmem
    contradiction

theorem print_oneLine (value : Scalar) : OneLine value.print := by
  cases value with
  | number value => exact repr_oneLine value
  | text value => exact jsonString_oneLine value

theorem member_oneLine (key : String) (value : Scalar) : OneLine (jsonString key ++ ':' :: value.print) :=
  (jsonString_oneLine key).append (oneLine_cons (by decide) (by decide) (print_oneLine value))

variable (members : List (String × Scalar))

theorem printMembers_oneLine : OneLine (printMembers members) := by
  induction members with
  | nil => exact ⟨not_mem_nil,not_mem_nil⟩
  | cons member members ih =>
    cases members with
    | nil => exact member_oneLine member.1 member.2
    | cons next members =>
      exact (member_oneLine member.1 member.2).append (oneLine_cons (by decide) (by decide) ih)

def field (name : String) (value : Text) : Text := name.toList ++ ':' :: ' ' :: value

def fieldLines (id : Option Nat) (event : String) (data : Text) : List Text :=
  (id.map fun id => field "id" id.repr.toList).toList ++ [field "event" event.toList,field "data" data]

theorem sseFrame_eq {id : Option Nat} {event : String} {data : Text} (hdata : OneLine data)
    (hne : data ≠ []) : sseFrame id event data = unlines (fieldLines id event data) ++ ['\n'] := by
  have hlines : lines data = [data] := by
    have hlast := lines_unlines_append (fun _ hmem => absurd hmem not_mem_nil) hdata hne
    rwa [unlines_nil,nil_append] at hlast
  unfold sseFrame
  rw [hlines]
  cases id with
  | none | some id => simp [fieldLines,field]

end Routiq.ControlPlane.ChangeFrames
