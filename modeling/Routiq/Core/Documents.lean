import Mathlib.Data.List.Nodup

/-! JSON documents, in which a key may occur twice, and JSON values, in which
the last member under a key has won. -/
namespace Routiq.Core.Documents
open List

/-! ## Entries under distinct keys -/

section Entries
variable {Value Other : Type}

def keepLast : List (String × Value) → List (String × Value)
  | [] => []
  | entry :: entries =>
    if entry.1 ∈ entries.map Prod.fst then keepLast entries else entry :: keepLast entries

variable {entries : List (String × Value)}

theorem mem_keys_keepLast {key : String} :
    key ∈ (keepLast entries).map Prod.fst ↔ key ∈ entries.map Prod.fst := by
  induction entries with
  | nil => exact Iff.rfl
  | cons entry entries ih =>
    unfold keepLast
    split
    next hlater =>
      rw [ih,map_cons,mem_cons]
      constructor
      · exact .inr
      · rintro (rfl | hmem)
        · exact hlater
        · exact hmem
    next => rw [map_cons,mem_cons,ih,map_cons,mem_cons]

theorem keepLast_nodup (entries : List (String × Value)) : ((keepLast entries).map Prod.fst).Nodup := by
  induction entries with
  | nil => exact nodup_nil
  | cons entry entries ih =>
    unfold keepLast
    split
    next => exact ih
    next hfresh =>
      rw [map_cons,nodup_cons,mem_keys_keepLast]
      exact ⟨hfresh,ih⟩

theorem keepLast_of_nodup (hnodup : (entries.map Prod.fst).Nodup) : keepLast entries = entries := by
  induction entries with
  | nil => rfl
  | cons entry entries ih =>
    rw [map_cons,nodup_cons] at hnodup
    rw [keepLast,if_neg hnodup.1,ih hnodup.2]

/-- A map with string keys. Its entries have an order here; no result depends
on it. -/
structure Mapping (Value : Type) where
  entries : List (String × Value)
  nodup : (entries.map Prod.fst).Nodup

def Mapping.ofList (entries : List (String × Value)) : Mapping Value :=
  ⟨keepLast entries,keepLast_nodup entries⟩

def Mapping.empty : Mapping Value := ⟨[],nodup_nil⟩

variable (mapping : Mapping Value)

def Mapping.get (key : String) : Option Value := mapping.entries.lookup key
def Mapping.values : List Value := mapping.entries.map Prod.snd

def Mapping.mapValues (change : Value → Other) (mapping : Mapping Value) : Mapping Other where
  entries := mapping.entries.map fun entry => (entry.1,change entry.2)
  nodup := by
    rw [map_map]
    exact mapping.nodup

theorem Mapping.ext_entries {first second : Mapping Value}
    (hentries : first.entries = second.entries) : first = second := by
  cases first
  cases second
  cases hentries
  rfl

theorem Mapping.ofList_entries : .ofList mapping.entries = mapping :=
  Mapping.ext_entries (keepLast_of_nodup mapping.nodup)

theorem Mapping.isSome_get (key : String) :
    (mapping.get key).isSome = true ↔ key ∈ mapping.entries.map Prod.fst := by
  unfold Mapping.get
  induction mapping.entries with
  | nil => simp
  | cons entry entries ih =>
    rw [lookup_cons,map_cons,mem_cons,← ih]
    by_cases hkey : key = entry.1
    · simp [hkey]
    · rw [beq_false_of_ne hkey]
      simp only [hkey,false_or]

@[simp] theorem Mapping.mapValues_id : (mapping.mapValues fun value => value) = mapping :=
  Mapping.ext_entries (map_id _)

end Entries

/-! ## Documents -/

/-- The three kinds of numbers: unsigned and negative 64-bit integers, and the
rest, by its text. -/
inductive Number where
  | posInt (value : UInt64)
  | negInt (magnitude : Nat)
  | float (text : String)
deriving DecidableEq

inductive Json where
  | null
  | bool (value : Bool)
  | number (value : Number)
  | text (value : String)
  | array (items : List Json)
  | object (members : List (String × Json))

mutual

/-- A document as a value: of members with the same key the last one is kept. -/
def Json.value : Json → Json
  | .null => .null
  | .bool value => .bool value
  | .number value => .number value
  | .text value => .text value
  | .array items => .array (valueItems items)
  | .object members => .object (keepLast (valueMembers members))

def valueItems : List Json → List Json
  | [] => []
  | item :: items => item.value :: valueItems items

def valueMembers : List (String × Json) → List (String × Json)
  | [] => []
  | (key,member) :: members => (key,member.value) :: valueMembers members

end

theorem keys_valueMembers (members : List (String × Json)) :
    (valueMembers members).map Prod.fst = members.map Prod.fst := by
  induction members with
  | nil => rfl
  | cons member members ih => rw [valueMembers,map_cons,map_cons,ih]

theorem valueMembers_keepLast (members : List (String × Json)) :
    valueMembers (keepLast members) = keepLast (valueMembers members) := by
  induction members with
  | nil => rfl
  | cons member members ih =>
    rw [keepLast,valueMembers,keepLast,keys_valueMembers]
    split
    next => exact ih
    next => rw [valueMembers,ih]

mutual

theorem Json.value_value (json : Json) : json.value.value = json.value := by
  cases json with
  | null | bool _ | number _ | text _ => rfl
  | array items => rw [Json.value,Json.value,valueItems_valueItems]
  | object members =>
    rw [Json.value,Json.value,valueMembers_keepLast,valueMembers_valueMembers,
      keepLast_of_nodup (keepLast_nodup _)]

theorem valueItems_valueItems (items : List Json) : valueItems (valueItems items) = valueItems items := by
  cases items with
  | nil => rfl
  | cons item items => rw [valueItems,valueItems,item.value_value,valueItems_valueItems items]

theorem valueMembers_valueMembers (members : List (String × Json)) :
    valueMembers (valueMembers members) = valueMembers members := by
  match members with
  | [] => rfl
  | (key,member) :: members =>
    rw [valueMembers,valueMembers,member.value_value,valueMembers_valueMembers members]

end

def Json.Normal (json : Json) : Prop := json.value = json

theorem Json.normal_array {items : List Json} (hitems : ∀ item ∈ items, item.Normal) :
    (Json.array items).Normal := by
  have hvalues : valueItems items = items := by
    induction items with
    | nil => rfl
    | cons item items ih =>
      rw [valueItems,hitems item mem_cons_self,
        ih fun other hother => hitems other (mem_cons_of_mem item hother)]
  rw [Normal,value,hvalues]

theorem Json.normal_object {members : List (String × Json)} (hkeys : (members.map Prod.fst).Nodup)
    (hmembers : ∀ member ∈ members, member.2.Normal) : (Json.object members).Normal := by
  have hvalues : valueMembers members = members := by
    clear hkeys
    induction members with
    | nil => rfl
    | cons member members ih =>
      rw [valueMembers,hmembers member mem_cons_self,
        ih fun other hother => hmembers other (mem_cons_of_mem member hother)]
  rw [Normal,value,hvalues,keepLast_of_nodup hkeys]

def Json.member (json : Json) (key : String) : Option Json :=
  match json with
  | .object members => members.lookup key
  | _ => none

def Json.isNull : Json → Bool
  | .null => true
  | _ => false

theorem Json.isNull_value (json : Json) : json.value.isNull = json.isNull := by
  cases json <;> rfl

/-- A JSON value that is there: not null, and no object in it has a key twice. -/
structure JsonValue where
  json : Json
  normal : json.Normal
  present : json.isNull = false

def JsonValue.ofJson (json : Json) (hpresent : json.isNull = false) : JsonValue :=
  ⟨json.value,json.value_value,json.isNull_value.trans hpresent⟩

theorem JsonValue.ofJson_json (value : JsonValue) : .ofJson value.json value.present = value := by
  obtain ⟨json,hnormal,hpresent⟩ := value
  unfold ofJson
  congr

end Routiq.Core.Documents
