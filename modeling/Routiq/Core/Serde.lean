import Routiq.Core.Documents
import Mathlib.Algebra.Group.Nat.Defs

/-! Deserialisers as `serde` derives them, over JSON documents, and the shapes
of the documents they accept. Error texts are left out: a document is accepted
or it is not. -/
namespace Routiq.Core.Serde
open Documents List Option

variable {Value Other : Type}

/-! ## Scalars and containers -/

def string : Json → Option String
  | .text value => some value
  | _ => none

def boolean : Json → Option Bool
  | .bool value => some value
  | _ => none

def u64 : Json → Option UInt64
  | .number (.posInt value) => some value
  | _ => none

def u32 : Json → Option UInt32
  | .number (.posInt value) => if value.toNat < 2^32 then some value.toUInt32 else none
  | _ => none

section
variable (decode : Json → Option Value)

def option : Json → Option (Option Value)
  | .null => some none
  | json => (decode json).map some

def sequence : Json → Option (List Value)
  | .array items => items.mapM decode
  | _ => none

/-- Every member is decoded; of members with the same key the last one stays. -/
def mapping : Json → Option (Mapping Value)
  | .object members => (members.mapM fun member => (decode member.2).map (member.1,·)).map .ofList
  | _ => none

def anyValue (json : Json) : Option JsonValue :=
  if hpresent : json.isNull = false then some (.ofJson json hpresent) else none

/-- The unit variants of an enumeration: a string, or an object with the
variant as its only key and null under it. -/
def variant (decode : String → Option Value) : Json → Option Value
  | .text name => decode name
  | .object [(name,.null)] => decode name
  | _ => none

/-! ## Structures -/

/-- What a document has for a field: twice is an error. -/
def slot (members : List (String × Json)) (name : String) : Option (Option Json) :=
  match members.filter (·.1 = name) with
  | [] => some none
  | [member] => some (some member.2)
  | _ => none

/-- The fields of a structure, from an object by their names, with unknown
members ignored, or from an array by position. -/
def slotsOf (names : List String) : Json → Option (List (Option Json))
  | .object members => names.mapM (slot members)
  | .array items =>
    if items.length ≤ names.length then
      some (items.map some ++ List.replicate (names.length - items.length) none)
    else none
  | _ => none

def required (slot : Option Json) : Option Value := slot.bind decode

def orDefault (default : Value) : Option Json → Option Value
  | none => some default
  | some json => decode json

end

/-! ## Serialisers -/

def ofU64 (value : UInt64) : Json := .number (.posInt value)
def ofU32 (value : UInt32) : Json := ofU64 value.toUInt64

section
variable (encode : Value → Json)

def ofOption : Option Value → Json
  | none => .null
  | some value => encode value

def ofList (values : List Value) : Json := .array (values.map encode)

def ofMapping (mapping : Mapping Value) : Json :=
  .object (mapping.entries.map fun entry => (entry.1,encode entry.2))

end

@[simp] theorem u64_ofU64 (value : UInt64) : u64 (ofU64 value) = some value := rfl

@[simp] theorem u32_ofU32 (value : UInt32) : u32 (ofU32 value) = some value := by
  have hrange : value.toUInt64.toNat < 2^32 := by
    rw [UInt32.toNat_toUInt64]
    exact value.toNat_lt
  rw [ofU32,ofU64,u32,if_pos hrange,UInt32.toUInt32_toUInt64]

@[simp] theorem anyValue_json (value : JsonValue) : anyValue value.json = some value := by
  rw [anyValue,dif_pos value.present,value.ofJson_json]

variable {decode : Json → Option Value} {json : Json}

theorem option_of_present (hpresent : json.isNull = false) : option decode json = (decode json).map some := by
  cases json with
  | null => contradiction
  | bool _ | number _ | text _ | array _ | object _ => rfl

variable {values : List Value}

section Translation
variable {decode : Json → Option Other} {encode : Value → Json} {translate : Value → Other}

/-! What one service writes and another reads: `translate` says what arrives. -/

theorem option_ofOption (hpresent : ∀ value, (encode value).isNull = false)
    (hread : ∀ value, decode (encode value) = some (translate value)) (value : Option Value) :
    option decode (ofOption encode value) = some (value.map translate) := by
  cases value with
  | none => rfl
  | some value => rw [ofOption,option_of_present (hpresent value),hread,map_some,map_some]

variable {read : Value → Option Other}

theorem mapM_eq_some (hread : ∀ value, read value = some (translate value)) (values : List Value) :
    values.mapM read = some (values.map translate) := by
  induction values with
  | nil => rfl
  | cons value values ih => simp [mapM_cons,hread,ih]

section
variable (hread : ∀ value, decode (encode value) = some (translate value))
include hread

theorem sequence_ofList
    (values : List Value) : sequence decode (ofList encode values) = some (values.map translate) := by
  unfold sequence ofList
  dsimp only
  rw [mapM_map]
  exact mapM_eq_some hread values

theorem mapping_ofMapping (entries : Mapping Value) :
    mapping decode (ofMapping encode entries) = some (entries.mapValues translate) := by
  have hentries : (entries.entries.mapM fun entry => (decode (encode entry.2)).map (entry.1,·)) =
      some (entries.mapValues translate).entries := mapM_eq_some (fun entry => by rw [hread]; rfl) _
  unfold mapping ofMapping
  dsimp only
  rw [mapM_map]
  exact (congrArg (Option.map Mapping.ofList) hentries).trans
    (congrArg some (entries.mapValues translate).ofList_entries)

end

theorem isSome_mapM (items : List Value) :
    (items.mapM read).isSome = true ↔ ∀ item ∈ items, (read item).isSome = true := by
  induction items with
  | nil => simp
  | cons item items ih =>
    rw [mapM_cons,forall_mem_cons,← ih]
    cases read item with
    | none => simp
    | some value =>
      cases items.mapM read with
      | none | some values => simp

variable {others : List Other} {other : Other}

theorem mem_of_mapM {items : List Value} (hread : items.mapM read = some others) (hmem : other ∈ others) :
    ∃ item ∈ items, read item = some other := by
  induction items generalizing others with
  | nil =>
    rw [← some.inj hread] at hmem
    contradiction
  | cons item items ih =>
    rw [mapM_cons] at hread
    obtain ⟨first,hfirst,hrest⟩ := bind_eq_some_iff.mp hread
    obtain ⟨rest,hrest,hcons⟩ := bind_eq_some_iff.mp hrest
    rw [← some.inj hcons] at hmem
    rcases mem_cons.mp hmem with rfl | hlater
    · exact ⟨item,mem_cons_self,hfirst⟩
    · obtain ⟨found,hfound,hsome⟩ := ih hrest hlater
      exact ⟨found,mem_cons_of_mem item hfound,hsome⟩

theorem mem_of_sequence
    (hread : sequence decode (ofList encode values) = some others)
    (hmem : other ∈ others) : ∃ value ∈ values, decode (encode value) = some other := by
  unfold sequence ofList at hread
  dsimp only at hread
  rw [mapM_map] at hread
  exact mem_of_mapM hread hmem

theorem keys_of_mapM (read : Value → Option Other) {entries : List (String × Value)}
    {members : List (String × Other)}
    (hread : (entries.mapM fun entry => (read entry.2).map (entry.1,·)) = some members) :
    members.map Prod.fst = entries.map Prod.fst := by
  induction entries generalizing members with
  | nil =>
    rw [← some.inj hread]
    rfl
  | cons entry entries ih =>
    rw [mapM_cons] at hread
    obtain ⟨first,hfirst,hrest⟩ := bind_eq_some_iff.mp hread
    obtain ⟨rest,htail,hcons⟩ := bind_eq_some_iff.mp hrest
    obtain ⟨value,_,rfl⟩ := map_eq_some_iff.mp hfirst
    rw [← some.inj hcons,map_cons,map_cons,ih htail]

theorem isSome_get_of_mapping {entries : Mapping Value} {others : Mapping Other}
    (hread : mapping decode (ofMapping encode entries) = some others) {key : String}
    (hkey : (entries.get key).isSome = true) : (others.get key).isSome = true := by
  unfold mapping ofMapping at hread
  dsimp only at hread
  rw [mapM_map] at hread
  obtain ⟨members,hmembers,rfl⟩ := map_eq_some_iff.mp hread
  rw [Mapping.isSome_get] at hkey ⊢
  rw [Mapping.ofList,mem_keys_keepLast,keys_of_mapM (fun value => decode (encode value)) hmembers]
  exact hkey

theorem isSome_sequence (values : List Value) : (sequence decode (ofList encode values)).isSome = true ↔
      ∀ value ∈ values, (decode (encode value)).isSome = true := by
  unfold sequence ofList
  dsimp only
  rw [mapM_map]
  exact isSome_mapM values

theorem isSome_mapping (entries : Mapping Value) : (mapping decode (ofMapping encode entries)).isSome = true ↔
      ∀ value ∈ entries.values, (decode (encode value)).isSome = true := by
  unfold mapping ofMapping Mapping.values
  dsimp only
  rw [isSome_map,mapM_map,isSome_mapM,List.forall_mem_map]
  simp

end Translation

@[simp] theorem normal_text (value : String) : (Json.text value).Normal := rfl

@[simp] theorem normal_bool (value : Bool) : (Json.bool value).Normal := rfl

@[simp] theorem normal_ofU64 (value : UInt64) : (ofU64 value).Normal := rfl

section Normal
variable {encode : Value → Json}

variable (hencode : ∀ value, (encode value).Normal)
include hencode

theorem normal_ofOption (value : Option Value) : (ofOption encode value).Normal := by
  cases value with
  | none => rfl
  | some value => exact hencode value

theorem normal_ofList (values : List Value) : (ofList encode values).Normal := by
  apply Json.normal_array
  intro item hmem
  obtain ⟨value,_,rfl⟩ := mem_map.mp hmem
  exact hencode value

theorem normal_ofMapping (entries : Mapping Value) : (ofMapping encode entries).Normal := by
  apply Json.normal_object
  · exact (entries.mapValues encode).nodup
  · intro member hmem
    obtain ⟨entry,_,rfl⟩ := mem_map.mp hmem
    exact hencode entry.2

end Normal

/-! ## Shapes -/

def IsText : Json → Prop
  | .text _ => True
  | _ => False

def IsBool : Json → Prop
  | .bool _ => True
  | _ => False

def IsU64 : Json → Prop
  | .number (.posInt _) => True
  | _ => False

def IsU32 : Json → Prop
  | .number (.posInt value) => value.toNat < 2^32
  | _ => False

def NullOr (shape : Json → Prop) : Json → Prop
  | .null => True
  | json => shape json

def ListOf (shape : Json → Prop) : Json → Prop
  | .array items => ∀ item ∈ items, shape item
  | _ => False

def OneOf (names : List String) : Json → Prop
  | .text name => name ∈ names
  | .object [(name,.null)] => name ∈ names
  | _ => False

structure Field where
  name : String
  mandatory : Bool
  shape : Json → Prop

def Field.Admits (field : Field) : Option Json → Prop
  | none => field.mandatory = false
  | some json => field.shape json

def RecordOf (fields : List Field) (json : Json) : Prop :=
  ∃ slots, slotsOf (fields.map Field.name) json = some slots ∧ Forall₂ Field.Admits fields slots

def Accepts (decode : Json → Option Value) (shape : Json → Prop) : Prop :=
  ∀ json, (decode json).isSome = true ↔ shape json

theorem string_accepts : Accepts string IsText := by
  intro json
  cases json <;> simp [string,IsText]

theorem boolean_accepts : Accepts boolean IsBool := by
  intro json
  cases json <;> simp [boolean,IsBool]

theorem u64_accepts : Accepts u64 IsU64 := by
  intro json
  cases json with
  | number value => cases value <;> simp [u64,IsU64]
  | null | bool _ | text _ | array _ | object _ => simp [u64,IsU64]

theorem u32_accepts : Accepts u32 IsU32 := by
  intro json
  cases json with
  | number value =>
    cases value with
    | posInt value =>
      simp only [u32,IsU32]
      split
      next hrange => exact iff_of_true rfl hrange
      next hrange => exact iff_of_false Bool.false_ne_true hrange
    | negInt _ | float _ => simp [u32,IsU32]
  | null | bool _ | text _ | array _ | object _ => simp [u32,IsU32]

variable {shape : Json → Prop}

theorem option_accepts (hdecode : Accepts decode shape) : Accepts (option decode) (NullOr shape) := by
  intro json
  cases json with
  | null => simp [option,NullOr]
  | bool _ | number _ | text _ | array _ | object _ => simp [option,NullOr,hdecode _]

theorem sequence_accepts (hdecode : Accepts decode shape) : Accepts (sequence decode) (ListOf shape) := by
  intro json
  cases json with
  | array items =>
    simp only [sequence,ListOf,isSome_mapM]
    exact forall₂_congr fun item _ => hdecode item
  | null | bool _ | number _ | text _ | object _ => simp [sequence,ListOf]

theorem length_of_mapM {decode : Other → Option Value} {items : List Other}
    (hvalues : items.mapM decode = some values) : values.length = items.length := by
  induction items generalizing values with
  | nil =>
    rw [← some.inj hvalues]
    rfl
  | cons item items ih =>
    rw [mapM_cons] at hvalues
    obtain ⟨value,_,hrest⟩ := bind_eq_some_iff.mp hvalues
    obtain ⟨rest,hrest,hcons⟩ := bind_eq_some_iff.mp hrest
    rw [← some.inj hcons,length_cons,ih hrest,length_cons]

theorem slotsOf_length {names : List String} {slots : List (Option Json)}
    (hslots : slotsOf names json = some slots) : slots.length = names.length := by
  unfold slotsOf at hslots
  split at hslots
  next members => exact length_of_mapM hslots
  · split at hslots
    next hlength =>
      rw [← some.inj hslots,length_append,length_map,length_replicate]
      omega
    next => contradiction
  next => contradiction

theorem record_accepts {fields : List Field} {read : List (Option Json) → Option Value}
    (hdecode : ∀ json, decode json = slotsOf (fields.map Field.name) json >>= read)
    (hread : ∀ slots, slots.length = fields.length →
      ((read slots).isSome = true ↔ Forall₂ Field.Admits fields slots)) :
    Accepts decode (RecordOf fields) := by
  intro json
  rw [hdecode]
  unfold RecordOf
  cases hslots : slotsOf (fields.map Field.name) json with
  | none => simp
  | some slots =>
    have hlength := slotsOf_length hslots
    rw [length_map] at hlength
    simp [hread slots hlength]

theorem isSome_bind {first : Option Value} {rest : Value → Option Other} {others : Prop}
    (hrest : ∀ value, (rest value).isSome = true ↔ others) :
    (first >>= rest).isSome = true ↔ first.isSome = true ∧ others := by
  cases first with
  | none => simp
  | some value => simp [hrest]

section Reading
variable {decode : Json → Option Value} {shape : Json → Prop} {name : String} {slot : Option Json}
  {rest : Value → Option Other} {fields : List Field} {slots : List (Option Json)}

theorem isSome_required (hdecode : Accepts decode shape)
    (hrest : ∀ value, (rest value).isSome = true ↔ Forall₂ Field.Admits fields slots) :
    (required decode slot >>= rest).isSome = true ↔
      Forall₂ Field.Admits (⟨name,true,shape⟩ :: fields) (slot :: slots) := by
  rw [isSome_bind hrest,forall₂_cons]
  refine and_congr_left fun _ => ?_
  cases slot with
  | none => simp [required,Field.Admits]
  | some json => exact hdecode json

theorem isSome_orDefault (hdecode : Accepts decode shape) (default : Value)
    (hrest : ∀ value, (rest value).isSome = true ↔ Forall₂ Field.Admits fields slots) :
    (orDefault decode default slot >>= rest).isSome = true ↔
      Forall₂ Field.Admits (⟨name,false,shape⟩ :: fields) (slot :: slots) := by
  rw [isSome_bind hrest,forall₂_cons]
  refine and_congr_left fun _ => ?_
  cases slot with
  | none => simp [orDefault,Field.Admits]
  | some json => exact hdecode json

theorem isSome_done (value : Value) :
    (pure value : Option Value).isSome = true ↔ Forall₂ Field.Admits [] [] := by
  simp

end Reading

end Routiq.Core.Serde
