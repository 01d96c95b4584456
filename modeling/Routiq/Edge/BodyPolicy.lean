import Routiq.Core.Documents
import Routiq.Core.Strings
import Routiq.Edge.Pipeline

/-! The body policy of a route: a limit of size, the content type, and the
members that a JSON document must have. The JSON grammar is a parameter. -/
namespace Routiq.Edge.BodyPolicy
open Core.Strings Core.Documents Config Pipeline

/-- `serde_json::from_str`; a repeated member still stands twice. -/
abbrev FromStr := Text → Option Json

def fieldMatches : FieldType → Json → Bool
  | .string, .text _ => true
  | .number, .number _ => true
  | .boolean, .bool _ => true
  | .object, .object _ => true
  | .array, .array _ => true
  | _, _ => false

def typeName : FieldType → String
  | .string => "a string"
  | .number => "a number"
  | .boolean => "a boolean"
  | .object => "an object"
  | .array => "an array"

/-- The first required member that is missing, null or of another type. -/
def checkRequired (members : List (String × Json)) : List RequiredField → Except Violation Unit
  | [] => .ok ()
  | required :: rest =>
      match members.lookup required.field with
      | none => .error (.missingField required.field)
      | some .null => .error (.missingField required.field)
      | some value =>
          if !fieldMatches required.type value then
            .error (.wrongType required.field (typeName required.type))
          else checkRequired members rest

def declaresJson (contentType : Text) : Bool :=
  "application/json".toList.isPrefixOf ((trim contentType).map Char.toLower)

section
variable (fromStr : FromStr) (policy : ValidationConfig) (contentType body : Text)

def validateContent : Except Violation Unit :=
  let trimmed := trim body
  if trimmed.isEmpty then .ok ()
  else if policy.requireJson && !declaresJson contentType then .error .notJson
  else if policy.required.isEmpty then .ok ()
  else
    match (fromStr trimmed).map Json.value with
    | some (.object members) => checkRequired members policy.required
    | _ => .error .notJson

def validateBody : Except Violation Unit :=
  match policy.maxBodyBytes with
  | none => validateContent fromStr policy contentType body
  | some limit =>
      let actual := (utf8 body).length
      if limit < actual then .error (.tooLarge actual limit)
      else validateContent fromStr policy contentType body

def Exceeds (policy : ValidationConfig) (size : Nat) : Prop :=
  ∃ limit, policy.maxBodyBytes = some limit ∧ limit < size

variable {violation : Violation}

theorem checkRequired_status {members : List (String × Json)} {required : List RequiredField} (herror : checkRequired members required = .error violation) :
    violation.response.1 = 400 := by
  induction required with
  | nil => cases herror
  | cons field rest ih =>
    unfold checkRequired at herror
    split at herror
    · cases herror
      rfl
    · cases herror
      rfl
    · split at herror
      · cases herror
        rfl
      · exact ih herror

theorem validateContent_status {fromStr : FromStr} {policy : ValidationConfig} {contentType body : Text} (herror : validateContent fromStr policy contentType body = .error violation) :
    violation.response.1 ≠ 413 := by
  unfold validateContent at herror
  dsimp only at herror
  split at herror
  · cases herror
  split at herror
  · cases herror
    decide
  split at herror
  · cases herror
  split at herror
  · rw [checkRequired_status herror]
    decide
  · cases herror
    decide

theorem validateBody_status_iff :
    (∃ violation, validateBody fromStr policy contentType body = .error violation ∧
      violation.response.1 = 413) ↔ Exceeds policy (utf8 body).length := by
  unfold validateBody Exceeds
  split
  next hnone =>
    constructor
    · rintro ⟨violation,herror,hstatus⟩
      exact absurd hstatus (validateContent_status herror)
    · rintro ⟨limit,hlimit,-⟩
      rw [hnone] at hlimit
      cases hlimit
  next limit hlimit =>
    dsimp only
    split
    next hover => exact ⟨fun _ => ⟨limit,hlimit,hover⟩,fun _ => ⟨_,rfl,rfl⟩⟩
    next hwithin =>
      constructor
      · rintro ⟨violation,herror,hstatus⟩
        exact absurd hstatus (validateContent_status herror)
      · rintro ⟨other,hother,hover⟩
        rw [hlimit] at hother
        cases hother
        exact absurd hover hwithin

end

theorem validateBody_of_within {fromStr : FromStr} {policy : ValidationConfig} {contentType body : Text}
    (hwithin : ¬Exceeds policy (utf8 body).length) :
    validateBody fromStr policy contentType body = validateContent fromStr policy contentType body := by
  unfold validateBody
  split
  · rfl
  next limit hlimit => exact if_neg fun hover => hwithin ⟨limit,hlimit,hover⟩

end Routiq.Edge.BodyPolicy
