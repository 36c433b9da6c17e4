import Entitlement.Proofs.Decoding

/-!
Lawful codecs. Null stands for at most one value of each type, the names of a choice tell its values
apart, the fields of a record have different names, and a record is no more and no less than its
row. A field that is not there has the value that is left out, or an empty one.
-/

namespace Entitlement.Record

open Json

variable {α β : Type} {types own inner : List Type}

/-- Whether null is one of the trees that values are written as. -/
def Codec.takesNull : {α : Type} → Codec α → Bool
  | _, .option _ => true
  | _, .via codec _ _ => codec.takesNull
  | _, _ => false

/-- What is taken for a value that is not there, by the kind of the field. -/
inductive Absence.Lawful : {α : Type} → Codec α → Absence α → Prop
  | required {α : Type} {codec : Codec α} (solid : codec.takesNull = false) :
      Lawful codec .required
  | nullable {α : Type} (codec : Codec α) : Lawful codec.option .nullable
  | optional {α : Type} (codec : Codec α) : Lawful codec.option .optional
  | default {α : Type} {codec : Codec α} (solid : codec.takesNull = false) (value : α)
      (empty : codec.encode value = .list [] ∨ codec.encode value = .object []) :
      Lawful codec (.default value)

mutual

inductive Codec.Lawful : {α : Type} → Codec α → Prop
  | text : Codec.Lawful .text
  | bool : Codec.Lawful .bool
  | int64 : Codec.Lawful .int64
  | uint32 : Codec.Lawful .uint32
  | uint64 : Codec.Lawful .uint64
  | option {α : Type} {codec : Codec α} (value : Codec.Lawful codec)
      (solid : codec.takesNull = false) : Codec.Lawful codec.option
  | list {α : Type} {codec : Codec α} (item : Codec.Lawful codec) : Codec.Lawful codec.list
  | dict {α : Type} {codec : Codec α} (entry : Codec.Lawful codec) : Codec.Lawful codec.dict
  | choice {α : Type} {known : List α} {name : α → String}
      (found : ∀ value, known.find? (fun other => name other == name value) = some value) :
      Codec.Lawful (.choice known name)
  | boolOrText (name : String) : Codec.Lawful (.boolOrText name)
  | via {α β : Type} {codec : Codec α} {build : α → β} {parts : β → α} (form : Codec.Lawful codec)
      (rebuilt : ∀ value, build (parts value) = value)
      (retaken : ∀ form, parts (build form) = form) : Codec.Lawful (codec.via build parts)
  | record {α : Type} {types : List Type} {name : String} {fields : Fields types}
      {build : Row types → α} {parts : α → Row types} (each : Fields.Lawful fields)
      (named : fields.names.Nodup) (rebuilt : ∀ value, build (parts value) = value)
      (retaken : ∀ row, parts (build row) = row) : Codec.Lawful (.record name fields build parts)
  | flattened {α : Type} {own inner : List Type} {name : String} {ownFields : Fields own}
      {innerFields : Fields inner} {build : Row own → Row inner → α}
      {parts : α → Row own × Row inner} (each : Fields.Lawful ownFields)
      (eachInner : Fields.Lawful innerFields)
      (named : (innerFields.names ++ ownFields.names).Nodup)
      (rebuilt : ∀ value, build (parts value).1 (parts value).2 = value)
      (retaken : ∀ row innerRow, parts (build row innerRow) = (row, innerRow)) :
      Codec.Lawful (.flattened name ownFields innerFields build parts)

inductive Fields.Lawful : {types : List Type} → Fields types → Prop
  | nil : Fields.Lawful .nil
  | field {α : Type} {types : List Type} {name : String} {codec : Codec α} {absence : Absence α}
      {rest : Fields types} (value : Codec.Lawful codec) (absent : absence.Lawful codec)
      (others : Fields.Lawful rest) : Fields.Lawful (.field name codec absence rest)

end

namespace Fields.Lawful

variable {name : String} {codec : Codec α} {rest : Fields types}

theorem required (value : codec.Lawful) (solid : codec.takesNull = false) (others : rest.Lawful) :
    (Fields.field name codec .required rest).Lawful :=
  .field value (.required solid) others

theorem nullable (value : codec.Lawful) (solid : codec.takesNull = false) (others : rest.Lawful) :
    (Fields.field name codec.option .nullable rest).Lawful :=
  .field (.option value solid) (.nullable codec) others

theorem optional (value : codec.Lawful) (solid : codec.takesNull = false) (others : rest.Lawful) :
    (Fields.field name codec.option .optional rest).Lawful :=
  .field (.option value solid) (.optional codec) others

theorem emptyList (value : codec.Lawful) (others : rest.Lawful) :
    (Fields.field name codec.list (.default []) rest).Lawful :=
  .field (.list value) (.default rfl [] (.inl rfl)) others

theorem emptyDict (value : codec.Lawful) (others : rest.Lawful) :
    (Fields.field name codec.dict (.default .empty) rest).Lawful :=
  .field (.dict value) (.default rfl Dict.empty (.inr rfl)) others

end Fields.Lawful

end Entitlement.Record
