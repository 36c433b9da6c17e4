import Entitlement.Record.Dict
import Entitlement.Record.Source

/-!
How values are written as JSON. A codec describes the form of a type once; writing it as a tree and
reading it from any source follow that description.
-/

namespace Entitlement.Record

open Entitlement.Json

def Row : List Type → Type
  | [] => Unit
  | type :: types => type × Row types

def Slots : List Type → Type
  | [] => Unit
  | type :: types => Option type × Slots types

/-- What it means that a field is not there: its value when an object lacks it, its value when a
list stops before it, and which values are left out when the field is written. -/
structure Absence (α : Type) where
  inObject : Option α
  inList : Option α
  isHidden : α → Bool

namespace Absence

variable {α : Type}

def required : Absence α := ⟨none, none, fun _ => false⟩

/-- An object may lack the field; it is written as null. -/
def nullable : Absence (Option α) := ⟨some none, none, fun _ => false⟩

/-- The field may be missing, and is not written when it is unset. -/
def optional : Absence (Option α) := ⟨some none, some none, Option.isNone⟩

/-- The field may be missing, and is always written. -/
def default (value : α) : Absence α := ⟨some value, some value, fun _ => false⟩

end Absence

mutual

inductive Codec : Type → Type 1 where
  | text : Codec String
  | bool : Codec Bool
  | int64 : Codec Int64
  | uint32 : Codec UInt32
  | uint64 : Codec UInt64
  | option {α : Type} (codec : Codec α) : Codec (Option α)
  | list {α : Type} (codec : Codec α) : Codec (List α)
  | dict {α : Type} (codec : Codec α) : Codec (Dict α)
  /-- One of several named values. -/
  | choice {α : Type} (known : List α) (name : α → String) : Codec α
  /-- A flag or a text, told apart by what is written. -/
  | boolOrText (name : String) : Codec (Bool ⊕ String)
  /-- Another type in the form of a given one. -/
  | via {α β : Type} (codec : Codec α) (build : α → β) (parts : β → α) : Codec β
  | record {α : Type} {types : List Type} (name : String) (fields : Fields types)
      (build : Row types → α) (parts : α → Row types) : Codec α
  /-- A record whose object also holds the members of another record. -/
  | flattened {α : Type} {own inner : List Type} (name : String) (ownFields : Fields own)
      (innerFields : Fields inner) (build : Row own → Row inner → α)
      (parts : α → Row own × Row inner) : Codec α

inductive Fields : List Type → Type 1 where
  | nil : Fields []
  | field {α : Type} {types : List Type} (name : String) (codec : Codec α) (absence : Absence α)
      (rest : Fields types) : Fields (α :: types)

end

namespace Fields

def count : {types : List Type} → Fields types → Nat
  | _, .nil => 0
  | _, .field _ _ _ rest => rest.count + 1

def names : {types : List Type} → Fields types → List String
  | _, .nil => []
  | _, .field name _ _ rest => name :: rest.names

def blank : {types : List Type} → Fields types → Slots types
  | _, .nil => ()
  | _, .field _ _ _ rest => (none, rest.blank)

/-- The values of all fields once every member has been met; the first field that may not be absent
is reported. -/
def close : {types : List Type} → Fields types → Slots types → Except Fault (Row types)
  | _, .nil, _ => .ok ()
  | _, .field name _ absence rest, (slot, slots) => do
      match slot.or absence.inObject with
      | none => .error (.missingField name)
      | some value => return (value, ← rest.close slots)

end Fields

-- Writing

def optionTree {α : Type} (write : α → Tree) : Option α → Tree
  | none => .null
  | some value => write value

def boolOrTextTree : Bool ⊕ String → Tree
  | .inl value => .bool value
  | .inr value => .text value

mutual

def Codec.encode : {α : Type} → Codec α → α → Tree
  | _, .text, value => .text value
  | _, .bool, value => .bool value
  | _, .int64, value => .int value.toInt
  | _, .uint32, value => .int value.toNat
  | _, .uint64, value => .int value.toNat
  | _, .option codec, value => optionTree codec.encode value
  | _, .list codec, items => .list (items.map codec.encode)
  | _, .dict codec, dict =>
      .object (dict.entries.map fun entry => (entry.1, codec.encode entry.2))
  | _, .choice _ name, value => .text (name value)
  | _, .boolOrText _, value => boolOrTextTree value
  | _, .via codec _ parts, value => codec.encode (parts value)
  | _, .record _ fields _ parts, value => .object (fields.members (parts value))
  | _, .flattened _ ownFields innerFields _ parts, value =>
      .object (innerFields.members (parts value).2 ++ ownFields.members (parts value).1)

def Fields.members : {types : List Type} → Fields types → Row types → List (String × Tree)
  | _, .nil, _ => []
  | _, .field name codec absence rest, (value, values) =>
      if absence.isHidden value then rest.members values
      else (name, codec.encode value) :: rest.members values

end

-- Reading

def readInteger {α : Type} (wanted : Wanted) (low high : Int) (build : Int → α) :
    Number → Except Fault α
  | .int value =>
      if low ≤ value ∧ value ≤ high then .ok (build value) else .error (.outOfRange value wanted)
  | .real value => .error (.wrongType (.number (.real value)) wanted)

def readNumber {Place α : Type} (source : Source Place) (wanted : Wanted)
    (convert : Number → Except Fault α) (place : Place) : Except Fault α :=
  match source.look place with
  | .number value => do convert (← value)
  | view => view.mismatch wanted

/-- The named value of an alternative, its payload and its end checked after the name. -/
def readChoice {Place α : Type} (source : Source Place) (known : List α) (name : α → String)
    (place : Place) : Except Fault α := do
  let tag ← source.tag place
  let text ← tag.name
  match known.find? fun value => name value == text with
  | none => .error (.unknownVariant text (known.map name))
  | some value =>
      match tag.payload with
      | none => return value
      | some payload =>
          source.unit payload
          stopAt tag.surplus
          return value

def readBoolOrText (name : String) : Tree → Except Fault (Bool ⊕ String)
  | .bool value => .ok (.inl value)
  | .text value => .ok (.inr value)
  | _ => .error (.noVariant name)

/-- Meets the members of an object one after the other. A member that no field takes is given to
`other`. -/
def meetMembers {Place σ : Type} (put : σ → String → Place → Except Fault (Option σ))
    (other : σ → String → Place → Except Fault σ) :
    σ → List (Except Fault String × Place) → Except Fault σ
  | state, [] => .ok state
  | state, (key, place) :: rest => do
      let key ← key
      match ← put state key place with
      | some state => meetMembers put other state rest
      | none => meetMembers put other (← other state key place) rest

def fillSlot {α σ : Type} (name : String) (slot : Option α) (slots : σ)
    (read : Unit → Except Fault α) : Except Fault (Option (Option α × σ)) :=
  match slot with
  | some _ => .error (.duplicateField name)
  | none => do return some (some (← read ()), slots)

mutual

def Codec.decode {Place : Type} (source : Source Place) :
    {α : Type} → Codec α → Place → Except Fault α
  | _, .text, place => match source.look place with
      | .text value => value
      | view => view.mismatch .text
  | _, .bool, place => match source.look place with
      | .bool value => .ok value
      | view => view.mismatch .bool
  | _, .int64, place =>
      readNumber source .int64
        (readInteger .int64 (-9223372036854775808) 9223372036854775807 Int64.ofInt) place
  | _, .uint32, place =>
      readNumber source .uint32
        (readInteger .uint32 0 4294967295 fun value => UInt32.ofNat value.toNat) place
  | _, .uint64, place =>
      readNumber source .uint64
        (readInteger .uint64 0 18446744073709551615 fun value => UInt64.ofNat value.toNat) place
  | _, .option codec, place => do
      if ← source.isNull place then return none else return some (← codec.decode source place)
  | _, .list codec, place => match source.look place with
      | .list items next _ => do
          let values ← (← items).mapM (codec.decode source)
          stopAt next
          return values
      | view => view.mismatch .list
  | _, .dict codec, place => match source.look place with
      | .object members next => do
          let dict ← (← members).foldlM
            (fun dict member => do
              let key ← member.1
              return dict.insert key (← codec.decode source member.2)) Dict.empty
          stopAt next
          return dict
      | view => view.mismatch .map
  | _, .choice known name, place => readChoice source known name place
  | _, .boolOrText name, place => do readBoolOrText name (← source.whole place)
  | _, .via codec build _, place => do return build (← codec.decode source place)
  | _, .record name fields build _, place => match source.look place with
      | .object members next => do
          let slots ← meetMembers (fields.put source)
            (fun slots _ place => do
              source.skip place
              return slots) fields.blank (← members)
          stopAt next
          return build (← fields.close slots)
      | .list items next surplus => do
          let row ← fields.take source name fields.count 0 next (← items)
          stopAt (surplus fields.count)
          return build row
      | view => view.mismatch (.record name)
  | _, .flattened name ownFields innerFields build _, place => match source.look place with
      | .object members next => do
          let met ← meetMembers
            (fun state key place => do
              return (← ownFields.put source state.1 key place).map fun slots => (slots, state.2))
            (fun state key place => do
              return (state.1, state.2 ++ [(key, ← source.whole place)]))
            (ownFields.blank, []) (← members)
          stopAt next
          let own ← ownFields.close met.1
          let slots ← meetMembers (innerFields.put Source.buffered) (fun slots _ _ => .ok slots)
            innerFields.blank (met.2.map fun member => (.ok member.1, member.2))
          return build own (← innerFields.close slots)
      | view => view.mismatch (.record name)

def Fields.put {Place : Type} (source : Source Place) :
    {types : List Type} → Fields types → Slots types → String → Place →
      Except Fault (Option (Slots types))
  | _, .nil, _, _, _ => .ok none
  | _, .field name codec _ rest, (slot, slots), key, place =>
      if key = name then fillSlot name slot slots fun _ => codec.decode source place
      else do return (← rest.put source slots key place).map fun slots => (slot, slots)

def Fields.take {Place : Type} (source : Source Place) (record : String) (total : Nat) :
    {types : List Type} → Fields types → (position : Nat) → (next : Option Fault) →
      List Place → Except Fault (Row types)
  | _, .nil, _, _, _ => .ok ()
  | _, .field _ _ absence rest, position, next, [] => do
      stopAt next
      match absence.inList with
      | none => .error (.shortRecord position record total)
      | some value => return (value, ← rest.take source record total (position + 1) next [])
  | _, .field _ codec _ rest, position, next, place :: places => do
      let value ← codec.decode source place
      return (value, ← rest.take source record total (position + 1) next places)

end

namespace Codec

variable {α : Type}

/-- Reads a value from a tree, the members of every object in key order. -/
def ofTree (codec : Codec α) (tree : Tree) : Except Fault α :=
  codec.decode Source.tree tree.canonical

/-- Reads a value from a text, faults reported in the order of the text. -/
def ofPieces (codec : Codec α) (pieces : List Text.Piece) : Except Fault α := do
  let (document, after) := Document.read pieces
  let value ← codec.decode Source.text ⟨Document.depthLimit, document⟩
  endOfText after
  return value

def ofText (codec : Codec α) (text : String) : Except Fault α :=
  codec.ofPieces (Text.ofText text)

def ofBytes (codec : Codec α) (bytes : List UInt8) : Except Fault α :=
  codec.ofPieces (Text.pieces bytes)

end Codec

end Entitlement.Record
