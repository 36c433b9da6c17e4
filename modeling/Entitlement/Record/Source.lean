import Entitlement.Json.Document

/-!
Where records are read from. A source shows one level of a value at a time; what lies deeper is
looked at only when it is asked for. There are three: a tree, a tree that was set aside while a
flattened record was read, and the document of a text.
-/

namespace Entitlement.Record

open Entitlement.Json

/-- One level of a value. The parts of a list or an object can be out of reach when they lie too
deep. `next` is the fault met after the last part; `surplus` is the fault met when a reader is
done after some number of items. -/
inductive View (Place : Type) where
  | null
  | bool (value : Bool)
  | number (value : Except Fault Number)
  | text (value : Except Fault String)
  | list (items : Except Fault (List Place)) (next : Option Fault) (surplus : Nat → Option Fault)
  | object (members : Except Fault (List (Except Fault String × Place))) (next : Option Fault)
  | broken (fault : Fault)

/-- The name of an alternative, with the place of its payload if it was written as an object. -/
structure Tag (Place : Type) where
  name : Except Fault String
  payload : Option Place
  surplus : Option Fault

structure Source (Place : Type) where
  look : Place → View Place
  isNull : Place → Except Fault Bool
  tag : Place → Except Fault (Tag Place)
  /-- Whether an alternative takes an empty object for no payload. -/
  emptyPayload : Bool
  skip : Place → Except Fault Unit
  whole : Place → Except Fault Tree

namespace View

variable {Place : Type}

def mismatch {α : Type} (view : View Place) (wanted : Wanted) : Except Fault α :=
  match view with
  | .null => .error (.wrongType .null wanted)
  | .bool value => .error (.wrongType (.bool value) wanted)
  | .number value => do .error (.wrongType (.number (← value)) wanted)
  | .text value => do .error (.wrongType (.text (← value)) wanted)
  | .list .. => .error (.wrongType .list wanted)
  | .object .. => .error (.wrongType .object wanted)
  | .broken fault => .error fault

end View

namespace Source

variable {Place : Type}

def unit (source : Source Place) (place : Place) : Except Fault Unit :=
  match source.look place with
  | .null => .ok ()
  | .object (.ok []) next =>
      if source.emptyPayload && next.isNone then .ok ()
      else .error (.wrongType .object .unit)
  | view => view.mismatch .unit

-- Trees

def tooLong (length taken : Nat) : Option Fault :=
  if taken < length then some (.longList length) else none

def tooLongBuffered (length taken : Nat) : Option Fault :=
  if taken < length then some (.longBuffered length taken) else none

def treeView (surplus : Nat → Nat → Option Fault) : Tree → View Tree
  | .null => .null
  | .bool value => .bool value
  | .number value => .number (.ok value)
  | .text value => .text (.ok value)
  | .list items => .list (.ok items) none (surplus items.length)
  | .object members => .object (.ok (members.map fun member => (.ok member.1, member.2))) none

def kindOf : Tree → Kind
  | .null => .null
  | .bool value => .bool value
  | .number value => .number value
  | .text value => .text value
  | .list _ => .list
  | .object _ => .object

def treeTag : Tree → Except Fault (Tag Tree)
  | .text value => .ok ⟨.ok value, none, none⟩
  | .object [(key, payload)] => .ok ⟨.ok key, some payload, none⟩
  | .object _ => .error .notSingleKey
  | tree => .error (.wrongType (kindOf tree) .textOrMap)

def isNullTree : Tree → Except Fault Bool
  | .null => .ok true
  | _ => .ok false

def tree : Source Tree where
  look := treeView tooLong
  isNull := isNullTree
  tag := treeTag
  emptyPayload := false
  skip := fun _ => .ok ()
  whole := .ok

/-- A tree that was set aside while a flattened record was read. -/
def buffered : Source Tree where
  look := treeView tooLongBuffered
  isNull := isNullTree
  tag := treeTag
  emptyPayload := true
  skip := fun _ => .ok ()
  whole := .ok

-- Documents, with the depth that is left

/-- A value of a document and how many levels of lists and objects may still be entered. -/
structure Within where
  depth : Nat
  document : Document

def documentView (place : Within) : View Within :=
  match place.document with
  | .null => .null
  | .bool value => .bool value
  | .number value => .number value
  | .text value => .text value
  | .list items ending =>
      .list ((Document.enter place.depth).map fun depth => items.map (⟨depth, ·⟩))
        ending.next?
        (fun taken => if taken < items.length then some .trailingCharacters else ending.close?)
  | .object members ending =>
      .object ((Document.enter place.depth).map fun depth =>
          members.map fun member => (member.1, ⟨depth, member.2⟩))
        ending.next?
  | .broken _ whenRead _ => .broken whenRead

-- What may follow the only member of an alternative.
def tagEnd (rest : List (Except Fault String × Document)) (ending : ObjectEnd) : Option Fault :=
  match rest, ending with
  | [], .closed => none
  | [], .ended => some .endInObject
  | _, _ => some .expectedValue

-- Something else in the place of the name of an alternative.
def tagFault : ObjectEnd → Fault
  | .ended => .endInObject
  | .notKey => .keyNotText
  | _ => .expectedValue

def documentTag (place : Within) : Except Fault (Tag Within) :=
  match place.document with
  | .text value => .ok ⟨value, none, none⟩
  | .object members ending => do
      let depth ← Document.enter place.depth
      match members with
      | [] => .error (tagFault ending)
      | (key, payload) :: rest => .ok ⟨key, some ⟨depth, payload⟩, tagEnd rest ending⟩
  | .broken .other whenRead _ => .error whenRead
  | _ => .error .expectedValue

def isNullDocument (place : Within) : Except Fault Bool :=
  match place.document with
  | .null => .ok true
  | .broken .nullWord whenRead _ => .error whenRead
  | _ => .ok false

def text : Source Within where
  look := documentView
  isNull := isNullDocument
  tag := documentTag
  emptyPayload := false
  skip := fun place => place.document.skip
  whole := fun place => place.document.whole place.depth

end Source

end Entitlement.Record
