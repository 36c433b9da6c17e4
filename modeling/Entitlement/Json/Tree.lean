import Entitlement.Json.Number

/-!
JSON values as trees. An object keeps its members in a list; the canonical tree has them sorted by
key, each key once with the last value given for it.
-/

namespace Entitlement.Json

inductive Tree where
  | null
  | bool (value : Bool)
  | number (value : Number)
  | text (value : String)
  | list (items : List Tree)
  | object (members : List (String × Tree))
  deriving Repr, Inhabited

/-- Puts a value under a key into members sorted by key, in place of the value it may have. -/
def putSorted {α : Type} (key : String) (value : α) : List (String × α) → List (String × α)
  | [] => [(key, value)]
  | (first, old) :: rest =>
      if key < first then (key, value) :: (first, old) :: rest
      else if key = first then (key, value) :: rest
      else (first, old) :: putSorted key value rest

/-- Members sorted by key, the last of equal keys kept. -/
def sortMembers {α : Type} (members : List (String × α)) : List (String × α) :=
  members.foldl (fun sorted member => putSorted member.1 member.2 sorted) []

def memberOf {α : Type} (key : String) : List (String × α) → Option α
  | [] => none
  | (first, value) :: rest => if key = first then some value else memberOf key rest

namespace Tree

def int (value : Int) : Tree := .number (.int value)

mutual

def canonical : Tree → Tree
  | .list items => .list (canonicalItems items)
  | .object members => .object (sortMembers (canonicalMembers members))
  | tree => tree

def canonicalItems : List Tree → List Tree
  | [] => []
  | item :: rest => item.canonical :: canonicalItems rest

def canonicalMembers : List (String × Tree) → List (String × Tree)
  | [] => []
  | (key, value) :: rest => (key, value.canonical) :: canonicalMembers rest

end

mutual

def beq : Tree → Tree → Bool
  | .null, .null => true
  | .bool a, .bool b => a == b
  | .number a, .number b => a == b
  | .text a, .text b => a == b
  | .list a, .list b => beqItems a b
  | .object a, .object b => beqMembers a b
  | _, _ => false

def beqItems : List Tree → List Tree → Bool
  | [], [] => true
  | a :: as, b :: bs => a.beq b && beqItems as bs
  | _, _ => false

def beqMembers : List (String × Tree) → List (String × Tree) → Bool
  | [], [] => true
  | (k, a) :: as, (l, b) :: bs => k == l && a.beq b && beqMembers as bs
  | _, _ => false

end

instance : BEq Tree := ⟨beq⟩

def member? (tree : Tree) (key : String) : Option Tree :=
  match tree with
  | .object members => memberOf key members
  | _ => none

/-- The member of an object; one that is not there counts as null. -/
def member (tree : Tree) (key : String) : Tree :=
  (tree.member? key).getD .null

def text? : Tree → Option String
  | .text value => some value
  | _ => none

end Tree

end Entitlement.Json
