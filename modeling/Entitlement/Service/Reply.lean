import Entitlement.Record.Codec
import Entitlement.Service.Failure

/-!
Replies of the service and how they are read. The status decides whether a reply is a success; a
failure is explained by the body, the same way for every status.
-/

namespace Entitlement

open Json Record

structure Reply where
  status : Nat
  body : List UInt8
  /-- Whether all of the body arrived. -/
  isComplete : Bool
  deriving DecidableEq, Repr

/-- What comes back for a request, after redirects have been followed. -/
inductive Delivery where
  | unreachable
  | closed
  | answered (reply : Reply)
  deriving DecidableEq, Repr

structure Explanation where
  code : Option String
  message : Option String
  deriving DecidableEq, Repr

namespace Explanation

def codec : Codec Explanation :=
  .record "ApiErrorResponse"
    (.field "code" (.option .text) .optional <|
      .field "message" (.option .text) .optional .nil)
    (fun (code, message, ()) => ⟨code, message⟩)
    (fun explanation => (explanation.code, explanation.message, ()))

def text? : Explanation → Option String
  | ⟨some code, some message⟩ => some (code ++ ": " ++ message)
  | ⟨some code, none⟩ => some code
  | ⟨none, message⟩ => message

/-- What a text explains. A text that is no explanation is taken as it is. -/
def ofText (text : String) : String :=
  match codec.ofText text with
  | .ok explanation => explanation.text?.getD text
  | .error _ => text

end Explanation

def Failure.ofStatus (status : Nat) (text : String) : Failure :=
  if status = 401 then .unauthorized text
  else if status = 403 then .forbidden text
  else if status = 404 then .notFound text
  else if status = 400 then .validation text
  else .status status text

namespace Reply

def isSuccess (reply : Reply) : Bool := 200 ≤ reply.status && reply.status ≤ 299

def content (reply : Reply) : Except Failure (List UInt8) :=
  if reply.isComplete then .ok reply.body else .error (.transport .cutShort)

def explained (reply : Reply) : Except Failure Failure :=
  reply.content.map fun body => .ofStatus reply.status (Explanation.ofText (Text.repair body))

def accept (reply : Reply) : Except Failure Unit :=
  if reply.isSuccess then .ok ()
  else match reply.explained with
    | .ok failure => .error failure
    | .error failure => .error failure

def success (reply : Reply) : Except Failure (List UInt8) := do
  reply.accept
  reply.content

def readable {α : Type} : Except Fault α → Except Failure α
  | .ok value => .ok value
  | .error fault => .error (.unreadable fault)

def record {α : Type} (codec : Codec α) (reply : Reply) : Except Failure α := do
  readable (codec.ofBytes (← reply.success))

def tree (reply : Reply) : Except Failure Tree := do
  readable (Tree.ofPieces (Text.pieces (← reply.success)))

end Reply

end Entitlement
