import GoopOperator.DaemonSet.Observed
import GoopOperator.Json.Reader
import GoopOperator.Store.Basic
import GoopOperator.Text.Quoted
import GoopOperator.Text.Utf8

/-!
# Responses of the API server

What a response means for the call that it answers: an object, or a refusal that is mapped onto the
errors of a store. A refusal is explained by an object in its body; where there is none, the HTTP
status and the body's text take its place.
-/

namespace GoopOperator.Api

/-- A response. -/
structure Response where
  /-- The HTTP status. -/
  status : Nat
  /-- The body. -/
  body : List UInt8
  deriving DecidableEq

/-- Why a request has no object as its result. -/
inductive Failure where
  /-- The API server refused it. -/
  | refused (code : Nat) (message reason : String)
  /-- The request or its response got lost or cannot be read. -/
  | broken (message : String)
  deriving DecidableEq

/-- The error of a store for a failed request about an object. -/
def Failure.storeError (kind : ObjectKind) (key : ObjectKey) : Failure → StoreError
  | .broken message => .transient message
  | .refused code message reason =>
    if code = 404 then .notFound kind key
    else if code = 409 then
      if reason = "AlreadyExists" then .alreadyExists kind key else .conflict key message
    else if code = 429 ∨ (500 ≤ code ∧ code ≤ 599) then
      .transient (message ++ " (" ++ toString code ++ ")")
    else .api code message

/-- Reads the object that explains a refusal. -/
def Failure.ofJson? (v : Json) : Option Failure := do
  match ← Json.slots? ["status", "message", "reason", "code"] v with
  | [status, message, reason, code] =>
    let _ ← status.required? Json.text?
    let message ← message.defaulted? "" Json.text?
    let reason ← reason.defaulted? "" Json.text?
    let code ← code.required? (Json.intWithin? 0 65536)
    return .refused code.toNat message reason
  | _ => none

/-- The text of a body. -/
def Response.text (r : Response) : Except Failure String :=
  (Text.Utf8.decode r.body).mapError fun m => .broken ("UTF-8 Error: " ++ m.message)

/-- Whether a response is a refusal. -/
def Response.isRefusal (r : Response) : Bool := 400 ≤ r.status ∧ r.status ≤ 599

/-- The object in a response, read by `read?`. -/
def Response.object (r : Response) (read? : Json → Option α) : Except Failure α := do
  let text ← r.text
  if r.isRefusal then
    .error ((Json.parse? text >>= Failure.ofJson?).getD
      (.refused r.status (Text.quoted text) "Failed to parse error data"))
  else
    match Json.parse? text >>= read? with
    | some x => .ok x
    | none => .error (.broken "Error deserializing response")

/-- What a response answers to a call. -/
def Response.answer (r : Response) : (c : StoreCall) → Except Failure c.Answer
  | .get _ | .update _ | .updateStatus _ => r.object Goop.ofJson?
  | .getWorkload _ => (r.object ObservedDaemonSet.ofJson?).map ObservedDaemonSet.workload
  | .createWorkload _ => (r.object ObservedDaemonSet.ofJson?).map fun _ => ()

end GoopOperator.Api
