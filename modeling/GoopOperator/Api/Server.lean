import GoopOperator.Api.Request
import GoopOperator.Api.Response
import GoopOperator.Json.Printer
import GoopOperator.Pass.Observed

/-!
# Passes over an API server

The surroundings of a pass whose store is an API server. A server is given by what it does with a
request (`Server`); `script` is a server that plays replies which are fixed in advance.
-/

namespace GoopOperator.Api

/-- What comes of a request: after how long, and a response or the reason why there is none. -/
structure Exchange where
  /-- The time until the outcome. -/
  delay : Duration
  /-- The response, or why there is none. -/
  outcome : Except String Response

/-- What a server does with a request at a point in time. -/
abbrev Server (σ : Type) := Request → Instant → σ → Exchange × σ

/-- What an exchange answers to a call. -/
def Exchange.answer (x : Exchange) (c : StoreCall) : Except Failure c.Answer :=
  match x.outcome with
  | .ok response => response.answer c
  | .error message => .error (.broken ("ServiceError: " ++ message))

/-- Makes a call of a server. A job without a key is refused before anything is sent, and a request
whose target cannot be sent fails at once. A refusal of the server is counted. -/
def take (serve : Server σ) (pauseImage : String) (c : StoreCall) (now : Instant)
    (o : Observed σ) : Taken (Observed σ) (Except StoreError c.Answer) × Observed σ :=
  match objectOf c with
  | .error e => (⟨0, fun o => (.error (.unprocessable e), o)⟩, o)
  | .ok (kind, key) =>
    let settle (answer : Except Failure c.Answer) (o : Observed σ) :
        Except StoreError c.Answer × Observed σ :=
      match answer with
      | .ok a => (.ok a, o)
      | .error f =>
        let e := f.storeError kind key
        (.error e, o.count [.storeError e])
    let request := Request.ofCall pauseImage key c
    match sendTarget request.target with
    | .error e =>
      (⟨0, settle (.error (.broken
        ("Failed to build request: failed to build request: " ++ e.message)))⟩, o)
    | .ok target =>
      let (exchange, store) := serve { request with target } now o.store
      (⟨exchange.delay, settle (exchange.answer c)⟩, { o with store })

/-- The surroundings of a pass over a server. -/
def surroundings (serve : Server σ) (pauseImage : String) (timeOfDay : Instant → Timestamp) :
    Surroundings (Observed σ) where
  take := take serve pauseImage
  timeOfDay := timeOfDay
  work := Observed.work

/-! ## A server that plays replies -/

/-- What a reply says. -/
inductive Content where
  /-- The request does not get through. -/
  | lost (message : String)
  /-- A response. -/
  | response (r : Response)
  /-- The body of the request, with a status. -/
  | echo (status : Nat)

/-- A reply. -/
structure Reply where
  /-- The time until it is there. -/
  delay : Duration
  /-- What it says. -/
  content : Content

/-- Replies still to be played, and the requests so far. -/
structure Script where
  /-- The replies still to be played. -/
  replies : List Reply
  /-- The requests so far with their times, the last first. -/
  requests : List (Instant × Request)

/-- The bytes of a text in UTF-8. -/
def bytes (text : String) : List UInt8 := text.toUTF8.toList

/-- The outcome of a request that gets a reply. -/
def Content.outcome (request : Request) : Content → Except String Response
  | .lost message => .error message
  | .response r => .ok r
  | .echo status => .ok ⟨status, (request.body.map fun v => bytes v.compact).getD []⟩

/-- Plays the next reply; after the last one every request is lost. -/
def script : Server Script := fun request now s =>
  let requests := (now, request) :: s.requests
  match s.replies with
  | [] => (⟨0, .error "script exhausted"⟩, { s with requests })
  | reply :: replies => (⟨reply.delay, reply.content.outcome request⟩, { replies, requests })

end GoopOperator.Api
