/-
**A server with prepared responses, in memory.**

The server gives its responses one after another and keeps the requests that it got. A response
without a body of its own sends the body of the request back. When no response is left, a request
with a body is sent back, unless it is a deletion, and every other one is told that nothing is
there.
-/

import NodeStorage.InMemory.Failures
import NodeStorage.Json.Writer
import NodeStorage.Kubernetes.Wire

namespace NodeStorage.InMemory

open Kubernetes

/-- A response that is prepared; without a body it repeats the request's. -/
structure PreparedResponse where
  code : Nat
  body : Option String
  deriving DecidableEq, Repr

/-- A server with prepared responses. -/
structure ApiServer where
  responses : List PreparedResponse
  /-- The requests so far, the last one first. -/
  received : List Request
  clock : Clock

namespace ApiServer

/-- What a request's body is sent as. -/
def echo (request : Request) : String :=
  (request.body.map Json.toText).getD ""

/-- The body of the response that nothing is there. -/
def nothingThere : String :=
  (Json.object
    [("status", .string "Failure"), ("message", .string "none"), ("reason", .string "NotFound"),
     ("code", .integer 404)]).toText

/-- The response when none is prepared. -/
def unprepared (request : Request) : Response :=
  if request.body.isSome && request.method != .delete then ⟨200, echo request⟩
  else ⟨404, nothingThere⟩

/-- Answers a question of a client. -/
def respond : (call : WireCall) → ApiServer → call.Answer × ApiServer
  | .send request, server =>
    let after := { server with received := request :: server.received }
    match server.responses with
    | [] => (unprepared request, after)
    | response :: rest =>
      ((⟨response.code, response.body.getD (echo request)⟩ : Response),
        { after with responses := rest })
  | .clock, server =>
    let (instant, clock) := server.clock.read
    (instant, { server with clock := clock })

end ApiServer

end NodeStorage.InMemory
