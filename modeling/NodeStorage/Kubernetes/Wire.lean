/-
**Requests on the wire.**

A request has a method, a target and perhaps a JSON body; a response has a status code and a text.
The target is a path with an optional query. Only some characters may stand in it: letters, digits
and most ASCII marks, but no space and nothing beyond ASCII. A question mark starts the query, and
what follows a number sign is left out.

`WireCall` is what a client asks of the world: the response to a request, and the time.
-/

import NodeStorage.Dialogue
import NodeStorage.Error
import NodeStorage.Json.Value
import NodeStorage.Time.Instant

namespace NodeStorage.Kubernetes

/-- What a request does. -/
inductive Method where
  | get | post | put | patch | delete
  deriving DecidableEq, Repr

/-- The written name of a method. -/
def Method.name : Method → String
  | .get => "GET"
  | .post => "POST"
  | .put => "PUT"
  | .patch => "PATCH"
  | .delete => "DELETE"

/-- The content type of a request's body; a patch is merged into what is there. -/
def Method.contentType : Method → String
  | .patch => "application/merge-patch+json"
  | .get | .post | .put | .delete => "application/json"

/-! ### Targets -/

/-- Where a request goes. -/
structure Target where
  path : String
  query : String
  deriving DecidableEq, Repr

/-- A character that may stand in a path. -/
def isPathChar (c : Char) : Bool :=
  let code := c.toNat
  (0x21 ≤ code && code ≤ 0x3B && c != '#') || c == '=' ||
    (0x40 ≤ code && code ≤ 0x7E && code != 0x60)

/-- A character that may stand in a query. -/
def isQueryChar (c : Char) : Bool :=
  let code := c.toNat
  code == 0x21 || (0x24 ≤ code && code ≤ 0x3B) || c == '=' || (0x3F ≤ code && code ≤ 0x7E)

namespace Target

/-- The query at the head of characters, up to a number sign. -/
def readQuery? : List Char → Option (List Char)
  | [] => some []
  | c :: rest =>
    if c = '#' then some []
    else if isQueryChar c then (readQuery? rest).map (c :: ·)
    else none

/-- The path and the query in characters. -/
def readParts? : List Char → Option (List Char × List Char)
  | [] => some ([], [])
  | c :: rest =>
    if c = '#' then some ([], [])
    else if c = '?' then (readQuery? rest).map fun query => ([], query)
    else if isPathChar c then (readParts? rest).map fun parts => (c :: parts.1, parts.2)
    else none

/-- The target that a text denotes. -/
def read? (text : String) : Option Target :=
  (readParts? text.toList).map fun parts => ⟨String.ofList parts.1, String.ofList parts.2⟩

end Target

/-! ### Requests and responses -/

/-- A request. -/
structure Request where
  method : Method
  target : Target
  body : Option Json

/-- The content type of a request that has a body. -/
def Request.contentType (request : Request) : Option String :=
  request.body.map fun _ => request.method.contentType

/-- A response. -/
structure Response where
  code : Nat
  body : String
  deriving DecidableEq, Repr

/-- The phrase that goes with a status code. -/
def reasonPhrase (code : Nat) : String :=
  match code with
  | 400 => "Bad Request"
  | 401 => "Unauthorized"
  | 402 => "Payment Required"
  | 403 => "Forbidden"
  | 404 => "Not Found"
  | 405 => "Method Not Allowed"
  | 406 => "Not Acceptable"
  | 407 => "Proxy Authentication Required"
  | 408 => "Request Timeout"
  | 409 => "Conflict"
  | 410 => "Gone"
  | 411 => "Length Required"
  | 412 => "Precondition Failed"
  | 413 => "Payload Too Large"
  | 414 => "URI Too Long"
  | 415 => "Unsupported Media Type"
  | 416 => "Range Not Satisfiable"
  | 417 => "Expectation Failed"
  | 418 => "I\x27m a teapot"
  | 421 => "Misdirected Request"
  | 422 => "Unprocessable Entity"
  | 423 => "Locked"
  | 424 => "Failed Dependency"
  | 426 => "Upgrade Required"
  | 428 => "Precondition Required"
  | 429 => "Too Many Requests"
  | 431 => "Request Header Fields Too Large"
  | 451 => "Unavailable For Legal Reasons"
  | 500 => "Internal Server Error"
  | 501 => "Not Implemented"
  | 502 => "Bad Gateway"
  | 503 => "Service Unavailable"
  | 504 => "Gateway Timeout"
  | 505 => "HTTP Version Not Supported"
  | 506 => "Variant Also Negotiates"
  | 507 => "Insufficient Storage"
  | 508 => "Loop Detected"
  | 510 => "Not Extended"
  | 511 => "Network Authentication Required"
  | _ => "<unknown status code>"

namespace Response

/-- The request was refused or could not be served. -/
def isFailure (response : Response) : Bool :=
  400 ≤ response.code && response.code < 600

/-- The status code with its phrase. -/
def statusLine (response : Response) : String :=
  String.join [toString response.code, " ", reasonPhrase response.code]

end Response

/-- What a client asks of the world. -/
inductive WireCall where
  /-- The response to a request. -/
  | send (request : Request)
  /-- The time. -/
  | clock

/-- The answers to these questions. -/
def WireCall.Answer : WireCall → Type
  | .send _ => Response
  | .clock => Instant

/-- A program that asks these questions. -/
abbrev WireDialogue := Dialogue WireCall WireCall.Answer

end NodeStorage.Kubernetes
