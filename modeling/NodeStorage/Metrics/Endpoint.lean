/-
**The metrics endpoint.**

Gauges are served over HTTP: one path gives their text, two paths say that the program is alive and
ready, and every other path is unknown. The method of a request and what follows a question mark do
not matter. The address to listen on is an IP address and a port.
-/

import NodeStorage.Error
import NodeStorage.Metrics.Gauge
import NodeStorage.Text.Split

namespace NodeStorage.Metrics

/-- The gauges that are registered, by name. -/
structure Registry where
  gauges : List Gauge
  deriving DecidableEq, Repr

namespace Registry

/-- A registry without gauges. -/
def empty : Registry := ⟨[]⟩

/-- Registers a gauge, whose name must be new. -/
def register (registry : Registry) (gauge : Gauge) : Outcome Registry :=
  if registry.gauges.any fun known => known.name == gauge.name then
    .error (.internal
      "failed to register metric: Duplicate metrics collector registration attempted")
  else .ok ⟨registry.gauges ++ [gauge]⟩

/-- All gauges as text. -/
def exposition (registry : Registry) : String :=
  String.join (registry.gauges.map Gauge.exposition)

end Registry

/-- What the endpoint answers. -/
structure Response where
  status : Nat
  contentType : Option String
  body : String
  deriving DecidableEq, Repr

/-- The media type of gauges as text. -/
def textFormat : String := "text/plain; version=0.0.4"

/-- The path of a request's target, without what follows a question mark. -/
def pathOf (target : String) : String :=
  String.ofList (target.toList.takeWhile fun c => c != '?')

/-- The answer to a request for a target. -/
def respond (registry : Registry) (target : String) : Response :=
  let path := pathOf target
  if path = "/metrics" then ⟨200, some textFormat, registry.exposition⟩
  else if path = "/healthz" ∨ path = "/readyz" then ⟨200, none, "ok"⟩
  else ⟨404, none, "not found"⟩

/-! ### Addresses -/

/-- A decimal number of at most `limit`, in at most `most` digits; `zeros` allows zeros in front. -/
def isNumberUpTo (limit most : Nat) (zeros : Bool) (chars : List Char) : Bool :=
  match Text.digits? chars with
  | none => false
  | some value =>
    value ≤ limit && chars.length ≤ most && (zeros || chars.length == 1 || chars.head? != some '0')

/-- Four numbers below 256 parted by points. -/
def isFourPart (chars : List Char) : Bool :=
  let parts := Text.splitAt '.' chars
  parts.length == 4 && parts.all (isNumberUpTo 255 3 false)

/-- A group of up to four hexadecimal digits. -/
def isGroup (chars : List Char) : Bool :=
  !chars.isEmpty && chars.length ≤ 4 && chars.all fun c => (Text.hexDigit? c).isSome

/-- How many of eight groups the parts between colons stand for; `none` when one of them is no
group. The last part may be a four-part address, which stands for two. -/
def groupCount (last : Bool) (chars : List Char) : Option Nat :=
  if chars.isEmpty then some 0
  else
    let parts := Text.splitAt ':' chars
    let final := parts.getLast?.getD []
    if parts.all isGroup then some parts.length
    else if last && parts.dropLast.all isGroup && isFourPart final then some (parts.length + 1)
    else none

/-- The ways to cut some characters at a pair of colons. -/
def cutAtPair (before : List Char) : List Char → List (List Char × List Char)
  | ':' :: ':' :: rest =>
    (before.reverse, rest) :: cutAtPair (':' :: before) (':' :: rest)
  | c :: rest => cutAtPair (c :: before) rest
  | [] => []

/-- Eight groups of hexadecimal digits, a run of which may be left out once. -/
def isEightGroup (chars : List Char) : Bool :=
  groupCount true chars == some 8 ||
    (cutAtPair [] chars).any fun (front, back) =>
      match groupCount false front, groupCount true back with
      | some first, some second => first + second ≤ 7
      | _, _ => false

/-- A port: a number below 65536. -/
def isPort (chars : List Char) : Bool :=
  isNumberUpTo 65535 1000 true chars

/-- The part of an address with a scope, such as `fe80::1%2`, in front of the scope. -/
def withoutScope (chars : List Char) : Option (List Char) :=
  match chars.dropWhile (· != '%') with
  | [] => some chars
  | _ :: scope =>
    if isNumberUpTo 4294967295 1000 true scope then some (chars.takeWhile (· != '%')) else none

/-- An IP address with a port. -/
def isAddress (address : String) : Bool :=
  match address.toList with
  | '[' :: rest =>
    match rest.dropWhile (· != ']') with
    | ']' :: ':' :: port =>
      ((withoutScope (rest.takeWhile (· != ']'))).any isEightGroup) && isPort port
    | _ => false
  | chars =>
    match Text.splitAt ':' chars with
    | [host, port] => isFourPart host && isPort port
    | _ => false

/-- Checks the address to listen on. -/
def checkAddress (address : String) : Outcome Unit :=
  if isAddress address then .ok ()
  else
    .error (.configuration "Invalid metrics server address: invalid socket address syntax")

end NodeStorage.Metrics
