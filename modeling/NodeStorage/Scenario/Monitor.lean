/-
**Scenarios: the udev monitor.**

A monitor is described by its filter, the times at which its output arrives, and the behaviour of
the receiver of its signals. The record of a receiver is what it noted, with times.
-/

import NodeStorage.Json.Loose
import NodeStorage.Udev.Watch

namespace NodeStorage.Scenario

open Json Udev

/-- Reads a filter; without wanted patterns it is the standard one. -/
def readFilter (document : Raw) : Reading (Outcome Filter) := do
  let unwanted ← document.listAt "exclusions" Raw.text
  match ← document.optionalAt "matches" (Raw.list Raw.text) with
  | some wanted => pure (Filter.ofTexts wanted unwanted)
  | none => pure (.ok Filter.standard)

/-- Reads what the source of the output does, and when. -/
def readDelivery (document : Raw) : Reading (Nat × Delivery) := do
  let time ← document.valueAt "at_ms" Raw.natural 0
  match ← document.textAt? "error", document.given? "data" with
  | some reason, _ => pure (time, .failure reason)
  | none, some data => do
    let piece ← data.bytes
    pure (time, .bytes piece)
  | none, none => pure (time, .ended)

/-- Reads how the receiver behaves. -/
def readReceiver (document : Raw) : Reading Receiver := do
  let leaves ← document.optionalAt "drop_at_ms" Raw.natural
  match ← document.optionalAt "poll_at_ms" (Raw.list Raw.natural) with
  | some times => pure (.polling times leaves)
  | none => pure (.eager leaves)

/-- What the receiver noted. -/
def noteField : Note → Field
  | .signal => ("signal", .bool true)
  | .closed => ("closed", .bool true)
  | .foundSignal => ("poll", .string "signal")
  | .foundEmpty => ("poll", .string "empty")
  | .foundClosed => ("poll", .string "closed")

/-- What the receiver noted, and when. -/
def noteJson (entry : Nat × Note) : Json :=
  .object [("t", ofNat entry.1), noteField entry.2]

end NodeStorage.Scenario
