/-
**The monitor's output, line by line.**

The output arrives in pieces of bytes that know nothing of lines. A line is complete when its line
feed has arrived; a carriage return in front of the line feed is not part of it. What has arrived of
a line stays until the rest does. At the end of the output the bytes without a line feed are a line,
if there are any. A line that is not UTF-8 is an error of reading.
-/

import NodeStorage.Text.Utf8

namespace NodeStorage.Udev

/-- What the source of the output does. -/
inductive Delivery where
  | bytes (piece : List UInt8)
  | failure (reason : String)
  | ended
  deriving DecidableEq, Repr

/-- What a reader of lines gets. -/
inductive Arrival where
  | line (text : String)
  | failure (reason : String)
  | ended
  deriving DecidableEq, Repr

/-- The bytes before the first line feed and those after it; `none` without a line feed. -/
def cutLine : List UInt8 → Option (List UInt8 × List UInt8)
  | [] => none
  | byte :: rest =>
    if byte = 10 then some ([], rest)
    else (cutLine rest).map fun (line, left) => (byte :: line, left)

theorem cutLine_length {bytes line rest : List UInt8} (h : cutLine bytes = some (line, rest)) :
    rest.length < bytes.length := by
  induction bytes generalizing line with
  | nil => simp [cutLine] at h
  | cons byte tail ih =>
    simp only [cutLine] at h
    split at h
    · cases h; simp
    · cases found : cutLine tail with
      | none => simp [found] at h
      | some pair =>
        obtain ⟨inner, left⟩ := pair
        simp only [found, Option.map_some, Option.some.injEq, Prod.mk.injEq] at h
        obtain ⟨_, rfl⟩ := h
        have := ih found
        simp
        omega

/-- A line of bytes as a text, or the error of reading it. The line feed belongs to the bytes that
must be UTF-8 when there is one. -/
def arrivalOf (line : List UInt8) (complete : Bool) : Arrival :=
  match Text.utf8Fault? (if complete then line ++ [10] else line) with
  | some fault => .failure fault.message
  | none =>
    let kept := if complete && line.getLast? == some 13 then line.dropLast else line
    .line (Text.decodeUtf8Lossy kept)

/-- The complete lines in some bytes, and the bytes after the last line feed. -/
def takeLines (bytes : List UInt8) : List Arrival × List UInt8 :=
  match found : cutLine bytes with
  | none => ([], bytes)
  | some (line, rest) =>
    have := cutLine_length found
    let (arrivals, left) := takeLines rest
    (arrivalOf line true :: arrivals, left)
termination_by bytes.length

/-- What a delivery lets the reader have, given the bytes that wait for the rest of their line; and
the bytes that wait afterwards. -/
def receive (waiting : List UInt8) : Delivery → List Arrival × List UInt8
  | .bytes piece => takeLines (waiting ++ piece)
  | .failure reason => ([.failure reason], waiting)
  | .ended =>
    if waiting.isEmpty then ([.ended], []) else ([arrivalOf waiting false, .ended], [])

/-- All that the reader gets, each thing at the time of the delivery that completes it. -/
def arrivals (waiting : List UInt8) : List (Nat × Delivery) → List (Nat × Arrival)
  | [] => []
  | (time, delivery) :: rest =>
    let (got, left) := receive waiting delivery
    got.map (fun arrival => (time, arrival)) ++ arrivals left rest

end NodeStorage.Udev
