/-
**Watching the monitor for changes of block devices.**

A watch reads lines and notes that one has counted; at every tick of its clock it puts a signal into
a channel if a line has counted since the last one. The channel holds one signal, so a signal that
is still there stands for the new one too. Whatever ends the watch, a note that is still open is
turned into a signal first; only a receiver that has gone away while a tick wants to signal ends it
with an error of its own.

`Watch.step` is one event seen by the watch and its channel, in whatever order they come.
-/

import NodeStorage.Udev.Feed
import NodeStorage.Udev.Filter

namespace NodeStorage.Udev

/-- A watch with its channel. -/
structure Watch where
  /-- A line has counted since the last tick. -/
  pending : Bool
  /-- A signal is in the channel. -/
  waiting : Bool
  /-- The receiver is there. -/
  received : Bool
  /-- How the watch ended, when it has. -/
  result : Option (Outcome Unit)

/-- What happens around a watch. -/
inductive Happening where
  | arrival (arrival : Arrival)
  | tick
  /-- The receiver takes the signal out of the channel. -/
  | taken
  /-- The receiver goes away. -/
  | dropped
  deriving DecidableEq, Repr

namespace Watch

/-- A watch that has seen nothing yet. -/
def start : Watch :=
  ⟨false, false, true, none⟩

/-- Puts a signal into the channel, where there is room for one and somebody to take it. -/
def signal (watch : Watch) : Watch :=
  { watch with waiting := watch.waiting || watch.received }

/-- Ends the watch; an open note becomes a signal. -/
def finish (watch : Watch) (result : Outcome Unit) : Watch :=
  let flushed := if watch.pending then watch.signal else watch
  { flushed with result := some result }

/-- The error when nobody is there to take a signal. -/
def receiverGone : Error :=
  .udevMonitor "signal receiver dropped"

/-- One event. A watch that has ended leaves only its channel to the receiver. -/
def step (filter : Filter) (watch : Watch) : Happening → Watch
  | .taken => { watch with waiting := false }
  | .dropped => { watch with received := false, waiting := false }
  | .arrival arrival =>
    if watch.result.isSome then watch
    else
      match arrival with
      | .line text => { watch with pending := watch.pending || filter.accepts text }
      | .failure reason => watch.finish (.error (.udevMonitor reason))
      | .ended => watch.finish (.ok ())
  | .tick =>
    if watch.result.isSome || !watch.pending then watch
    else if watch.received then { watch.signal with pending := false }
    else { watch with pending := false, result := some (.error receiverGone) }

end Watch

/-! ### A monitor and its receiver over time -/

/-- A monitor: which lines count, and how many milliseconds lie between two ticks. -/
structure Monitor where
  filter : Filter
  period : Nat

namespace Monitor

/-- The milliseconds between two ticks, unless others are given. -/
def defaultPeriod : Nat := 5000

/-- The monitor of the default patterns. -/
def standard : Monitor :=
  ⟨Filter.standard, defaultPeriod⟩

/-- The program that is watched. -/
def program : String := "udevadm"

/-- The arguments of the program. -/
def arguments : List String :=
  ["monitor", "-k", "-s", "block"]

end Monitor

/-- How the receiver of the signals behaves. -/
inductive Receiver where
  /-- It takes every signal at once, and may go away at some time. -/
  | eager (leaves : Option Nat)
  /-- It looks at given times and goes away after the last one, or at a later time. -/
  | polling (times : List Nat) (leaves : Option Nat)
  deriving DecidableEq, Repr

/-- What the receiver notes. -/
inductive Note where
  | signal
  | closed
  | foundSignal
  | foundEmpty
  | foundClosed
  deriving DecidableEq, Repr

/-- What happens at a moment. -/
inductive Moment where
  | happening (happening : Happening)
  | poll
  deriving DecidableEq, Repr

/-- A watch in the course of time, with what its receiver has noted, the last note first. -/
structure Course where
  watch : Watch
  notes : List (Nat × Note)
  endedAt : Option Nat

namespace Course

/-- The course with one more note. -/
def note (course : Course) (time : Nat) (what : Note) : Course :=
  { course with notes := (time, what) :: course.notes }

/-- The receiver takes the signal out of the channel. -/
def take (filter : Filter) (course : Course) : Course :=
  { course with watch := course.watch.step filter .taken }

/-- An eager receiver takes a signal at once, and notes when the watch has ended. -/
def listen (filter : Filter) (time : Nat) (course : Course) : Course :=
  let course :=
    if course.watch.waiting then (course.take filter).note time .signal else course
  if course.watch.result.isSome && course.endedAt.isNone && course.watch.received then
    course.note time .closed
  else course

/-- A receiver looks once. -/
def poll (filter : Filter) (time : Nat) (course : Course) : Course :=
  if course.watch.waiting then (course.take filter).note time .foundSignal
  else if course.watch.result.isSome then course.note time .foundClosed
  else course.note time .foundEmpty

/-- Something happens. -/
def advance (filter : Filter) (isEager : Bool) (time : Nat) (course : Course) :
    Moment → Course
  | .poll => course.poll filter time
  | .happening happening =>
    let moved := { course with watch := course.watch.step filter happening }
    let heard := if isEager then moved.listen filter time else moved
    if heard.endedAt.isNone && heard.watch.result.isSome then
      { heard with endedAt := some time }
    else heard

end Course

/-- The times of the ticks up to `last`. -/
def tickTimes (period last : Nat) : List Nat :=
  if period = 0 then [] else (List.range (last / period)).map fun count => (count + 1) * period

/-- What the receiver does, by time. -/
def receiverMoments : Receiver → List (Nat × Moment)
  | .eager none => []
  | .eager (some leaves) => [(leaves, .happening .dropped)]
  | .polling times leaves =>
    let last := times.getLast?.getD 0
    (times.map fun time => (time, .poll)) ++
      [(max last (leaves.getD 0), .happening .dropped)]

/-- The deliveries, ended at the last one at the latest. -/
def ended (deliveries : List (Nat × Delivery)) : List (Nat × Delivery) :=
  deliveries ++ [((deliveries.getLast?.map Prod.fst).getD 0, .ended)]

/-- All that happens to a monitor, by time. -/
def moments (monitor : Monitor) (deliveries : List (Nat × Delivery)) (receiver : Receiver) :
    List (Nat × Moment) :=
  let complete := ended deliveries
  let arrived := (arrivals [] complete).map fun (time, arrival) =>
    (time, Moment.happening (.arrival arrival))
  let last := (complete.getLast?.map Prod.fst).getD 0
  let ticks := (tickTimes monitor.period last).map fun time => (time, Moment.happening .tick)
  (arrived ++ ticks ++ receiverMoments receiver).mergeSort fun left right =>
    decide (left.1 ≤ right.1)

/-- The receiver takes signals as they come. -/
def Receiver.isEager : Receiver → Bool
  | .eager _ => true
  | .polling _ _ => false

/-- Runs a monitor on deliveries to a receiver. -/
def Monitor.watch (monitor : Monitor) (deliveries : List (Nat × Delivery)) (receiver : Receiver) :
    Course :=
  (moments monitor deliveries receiver).foldl
    (fun course (time, moment) => course.advance monitor.filter receiver.isEager time moment)
    ⟨Watch.start, [], none⟩

/-- How many signals come from a program that prints some bytes at once. -/
def Monitor.signalsOf (monitor : Monitor) (output : List UInt8) : Nat :=
  ((monitor.watch [(0, .bytes output)] (.eager none)).notes.filter fun note =>
    note.2 == .signal).length

end NodeStorage.Udev
