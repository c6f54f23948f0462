/-
**Events about discovery.**

An event says what happened on a node, to all of it or to one disk. The same news is told once:
events of the same reason, type and disk count as the same, whatever their message, for as long as
the reporter lives.
-/

namespace NodeStorage.Discovery

/-- Why an event is published. -/
inductive EventReason where
  | cannotCreateResult | cannotUpdateResult | cannotListDevices | updatedDeviceList
  deriving DecidableEq, Repr

namespace EventReason

/-- The written names of the reasons. -/
def variants : List (String × EventReason) :=
  [("ErrorCreatingDiscoveryResultObject", .cannotCreateResult),
   ("ErrorUpdatingDiscoveryResultObject", .cannotUpdateResult),
   ("ErrorListingBlockDevices", .cannotListDevices),
   ("UpdatedDiscoveredDeviceList", .updatedDeviceList)]

/-- The written name of a reason. -/
def name : EventReason → String
  | .cannotCreateResult => "ErrorCreatingDiscoveryResultObject"
  | .cannotUpdateResult => "ErrorUpdatingDiscoveryResultObject"
  | .cannotListDevices => "ErrorListingBlockDevices"
  | .updatedDeviceList => "UpdatedDiscoveredDeviceList"

end EventReason

/-- Whether an event is good news. -/
inductive EventType where
  | normal | warning
  deriving DecidableEq, Repr

namespace EventType

/-- The written names of the types. -/
def variants : List (String × EventType) :=
  [("Normal", .normal), ("Warning", .warning)]

/-- The written name of a type. -/
def name : EventType → String
  | .normal => "Normal"
  | .warning => "Warning"

end EventType

/-- Something that happened on a node. -/
structure DiskEvent where
  reason : EventReason
  eventType : EventType
  message : String
  /-- The disk it is about; empty when it is about the node. -/
  disk : String
  deriving DecidableEq, Repr

namespace DiskEvent

/-- Bad news about the node. -/
def warning (reason : EventReason) (message : String) : DiskEvent :=
  ⟨reason, .warning, message, ""⟩

/-- Good news about the node. -/
def success (reason : EventReason) (message : String) : DiskEvent :=
  ⟨reason, .normal, message, ""⟩

/-- What makes two events the same news. -/
def key (event : DiskEvent) : String :=
  String.join [event.reason.name, ":", event.eventType.name, ":", event.disk]

end DiskEvent

/-- What a reporter remembers. -/
structure Reporter where
  /-- The node, whose name stands before every message; empty for none. -/
  nodeName : String
  /-- The keys of the events so far, the last one first. -/
  reported : List String
  deriving DecidableEq, Repr

namespace Reporter

/-- A reporter that has not reported anything. -/
def new (nodeName : Option String) : Reporter :=
  ⟨nodeName.getD "", []⟩

/-- The event as it is published. -/
def addressed (reporter : Reporter) (event : DiskEvent) : DiskEvent :=
  if reporter.nodeName.isEmpty then event
  else { event with message := String.join [reporter.nodeName, " - ", event.message] }

/-- The event to publish, if it is news, and the reporter afterwards. -/
def consider (reporter : Reporter) (event : DiskEvent) : Option DiskEvent × Reporter :=
  if reporter.reported.contains event.key then (none, reporter)
  else
    (some (reporter.addressed event), { reporter with reported := event.key :: reporter.reported })

/-- How many different events were reported. -/
def count (reporter : Reporter) : Nat :=
  reporter.reported.length

end Reporter

end NodeStorage.Discovery
