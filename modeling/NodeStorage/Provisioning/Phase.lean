/-
**The phases of making a filesystem.**

A run goes through local disks, filesystem and storage class in this order and then is complete;
from every phase before that it may fail. Complete and failed are final. A phase counts how many of
the three steps have been begun.
-/

namespace NodeStorage.Provisioning

/-- Where a run stands. -/
inductive Phase where
  | starting
  | creatingDisks
  | creatingFilesystem
  | creatingStorageClass
  | completed
  | failed
  deriving DecidableEq, Repr

namespace Phase

/-- All phases, in order. -/
def all : List Phase :=
  [.starting, .creatingDisks, .creatingFilesystem, .creatingStorageClass, .completed, .failed]

/-- The written name of a phase. -/
def name : Phase → String
  | .starting => "starting"
  | .creatingDisks => "creating-localdisks"
  | .creatingFilesystem => "creating-filesystem"
  | .creatingStorageClass => "creating-storageclass"
  | .completed => "completed"
  | .failed => "failed"

/-- The written names of the phases. -/
def variants : List (String × Phase) :=
  all.map fun phase => (phase.name, phase)

/-- The steps that have been begun. -/
def step : Phase → Nat
  | .starting => 0
  | .creatingDisks => 1
  | .creatingFilesystem => 2
  | .creatingStorageClass | .completed | .failed => 3

/-- How many steps there are. -/
def steps : Nat := 3

/-- The steps that have been begun, of all steps. -/
def progress (phase : Phase) : String :=
  String.join [toString phase.step, "/", toString steps]

/-- No phase follows. -/
def isFinal : Phase → Bool
  | .completed | .failed => true
  | _ => false

/-- The second phase may follow the first. -/
def mayMoveTo : Phase → Phase → Bool
  | .starting, .creatingDisks => true
  | .creatingDisks, .creatingFilesystem => true
  | .creatingFilesystem, .creatingStorageClass => true
  | .creatingStorageClass, .completed => true
  | phase, .failed => !phase.isFinal
  | _, _ => false

/-- The phases that may follow. -/
def next (phase : Phase) : List Phase :=
  all.filter phase.mayMoveTo

end Phase

end NodeStorage.Provisioning
