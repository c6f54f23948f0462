/-
**Result objects kept in memory.**

Objects are kept by namespace and name, sorted by both. Creating and updating put the whole object
in its place.
-/

import NodeStorage.Discovery.Resource

namespace NodeStorage.InMemory

open Discovery

/-- Where an object is kept: its namespace and its name. -/
abbrev ObjectKey := String × String

/-- The first key stands before the second one. -/
def keyBefore (left right : ObjectKey) : Bool :=
  decide (left.1 < right.1) || (left.1 == right.1 && decide (left.2 < right.2))

/-- Result objects by namespace and name. -/
structure ResultStore where
  objects : List (ObjectKey × ResultObject)
  deriving DecidableEq, Repr

namespace ResultStore

/-- A store without objects. -/
def empty : ResultStore := ⟨[]⟩

/-- The key of an object. -/
def keyOf (object : ResultObject) : ObjectKey :=
  (object.metadata.namespaceName.getD "", object.metadata.name.getD "")

/-- The object of a key. -/
def get? (store : ResultStore) (key : ObjectKey) : Option ResultObject :=
  (store.objects.find? fun entry => entry.1 == key).map Prod.snd

/-- Puts an object into sorted ones. -/
def putSorted (key : ObjectKey) (object : ResultObject) :
    List (ObjectKey × ResultObject) → List (ObjectKey × ResultObject)
  | [] => [(key, object)]
  | entry :: rest =>
    if entry.1 = key then (key, object) :: rest
    else if keyBefore key entry.1 then (key, object) :: entry :: rest
    else entry :: putSorted key object rest

/-- The store with an object in its place. -/
def put (store : ResultStore) (object : ResultObject) : ResultStore :=
  ⟨putSorted (keyOf object) object store.objects⟩

/-- All objects, in order. -/
def toList (store : ResultStore) : List ResultObject :=
  store.objects.map Prod.snd

end ResultStore

end NodeStorage.InMemory
