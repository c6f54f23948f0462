/-
**A listing is a forest in pre-order.**

The listing tool prints a forest, and the forest is listed as a flat list: every device before those
nested under it, tree by tree.

* `ListedDevice.preorderAll` — the nodes of a forest in pre-order.
* `ListedDevice.flattenAll_eq_map` — this is the order in which a forest is listed.
* `DeviceListing.forest_of_parse` — the text of a listing is read as a forest.
-/

import NodeStorage.Device.Listing

namespace NodeStorage

namespace ListedDevice

mutual

/-- A device and all devices nested under it, every one before those nested under it. -/
def preorder : ListedDevice → List ListedDevice
  | .node columns children => .node columns children :: preorderAll children

/-- The devices of a forest, tree by tree. -/
def preorderAll : List ListedDevice → List ListedDevice
  | [] => []
  | device :: rest => preorder device ++ preorderAll rest

end

mutual

theorem flatten_eq_map : (device : ListedDevice) →
    flatten device = (preorder device).map toBlockDevice
  | .node columns children => by
    rw [flatten, preorder, List.map_cons, flattenAll_eq_map children]

/-- **A forest is listed in pre-order.** -/
theorem flattenAll_eq_map : (forest : List ListedDevice) →
    flattenAll forest = (preorderAll forest).map toBlockDevice
  | [] => rfl
  | device :: rest => by
    rw [flattenAll, preorderAll, List.map_append, flatten_eq_map device, flattenAll_eq_map rest]

end

end ListedDevice

/-- The text of a listing is read as a forest, and the forest is listed. -/
theorem DeviceListing.forest_of_parse {text : String} {listed : List BlockDevice}
    (parsed : DeviceListing.parse text = .ok listed) :
    ∃ forest, Json.readText DeviceListing.readForest text = .ok forest ∧
      listed = ListedDevice.flattenAll forest := by
  rw [DeviceListing.parse] at parsed
  cases read : Json.readText DeviceListing.readForest text with
  | error cause =>
    rw [read] at parsed
    cases parsed
  | ok forest =>
    rw [read] at parsed
    cases parsed
    exact ⟨forest, rfl, rfl⟩

end NodeStorage
