/-
**Duplicates go piece by piece.**

Which records are left of a list is told by two things: the keys in the order in which they first
occur, and the last record for each key. Neither changes when a part of the list is cleared of its
duplicates beforehand. Nor does it matter how the place of a key is found: an index that is kept
beside the records finds the same place as a search through them.

* `uniqueDevices_congr` — keys and last records tell what is left.
* `Indexed`, `Indexed.Consistent` — records with an index of their keys, and what the index must
  say; `Indexed.consistent_ofList` — it does, whatever is put.
* `keepsOneInPlace` — **what is left of a list, and of two lists that are cleared before they are
  put together**.
-/

import Mathlib.Data.List.Basic
import NodeStorage.Proofs.Device.Duplicates

namespace NodeStorage

open DiscoveredDevice

/-! ### Clearing a part first -/

theorem eraseDups_eraseDups {α : Type} [BEq α] [LawfulBEq α] (elements : List α) :
    elements.eraseDups.eraseDups = elements.eraseDups := by
  induction elements using List.reverseRecOn with
  | nil => rfl
  | append_singleton elements last ih =>
    rw [eraseDups_concat]
    split
    · exact ih
    · rename_i fresh
      rw [eraseDups_concat, if_neg (fun known => fresh (List.mem_eraseDups.mp known)), ih]

/-- Elements keep their first places when repeated ones go from either part beforehand. -/
theorem eraseDups_append_eraseDups {α : Type} [BEq α] [LawfulBEq α] (first second : List α) :
    (first.eraseDups ++ second.eraseDups).eraseDups = (first ++ second).eraseDups := by
  induction second using List.reverseRecOn with
  | nil => rw [List.eraseDups_nil, List.append_nil, List.append_nil, eraseDups_eraseDups]
  | append_singleton second last ih =>
    rw [← List.append_assoc, eraseDups_concat, eraseDups_concat, ← ih]
    by_cases repeated : last ∈ second
    · rw [if_pos repeated, if_pos (List.mem_append_right _ repeated)]
    · have known : last ∈ first.eraseDups ++ second.eraseDups ↔ last ∈ first ++ second := by
        rw [List.mem_append, List.mem_append, List.mem_eraseDups, List.mem_eraseDups]
      rw [if_neg repeated, ← List.append_assoc, eraseDups_concat]
      simp only [known]

theorem lastWithKey_append (key : String × String) (first second : List DiscoveredDevice) :
    lastWithKey key (first ++ second) = (lastWithKey key second).or (lastWithKey key first) := by
  rw [lastWithKey, List.filter_append, List.getLast?_append]
  rfl

/-- **The last record with a key stays the last one.** -/
theorem lastWithKey_uniqueDevices (key : String × String) (devices : List DiscoveredDevice) :
    lastWithKey key (uniqueDevices devices) = lastWithKey key devices := by
  have left {record : DiscoveredDevice}
      (last : lastWithKey key (uniqueDevices devices) = some record) :
      lastWithKey key devices = some record := by
    obtain ⟨member, rfl⟩ := mem_of_lastWithKey last
    exact lastWithKey_of_mem member
  refine Option.ext fun record => ⟨left, fun last => ?_⟩
  obtain ⟨-, rfl⟩ := mem_of_lastWithKey last
  have member := mem_uniqueDevices_iff.mpr last
  -- Some record with the key is the last of those that are left, and it is this one.
  cases found : lastWithKey record.key (uniqueDevices devices) with
  | none =>
    rw [lastWithKey, List.getLast?_eq_none_iff, List.filter_eq_nil_iff] at found
    exact absurd (beq_self_eq_true _) (found record member)
  | some other => rw [← last, left found]

/-- **Keys and last records tell what is left.** -/
theorem uniqueDevices_congr {devices others : List DiscoveredDevice}
    (keys : (devices.map key).eraseDups = (others.map key).eraseDups)
    (last : ∀ key, lastWithKey key devices = lastWithKey key others) :
    uniqueDevices devices = uniqueDevices others := by
  refine List.map_injective_iff.mpr (fun _ _ => Option.some.inj) ?_
  rw [map_some_uniqueDevices, map_some_uniqueDevices, keys, funext last]

theorem uniqueDevices_append (first second : List DiscoveredDevice) :
    uniqueDevices (first ++ second) =
      uniqueDevices (uniqueDevices first ++ uniqueDevices second) := by
  refine uniqueDevices_congr ?_ fun key => ?_
  · rw [List.map_append, List.map_append, keys_uniqueDevices, keys_uniqueDevices,
      eraseDups_append_eraseDups]
  · rw [lastWithKey_append, lastWithKey_append, lastWithKey_uniqueDevices,
      lastWithKey_uniqueDevices]

theorem uniqueDevices_uniqueDevices (devices : List DiscoveredDevice) :
    uniqueDevices (uniqueDevices devices) = uniqueDevices devices :=
  uniqueDevices_congr (by rw [keys_uniqueDevices, eraseDups_eraseDups])
    fun key => lastWithKey_uniqueDevices key devices

/-! ### An index of the keys -/

/-- Records with an index that gives the place of a key. -/
structure Indexed where
  records : List DiscoveredDevice
  place? : String × String → Option Nat

namespace Indexed

/-- No records. -/
def empty : Indexed := ⟨[], fun _ => none⟩

/-- One more record: at the place of its key, or at a new place at the end. -/
def put (kept : Indexed) (device : DiscoveredDevice) : Indexed :=
  match kept.place? device.key with
  | some place => { kept with records := kept.records.set place device }
  | none =>
    { records := kept.records ++ [device]
      place? := fun key => if key = device.key then some kept.records.length else kept.place? key }

/-- The records of a list, put one after the other. -/
def ofList (devices : List DiscoveredDevice) : Indexed :=
  devices.foldl put empty

/-- **The index gives the places of the keys**, and no others. -/
def Consistent (kept : Indexed) : Prop :=
  ∀ key place, kept.place? key = some place ↔
    (kept.records.map DiscoveredDevice.key)[place]? = some key

theorem consistent_empty : empty.Consistent := by
  intro key place
  simp [empty]

/-- A key that is found is found at one place only. -/
theorem Consistent.sole {kept : Indexed} (consistent : kept.Consistent) {key : String × String}
    {place other : Nat} (found : kept.place? key = some place)
    (there : (kept.records.map DiscoveredDevice.key)[other]? = some key) : other = place :=
  Option.some.inj (((consistent key other).mpr there).symm.trans found)

/-- A key that is not found belongs to no record. -/
theorem Consistent.fresh {kept : Indexed} (consistent : kept.Consistent) {key : String × String}
    (missing : kept.place? key = none) : key ∉ kept.records.map DiscoveredDevice.key := by
  intro member
  obtain ⟨place, there⟩ := List.mem_iff_getElem?.mp member
  exact Option.some_ne_none _ (((consistent key place).mpr there).symm.trans missing)

/-- **One more record leaves the index right.** -/
theorem Consistent.put {kept : Indexed} (consistent : kept.Consistent)
    (device : DiscoveredDevice) : (kept.put device).Consistent := by
  intro key place
  rw [Indexed.put]
  split
  · rename_i old found
    have here := (consistent device.key old).mp found
    -- The record at the place has the key already, so the keys do not change.
    have same : (kept.records.set old device).map DiscoveredDevice.key =
        kept.records.map DiscoveredDevice.key := by
      obtain ⟨inside, is⟩ := List.getElem?_eq_some_iff.mp here
      rw [List.map_set, ← is, List.set_getElem_self]
    show _ ↔ ((kept.records.set old device).map DiscoveredDevice.key)[place]? = _
    rw [same]
    exact consistent key place
  · rename_i missing
    have fresh := consistent.fresh missing
    have before := consistent key place
    show (if key = device.key then some kept.records.length else kept.place? key) = some place ↔
      ((kept.records ++ [device]).map DiscoveredDevice.key)[place]? = some key
    rw [List.map_append, List.map_singleton, List.getElem?_append, List.length_map,
      List.getElem?_singleton]
    by_cases new : key = device.key
    · subst new
      rw [if_pos rfl, Option.some.injEq]
      by_cases early : place < kept.records.length
      · rw [if_pos early]
        exact iff_of_false (by omega) fun there => fresh (List.mem_of_getElem? there)
      · rw [if_neg early]
        split
        · exact iff_of_true (by omega) rfl
        · exact iff_of_false (by omega) (Option.some_ne_none _).symm
    · rw [if_neg new, before]
      by_cases early : place < kept.records.length
      · rw [if_pos early]
      · rw [if_neg early, List.getElem?_eq_none (by rw [List.length_map]; omega)]
        refine iff_of_false (Option.some_ne_none _).symm fun there => ?_
        split at there
        · exact new (Option.some.inj there).symm
        · cases there

/-- The place that the index gives is the one that a search finds. -/
theorem putDevice_eq_set {device : DiscoveredDevice} {records : List DiscoveredDevice}
    {place : Nat} (there : (records.map DiscoveredDevice.key)[place]? = some device.key)
    (first : ∀ other, (records.map DiscoveredDevice.key)[other]? = some device.key →
      other = place) : putDevice device records = records.set place device := by
  induction records generalizing place with
  | nil => cases there
  | cons record rest ih =>
    by_cases same : record.key = device.key
    · cases first 0 (congrArg some same)
      rw [putDevice, if_pos same]
      rfl
    · cases place with
      | zero => exact absurd (Option.some.inj there) same
      | succ place =>
        rw [putDevice, if_neg same, List.set_cons_succ,
          ih there fun other found => Nat.succ.inj (first (other + 1) found)]

theorem putDevice_eq_append {device : DiscoveredDevice} {records : List DiscoveredDevice}
    (fresh : device.key ∉ records.map DiscoveredDevice.key) :
    putDevice device records = records ++ [device] := by
  induction records with
  | nil => rfl
  | cons record rest ih =>
    obtain ⟨differs, later⟩ := not_or.mp fun either => fresh (List.mem_cons.mpr either)
    rw [putDevice, if_neg (Ne.symm differs), ih later]
    rfl

/-- **With a right index, a record is put where a search would put it.** -/
theorem Consistent.records_put {kept : Indexed} (consistent : kept.Consistent)
    (device : DiscoveredDevice) : (kept.put device).records = putDevice device kept.records := by
  rw [Indexed.put]
  split
  · rename_i place found
    exact (putDevice_eq_set ((consistent _ _).mp found) fun _ => consistent.sole found).symm
  · rename_i missing
    exact (putDevice_eq_append (consistent.fresh missing)).symm

theorem ofList_concat (devices : List DiscoveredDevice) (device : DiscoveredDevice) :
    ofList (devices ++ [device]) = (ofList devices).put device :=
  List.foldl_concat put empty device devices

/-- **The index stays right, whatever is put.** -/
theorem consistent_ofList (devices : List DiscoveredDevice) : (ofList devices).Consistent := by
  induction devices using List.reverseRecOn with
  | nil => exact consistent_empty
  | append_singleton devices device ih =>
    rw [ofList_concat]
    exact ih.put device

theorem records_ofList (devices : List DiscoveredDevice) :
    (ofList devices).records = uniqueDevices devices := by
  induction devices using List.reverseRecOn with
  | nil => rfl
  | append_singleton devices device ih =>
    rw [ofList_concat, (consistent_ofList devices).records_put, ih, uniqueDevices_concat]

end Indexed

/-! ### What is left -/

/-- **One record is left for each key, in place.** -/
structure KeepsOneInPlace (devices left : List DiscoveredDevice) : Prop where
  /-- No key is left twice. -/
  distinct : (left.map key).Nodup
  /-- The keys are those of all records, in the order in which they first occur. -/
  keys : left.map key = (devices.map key).eraseDups
  /-- For each of them the last record with it is left. -/
  last : left.map some = (left.map key).map fun key => lastWithKey key devices
  /-- With an index of the places of keys the same is left, and the index is right. -/
  indexed : (Indexed.ofList devices).records = left ∧ (Indexed.ofList devices).Consistent

/-- **What is left of a list**, which is as much as is left when parts of the list are cleared of
their duplicates first. -/
theorem keepsOneInPlace :
    (∀ devices, KeepsOneInPlace devices (uniqueDevices devices)) ∧
    (∀ first second, uniqueDevices (first ++ second) =
      uniqueDevices (uniqueDevices first ++ uniqueDevices second)) ∧
    ∀ devices, uniqueDevices (uniqueDevices devices) = uniqueDevices devices := by
  refine ⟨fun devices => ⟨nodup_keys_uniqueDevices devices, keys_uniqueDevices devices, ?_,
    Indexed.records_ofList devices, Indexed.consistent_ofList devices⟩,
    uniqueDevices_append, uniqueDevices_uniqueDevices⟩
  rw [map_some_uniqueDevices, keys_uniqueDevices]

end NodeStorage
