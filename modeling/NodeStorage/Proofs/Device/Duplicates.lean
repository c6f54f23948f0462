/-
**One record for each device.**

Records are told apart by their keys. `uniqueDevices` takes them one after another and puts each in
the place of the record with its key, or at the end.

* `keys_uniqueDevices` — the keys that are left are those of all records, each at its first place.
* `mem_uniqueDevices_iff` — what is left for a key is the last record with it.
* `map_some_uniqueDevices` — both together, as one equation that leaves nothing open.
-/

import Mathlib.Data.List.Induction
import NodeStorage.Device.Classification

namespace NodeStorage

open DiscoveredDevice

/-- One more element is new, or it changes nothing. -/
theorem eraseDups_concat {α : Type} [BEq α] [LawfulBEq α] (elements : List α) (last : α) :
    (elements ++ [last]).eraseDups =
      if last ∈ elements then elements.eraseDups else elements.eraseDups ++ [last] := by
  rw [List.eraseDups_append]
  by_cases known : last ∈ elements
  · have nothing : [last].removeAll elements = [] := List.filter_cons_of_neg (by simpa using known)
    rw [if_pos known, nothing]
    exact List.append_nil _
  · have one : [last].removeAll elements = [last] :=
      List.filter_cons_of_pos (by simpa using known)
    rw [if_neg known, one]
    rfl

/-! ### One more record -/

theorem keys_putDevice (device : DiscoveredDevice) (kept : List DiscoveredDevice) :
    (putDevice device kept).map key =
      if device.key ∈ kept.map key then kept.map key else kept.map key ++ [device.key] := by
  induction kept with
  | nil => rfl
  | cons other rest ih =>
    by_cases same : other.key = device.key
    · rw [putDevice, if_pos same, List.map_cons, List.map_cons, same, if_pos List.mem_cons_self]
    · have later : device.key ∈ other.key :: rest.map key ↔ device.key ∈ rest.map key :=
        List.mem_cons.trans (or_iff_right fun first => same first.symm)
      rw [putDevice, if_neg same, List.map_cons, List.map_cons, ih]
      simp only [later]
      split <;> rfl

/-- Afterwards there is the new record, and of the others those with other keys. -/
theorem mem_putDevice {device record : DiscoveredDevice} {kept : List DiscoveredDevice}
    (distinct : (kept.map key).Nodup) (member : record ∈ putDevice device kept) :
    record = device ∨ (record ∈ kept ∧ record.key ≠ device.key) := by
  induction kept with
  | nil => exact Or.inl (List.mem_singleton.mp member)
  | cons other rest ih =>
    obtain ⟨fresh, restDistinct⟩ := List.nodup_cons.mp distinct
    by_cases same : other.key = device.key
    · rw [putDevice, if_pos same] at member
      rcases List.mem_cons.mp member with rfl | member
      · exact Or.inl rfl
      · refine Or.inr ⟨List.mem_cons_of_mem _ member, fun again => fresh ?_⟩
        rw [same, ← again]
        exact List.mem_map_of_mem member
    · rw [putDevice, if_neg same] at member
      rcases List.mem_cons.mp member with rfl | member
      · exact Or.inr ⟨List.mem_cons_self, same⟩
      · exact (ih restDistinct member).imp_right fun ⟨there, differs⟩ =>
          ⟨List.mem_cons_of_mem _ there, differs⟩

/-! ### All records -/

theorem uniqueDevices_concat (devices : List DiscoveredDevice) (device : DiscoveredDevice) :
    uniqueDevices (devices ++ [device]) = putDevice device (uniqueDevices devices) := by
  rw [uniqueDevices, List.foldl_append]
  rfl

/-- **The keys are those of all records, each at its first place.** -/
theorem keys_uniqueDevices (devices : List DiscoveredDevice) :
    (uniqueDevices devices).map key = (devices.map key).eraseDups := by
  induction devices using List.reverseRecOn with
  | nil => rfl
  | append_singleton devices device ih =>
    have known : device.key ∈ (devices.map key).eraseDups ↔ device.key ∈ devices.map key :=
      List.mem_eraseDups
    rw [uniqueDevices_concat, keys_putDevice, ih, List.map_append, List.map_singleton,
      eraseDups_concat]
    simp only [known]

/-- No two records are left with the same key. -/
theorem nodup_keys_uniqueDevices (devices : List DiscoveredDevice) :
    ((uniqueDevices devices).map key).Nodup := by
  induction devices using List.reverseRecOn with
  | nil => exact List.nodup_nil
  | append_singleton devices device ih =>
    rw [uniqueDevices_concat, keys_putDevice]
    split
    · exact ih
    · rename_i fresh
      refine List.nodup_append.mpr ⟨ih, List.pairwise_singleton _ _, ?_⟩
      rintro one there last member rfl
      rw [List.mem_singleton.mp member] at there
      exact fresh there

/-- The last of the records with a key. -/
def lastWithKey (key : String × String) (devices : List DiscoveredDevice) :
    Option DiscoveredDevice :=
  (devices.filter fun device => device.key == key).getLast?

/-- **What is left for a key is the last record with it.** -/
theorem lastWithKey_of_mem {devices : List DiscoveredDevice} {record : DiscoveredDevice}
    (member : record ∈ uniqueDevices devices) : lastWithKey record.key devices = some record := by
  induction devices using List.reverseRecOn with
  | nil => cases member
  | append_singleton devices device ih =>
    rw [uniqueDevices_concat] at member
    rw [lastWithKey, List.filter_append]
    -- The newest record is the last with its key; a record with another key is as late as before.
    rcases mem_putDevice (nodup_keys_uniqueDevices devices) member with rfl | ⟨earlier, differs⟩
    · have one : [record].filter (fun device => device.key == record.key) = [record] :=
        List.filter_cons_of_pos (beq_self_eq_true _)
      rw [one]
      exact List.getLast?_concat
    · have none : [device].filter (fun device => device.key == record.key) = [] :=
        List.filter_cons_of_neg (by simpa using differs.symm)
      rw [none, List.append_nil]
      exact ih earlier

theorem mem_of_lastWithKey {devices : List DiscoveredDevice} {key : String × String}
    {record : DiscoveredDevice} (last : lastWithKey key devices = some record) :
    record ∈ devices ∧ record.key = key := by
  obtain ⟨member, same⟩ := List.mem_filter.mp (List.mem_of_getLast? last)
  exact ⟨member, eq_of_beq same⟩

/-- **The records that are left are those that are the last with their key.** -/
theorem mem_uniqueDevices_iff {devices : List DiscoveredDevice} {record : DiscoveredDevice} :
    record ∈ uniqueDevices devices ↔ lastWithKey record.key devices = some record := by
  refine ⟨lastWithKey_of_mem, fun last => ?_⟩
  have known : record.key ∈ (uniqueDevices devices).map key := by
    rw [keys_uniqueDevices]
    exact List.mem_eraseDups.mpr (List.mem_map_of_mem (mem_of_lastWithKey last).1)
  obtain ⟨other, member, same⟩ := List.mem_map.mp known
  have otherLast := lastWithKey_of_mem member
  rw [same, last] at otherLast
  cases otherLast
  exact member

/-- **There is one record for each key**, in the order in which the keys first occur, and it is the
last one with the key. -/
theorem map_some_uniqueDevices (devices : List DiscoveredDevice) :
    (uniqueDevices devices).map some =
      (devices.map key).eraseDups.map fun key => lastWithKey key devices := by
  rw [← keys_uniqueDevices, List.map_map]
  exact List.map_congr_left fun record member => (lastWithKey_of_mem member).symm

/-- A record after which none has its key is the last with it. -/
theorem lastWithKey_of_split (earlier : List DiscoveredDevice) {later : List DiscoveredDevice}
    {device : DiscoveredDevice}
    (last : ∀ other ∈ later, other.key ≠ device.key) :
    lastWithKey device.key (earlier ++ device :: later) = some device := by
  have others : later.filter (fun other => other.key == device.key) = [] :=
    List.filter_eq_nil_iff.mpr fun other member => by simpa using last other member
  have kept : (device :: later).filter (fun other => other.key == device.key) =
      device :: later.filter fun other => other.key == device.key :=
    List.filter_cons_of_pos (beq_self_eq_true device.key)
  rw [lastWithKey, List.filter_append, kept, others]
  exact List.getLast?_concat

end NodeStorage
