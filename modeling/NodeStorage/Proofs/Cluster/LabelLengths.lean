/-
**The lengths of label values.**

The cluster takes values of labels of up to sixty-three characters, far fewer than it takes for the
names of objects. The version of an image is cut before it is put on an object, so it always fits
(`length_imageLabel`). The names of nodes and of filesystems are put on results and local disks as
they are: these fit only while the names are short, although the names of the objects themselves are
shortened where that is needed (`longNode_unfit`).

* `LabelsFit` — all label values of an object are short enough.
* `asked_of_ensure`, `CreateRequest.Course.asked_disk` — the results and local disks that are asked
  for, whatever the cluster answers.
* `labels_fit_iff` — **where the labels of these objects fit, exactly.**
-/

import NodeStorage.InMemory.StorageCluster
import NodeStorage.Proofs.Discovery.Scan
import NodeStorage.Proofs.Provisioning.History
import NodeStorage.Registry.Image

namespace NodeStorage

open Cluster Dialogue

/-- The values of the labels are short enough for the cluster. -/
def LabelsFit (labels : TextMap) : Prop :=
  ∀ label ∈ labels, label.2.length ≤ Registry.longestLabel

/-! ### Images -/

/-- A label has as much of the version as fits. -/
theorem Registry.length_imageLabel (image : String) :
    (imageLabel image).length = min longestLabel (imageVersion image).length := by
  rw [imageLabel, String.length_ofList, List.length_take, String.length_toList]

/-! ### Results of discovery -/

namespace Discovery

/-- The labels on the object of a result. -/
def ResultObject.labels (object : ResultObject) : TextMap :=
  object.metadata.labels.getD []

/-- The label of a new result is the name of its node. -/
theorem labelsFit_newResult_iff (identity : ResultIdentity) :
    LabelsFit identity.newResult.labels ↔ identity.nodeName.length ≤ Registry.longestLabel :=
  List.forall_mem_singleton

/-- **The only object that an agent asks for** is the new result of its node. -/
theorem asked_of_ensure {identity : ResultIdentity} {exchanges : List AgentExchange}
    {outcome : Outcome Unit} (conversation : Conversation identity.ensure exchanges outcome)
    {object : ResultObject} {answer : Outcome Unit}
    (asked : ⟨.createResult object, answer⟩ ∈ exchanges) : object = identity.newResult := by
  have question : Call.createResult object ∈ exchanges.map Exchange.question :=
    List.mem_map_of_mem asked
  cases ensureGoes_of_conversation conversation with
  | unread => simp at question
  | present => simp at question
  | answered => simpa using question

end Discovery

/-! ### Local disks -/

namespace Provisioning

/-- A new local disk has the name of its filesystem on a label, and one short label besides. -/
theorem labelsFit_localDisk_iff (lun : Lun) (filesystem place : String) :
    LabelsFit (LocalDiskRequest.of lun filesystem place).labels ↔
      filesystem.length ≤ Registry.longestLabel := by
  have short : "true".length ≤ Registry.longestLabel := by decide
  exact List.forall_mem_cons.trans
    ((and_iff_right short).trans List.forall_mem_singleton)

/-- **The local disks that a run asks for** are those of its new units. -/
theorem CreateRequest.Course.asked_disk {request : CreateRequest} {exchanges : List JobExchange}
    {result : Outcome Checkpoint} (course : request.Course exchanges result)
    {disk : LocalDiskRequest} {answer : Outcome Unit}
    (asked : ⟨.createLocalDisk disk, answer⟩ ∈ exchanges) :
    ∃ lun ∈ request.newLuns, disk = request.diskRequest lun := by
  obtain ⟨earlier, later, split⟩ := List.append_of_mem asked
  obtain ⟨left, plan⟩ := ((sound_of_course course).at split).planned rfl
  have planned : JobCall.createLocalDisk disk ∈ request.plan := by
    rw [plan]
    exact List.mem_append_right _ List.mem_cons_self
  rcases List.mem_append.mp planned with isDisk | other
  · obtain ⟨lun, member, same⟩ := List.mem_map.mp isDisk
    exact ⟨lun, member, (JobCall.createLocalDisk.inj same).symm⟩
  · simp at other

end Provisioning

/-! ### Where labels fit -/

open Discovery Provisioning

/-- **The labels fit exactly where names are short.** The version of an image always fits. The
labels of a result fit if the name of its node does, and those of a local disk if the name of its
filesystem does; so it is for all results and local disks that agents and runs ask for, whatever
they are answered. -/
theorem labels_fit_iff (identity : ResultIdentity) (lun : Lun) (filesystem place image : String)
    (request : CreateRequest) :
    (LabelsFit identity.newResult.labels ↔ identity.nodeName.length ≤ 63) ∧
      (LabelsFit (LocalDiskRequest.of lun filesystem place).labels ↔ filesystem.length ≤ 63) ∧
      (Registry.imageLabel image).length ≤ 63 ∧
      (∀ exchanges outcome, Conversation identity.ensure exchanges outcome →
        ∀ object answer, ⟨.createResult object, answer⟩ ∈ exchanges →
          (LabelsFit object.labels ↔ identity.nodeName.length ≤ 63)) ∧
      ∀ exchanges result, Conversation request.run exchanges result →
        ∀ disk answer, ⟨.createLocalDisk disk, answer⟩ ∈ exchanges →
          (LabelsFit disk.labels ↔ request.filesystemName.length ≤ 63) := by
  refine ⟨labelsFit_newResult_iff identity, labelsFit_localDisk_iff lun filesystem place,
    ?_, ?_, ?_⟩
  · rw [Registry.length_imageLabel]
    exact Nat.min_le_left _ _
  · intro exchanges outcome conversation object answer asked
    rw [asked_of_ensure conversation asked]
    exact labelsFit_newResult_iff identity
  · intro exchanges result conversation disk answer asked
    obtain ⟨newLun, -, rfl⟩ :=
      (CreateRequest.course_of_conversation conversation).asked_disk asked
    exact labelsFit_localDisk_iff newLun request.filesystemName request.namespaceName

/-- The name of a node that a result can be named after without being shortened. -/
def longNode : AgentSettings :=
  { AgentSettings.standard with
    nodeName := "k8s-worker-1234567890.this.is.a.very.very.long.node.name.example.com"
    namespaceName := "ibm-fusion-access"
    parentUid := "f2b5c7e0" }

/-- A request for a filesystem whose name has one letter too many. -/
def longFilesystem : CreateRequest where
  filesystemName := "filesystem-of-the-storage-nodes-in-the-second-hall-on-the-ground"
  namespaceName := "ibm-spectrum-scale"
  newLuns := [⟨"/dev/sdb", "0x5000c500a1b2c3d4", "worker-0", false, none⟩]
  reusedLuns := []
  job := ⟨"make", "ibm-fusion-access"⟩

/-- The agent creates its result with a label that is too long, and so does the job its local
disk. -/
theorem longNames_asked :
    ¬ LabelsFit longNode.identity.newResult.labels ∧
      ¬ LabelsFit (longFilesystem.diskRequest
        ⟨"/dev/sdb", "0x5000c500a1b2c3d4", "worker-0", false, none⟩).labels := by
  have created : Conversation longNode.identity.ensure
      [⟨.getResult longNode.identity.namespaceName longNode.identity.resultName, .ok none⟩,
        ⟨.createResult longNode.identity.newResult, .ok ()⟩] (.ok ()) :=
    conversation_ask_iff.mpr ⟨.ok none, _, rfl, conversation_ask_iff.mpr ⟨.ok (), _, rfl, .done _⟩⟩
  have made :=
    conversation_trace InMemory.StorageCluster.respond longFilesystem.run ⟨[], [], [], [], []⟩
  have asked := List.mem_of_getElem? (show (trace InMemory.StorageCluster.respond
    longFilesystem.run ⟨[], [], [], [], []⟩)[2]? = some ⟨.createLocalDisk
      (longFilesystem.diskRequest ⟨"/dev/sdb", "0x5000c500a1b2c3d4", "worker-0", false, none⟩),
      .ok ()⟩ from rfl)
  obtain ⟨-, -, -, results, disks⟩ := labels_fit_iff longNode.identity
    ⟨"/dev/sdb", "0x5000c500a1b2c3d4", "worker-0", false, none⟩ longFilesystem.filesystemName
    longFilesystem.namespaceName "quay.io/storage/core:v1" longFilesystem
  have noResult := results _ _ created _ _ (List.mem_cons_of_mem _ List.mem_cons_self)
  have noDisk := disks _ _ made _ _ asked
  rw [noResult, noDisk]
  decide

/-- **Not every node that an agent may run on has a name that fits on a label**, though the name of
its result fits as it is. -/
theorem longNode_unfit :
    longNode.validate = .ok () ∧ longNode.nodeName.utf8ByteSize ≤ 253 ∧
      longNode.identity.resultName = "discovery-result-" ++ longNode.nodeName ∧
      ¬ LabelsFit longNode.identity.newResult.labels := by
  refine ⟨rfl, by decide, by decide, ?_⟩
  rw [labelsFit_newResult_iff]
  decide

end NodeStorage
