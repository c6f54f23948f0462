/-
**What a request is read from.**

A job is started with eleven texts, and each operation has its own use for some of them
(`Operation.fields`). White space around a text does not count, and a blank text is as good as none
(`Alike`). So the texts that an operation has no use for may hold anything, even what could not be
read, and those that it uses may be written with any white space around them.

* `JobArguments.toRequest_congr` — the same request, or the same error, from alike texts.
* `JobArguments.toRequest_reads` — **each operation reads its own fields and no others.**
-/

import NodeStorage.Proofs.Text.Trim
import NodeStorage.Provisioning.Request

namespace NodeStorage.Provisioning

/-! ### Fields -/

/-- The texts that a job is started with. -/
inductive JobField where
  | filesystemName | namespaceName | jobName | newLuns | reusedLuns | fusionNamespace
  | targetName | targetNamespace | failedJobName | failedJobNamespace | createdResources
  deriving DecidableEq, Repr

/-- The fields that an operation has a use for. -/
def Operation.fields : Operation → List JobField
  | .createFilesystem =>
    [.filesystemName, .namespaceName, .jobName, .newLuns, .reusedLuns, .fusionNamespace]
  | .cleanupFailedJob =>
    [.targetNamespace, .createdResources, .failedJobName, .failedJobNamespace]
  | .cleanupFilesystem => [.targetName, .targetNamespace, .failedJobName, .failedJobNamespace]
  | .deleteFilesystem => [.targetName, .targetNamespace]

namespace JobArguments

/-- The text in a field. -/
def text (arguments : JobArguments) : JobField → Option String
  | .filesystemName => arguments.filesystemName
  | .namespaceName => arguments.namespaceName
  | .jobName => arguments.jobName
  | .newLuns => arguments.newLuns
  | .reusedLuns => arguments.reusedLuns
  | .fusionNamespace => arguments.fusionNamespace
  | .targetName => arguments.targetName
  | .targetNamespace => arguments.targetNamespace
  | .failedJobName => arguments.failedJobName
  | .failedJobNamespace => arguments.failedJobNamespace
  | .createdResources => arguments.createdResources

/-- The arguments with an operation and a text for each field. -/
def ofTexts (operation : Option Operation) (texts : JobField → Option String) : JobArguments where
  operation := operation
  filesystemName := texts .filesystemName
  namespaceName := texts .namespaceName
  jobName := texts .jobName
  newLuns := texts .newLuns
  reusedLuns := texts .reusedLuns
  fusionNamespace := texts .fusionNamespace
  targetName := texts .targetName
  targetNamespace := texts .targetNamespace
  failedJobName := texts .failedJobName
  failedJobNamespace := texts .failedJobNamespace
  createdResources := texts .createdResources

theorem text_ofTexts (operation : Option Operation) (texts : JobField → Option String)
    (field : JobField) : (ofTexts operation texts).text field = texts field := by
  cases field <;> rfl

end JobArguments

/-! ### Texts that mean the same -/

/-- The texts are the same without the white space around them; a text that is absent is empty. -/
def Alike (first second : Option String) : Prop :=
  Text.trim (first.getD "") = Text.trim (second.getD "")

theorem present?_eq (text : Option String) :
    Text.present? text =
      if (Text.trim (text.getD "")).isEmpty then none else some (Text.trim (text.getD "")) := by
  cases text with
  | none => rfl
  | some raw => rfl

/-- **Alike texts count as the same.** -/
theorem Alike.present?_eq {first second : Option String} (alike : Alike first second) :
    Text.present? first = Text.present? second := by
  have same : Text.trim (first.getD "") = Text.trim (second.getD "") := alike
  rw [Provisioning.present?_eq, Provisioning.present?_eq, same]

theorem Alike.required_eq {first second : Option String} (alike : Alike first second)
    (source : String) : required first source = required second source := by
  rw [required, required, alike.present?_eq]

theorem Alike.lunsOf_eq {first second : Option String} (alike : Alike first second)
    (source : String) : lunsOf first source = lunsOf second source := by
  rw [lunsOf, lunsOf, alike.present?_eq]

namespace JobArguments

/-- The texts in all fields that the operation has a use for are alike. -/
def AgreeFor (operation : Operation) (first second : JobArguments) : Prop :=
  ∀ field ∈ operation.fields, Alike (first.text field) (second.text field)

section Agree

variable {first second : JobArguments}

theorem createRequest_congr (agree : AgreeFor .createFilesystem first second) :
    first.createRequest = second.createRequest := by
  have filesystemName : Alike first.filesystemName second.filesystemName :=
    agree .filesystemName (by decide)
  have namespaceName : Alike first.namespaceName second.namespaceName :=
    agree .namespaceName (by decide)
  have jobName : Alike first.jobName second.jobName := agree .jobName (by decide)
  have newLuns : Alike first.newLuns second.newLuns := agree .newLuns (by decide)
  have reusedLuns : Alike first.reusedLuns second.reusedLuns := agree .reusedLuns (by decide)
  have fusionNamespace : Alike first.fusionNamespace second.fusionNamespace :=
    agree .fusionNamespace (by decide)
  rw [createRequest, createRequest, filesystemName.required_eq, namespaceName.required_eq,
    jobName.required_eq, newLuns.lunsOf_eq, reusedLuns.lunsOf_eq, fusionNamespace.present?_eq]

theorem objectName?_congr {name otherName namespaceName otherNamespace : Option String}
    (sameName : Alike name otherName) (sameNamespace : Alike namespaceName otherNamespace) :
    objectName? name namespaceName = objectName? otherName otherNamespace := by
  rw [objectName?, objectName?, sameName.present?_eq, sameNamespace.present?_eq]

theorem failedJob_congr (name : Alike first.failedJobName second.failedJobName)
    (place : Alike first.failedJobNamespace second.failedJobNamespace) :
    first.failedJob = second.failedJob :=
  objectName?_congr name place

theorem target_congr (name : Alike first.targetName second.targetName)
    (place : Alike first.targetNamespace second.targetNamespace) :
    first.target = second.target := by
  rw [target, target, objectName?_congr name place]

theorem created_congr (created : Alike first.createdResources second.createdResources) :
    first.created = second.created := by
  rw [JobArguments.created, JobArguments.created, created.present?_eq]

theorem cleanupRequest_congr (agree : AgreeFor .cleanupFailedJob first second) :
    first.cleanupRequest = second.cleanupRequest := by
  have place : Alike first.targetNamespace second.targetNamespace :=
    agree .targetNamespace (by decide)
  rw [cleanupRequest, cleanupRequest, place.present?_eq,
    created_congr (agree .createdResources (by decide)),
    failedJob_congr (agree .failedJobName (by decide)) (agree .failedJobNamespace (by decide))]

/-- **Arguments that agree for their operation make the same request**, or the same error. -/
theorem toRequest_congr (sameOperation : first.operation = second.operation)
    (agree : ∀ operation ∈ first.operation, AgreeFor operation first second) :
    first.toRequest = second.toRequest := by
  rw [toRequest, toRequest, ← sameOperation]
  cases given : first.operation with
  | none => rfl
  | some operation =>
    have agree : AgreeFor operation first second := agree operation given
    cases operation with
    | createFilesystem => simp only [createRequest_congr agree]
    | cleanupFailedJob => simp only [cleanupRequest_congr agree]
    | cleanupFilesystem =>
      simp only [target_congr (agree .targetName (by decide)) (agree .targetNamespace (by decide)),
        failedJob_congr (agree .failedJobName (by decide)) (agree .failedJobNamespace (by decide))]
    | deleteFilesystem =>
      simp only [target_congr (agree .targetName (by decide)) (agree .targetNamespace (by decide))]

end Agree

/-! ### Fields that matter -/

/-- **The request depends on the field**: it is not always the same when only this text is
another. -/
def Matters (operation : Operation) (field : JobField) : Prop :=
  ∃ first second : JobArguments,
    first.operation = some operation ∧ second.operation = some operation ∧
    (∀ other, other ≠ field → first.text other = second.text other) ∧
    first.toRequest ≠ second.toRequest

/-- Texts with which every operation makes a request. -/
def plainTexts : JobField → Option String
  | .filesystemName | .targetName => some "fs1"
  | .namespaceName | .targetNamespace => some "scale"
  | .jobName | .failedJobName => some "make-fs1"
  | .newLuns => some "[[\"/dev/sdb\",\"0x5\",\"worker-0\"]]"
  | .failedJobNamespace => some "fusion"
  | .reusedLuns | .fusionNamespace | .createdResources => none

/-- A text that is in no field, and cannot be read where a document is asked for, makes a
difference. -/
theorem matters_of_mem {operation : Operation} {field : JobField}
    (used : field ∈ operation.fields) : Matters operation field := by
  refine ⟨ofTexts (some operation) plainTexts,
    ofTexts (some operation) (Function.update plainTexts field (some "other")), rfl, rfl, ?_, ?_⟩
  · intro other differs
    rw [text_ofTexts, text_ofTexts, Function.update_of_ne differs]
  · revert field
    cases operation <;> decide +kernel

theorem not_matters_of_not_mem {operation : Operation} {field : JobField}
    (unused : field ∉ operation.fields) : ¬ Matters operation field := by
  rintro ⟨first, second, ofFirst, ofSecond, same, differs⟩
  refine differs (toRequest_congr (ofFirst.trans ofSecond.symm) ?_)
  intro given isGiven other used
  cases Option.some.inj (ofFirst.symm.trans isGiven)
  have another : other ≠ field := fun again => unused (again ▸ used)
  rw [Alike, same other another]

/-- **Each operation reads its own fields and no others.** Arguments whose fields are alike where
their operation has a use for them make the same request or the same error, whatever stands in the
other fields; and there is no field in the list that makes no difference. -/
theorem toRequest_reads :
    (∀ first second : JobArguments, first.operation = second.operation →
      (∀ operation ∈ first.operation, AgreeFor operation first second) →
      first.toRequest = second.toRequest) ∧
    ∀ operation field, Matters operation field ↔ field ∈ operation.fields :=
  ⟨fun _ _ => toRequest_congr, fun _ _ =>
    ⟨fun matters => not_not.mp fun unused => not_matters_of_not_mem unused matters,
      matters_of_mem⟩⟩

/-- A clean-up with white space of several kinds, and with what cannot be read in the fields of
other operations. -/
def strayArguments : JobArguments where
  operation := some .cleanupFilesystem
  newLuns := some "[[["
  targetName := some "\u3000fs1\n"
  targetNamespace := some "scale\u00a0"
  failedJobName := some "\t"
  failedJobNamespace := some "fusion"
  createdResources := some "nobody reads this"

/-- The same clean-up in bare texts. -/
def bareArguments : JobArguments where
  operation := some .cleanupFilesystem
  targetName := some "fs1"
  targetNamespace := some "scale"
  failedJobNamespace := some "fusion"

/-- The two make one request. -/
theorem stray_reads_bare :
    strayArguments.operation = bareArguments.operation ∧
      (∀ operation ∈ strayArguments.operation,
        AgreeFor operation strayArguments bareArguments) ∧
      strayArguments.toRequest = bareArguments.toRequest ∧
      bareArguments.toRequest = .ok (.cleanupFilesystem ⟨"fs1", "scale"⟩ none) := by
  have agree : ∀ operation ∈ strayArguments.operation,
      AgreeFor operation strayArguments bareArguments := by
    rintro operation ⟨rfl⟩ field used
    revert field
    unfold Alike
    decide +kernel
  exact ⟨rfl, agree, toRequest_reads.1 strayArguments bareArguments rfl agree, by decide⟩

end JobArguments

end NodeStorage.Provisioning
