import WebPreview.CompileRequest
import WebPreview.Outcome.Codec
import WebPreview.Proofs.Keyed.Entries
import WebPreview.Remote

/-! # Reading back what was written as JSON

The object of a source file, of an outcome and of a request reads back as what it
was written from. For a request that takes files with names: a file without one is
given its key, which is no change only if the key is empty too
(`WebPreview.CompileRequest.decode_toJson`, `WebPreview.CompileRequest.decode_payload`).
-/

namespace WebPreview

namespace Schema.Checked

private theorem all_map_ok {α β : Type} {check : β → Checked α} (value : β → α) {items : List β}
    (passes : ∀ item ∈ items, check item = .ok (value item)) :
    all (items.map check) = .ok (items.map value) := by
  induction items with
  | nil => rfl
  | cons item rest ih =>
      have first := passes item List.mem_cons_self
      have others := ih fun other member => passes other (List.mem_cons_of_mem _ member)
      simp only [List.map_cons, all, first, others]
      rfl

end Schema.Checked

namespace SourceFile

private theorem decodeKind_toJson (f : SourceFile) : decodeKind f.toJson = .ok f.kind := by
  have stated : (f.toJson.field "kind").isTruthy = true := by
    change (f.kind.id != "") = true
    cases f.kind <;> rfl
  have known : FileKind.decode (.str f.kind.id) = .ok f.kind := by
    simp only [FileKind.decode, FileKind.ofId?_id]
  simp only [decodeKind, stated, Bool.true_or, ↓reduceIte]
  change Schema.Checked.below "kind" (FileKind.decode (.str f.kind.id)) = _
  rw [known]
  rfl

/-- The object of a source file reads back as the file. -/
theorem decode_toJson (f : SourceFile) : decode f.toJson = .ok f := by
  change (Schema.Checked.both (.ok f.name)
    (.both (.ok f.content) (decodeKind f.toJson))).map _ = _
  rw [decodeKind_toJson]
  rfl

end SourceFile

namespace Outcome

/-- The object of an outcome reads back as the outcome. -/
theorem decode_toJson (outcome : Outcome) : decode outcome.toJson = .ok outcome := by
  cases outcome with
  | success html => rfl
  | failure reason => rfl

end Outcome

namespace CompileRequest

/-- A file stands in a request as it is if it has a name, and also if neither it nor its key
has one. -/
theorem normalize_toJson {key : String} {f : SourceFile} (named : f.name = "" → key = "") :
    normalize key f.toJson = f.toJson := by
  by_cases nameless : f.name = ""
  · have blank : (f.toJson.field "name").isTruthy = false := by
      change (f.name != "") = false
      rw [nameless]
      rfl
    change (if (f.toJson.field "name").isTruthy then f.toJson else _) = _
    rw [blank, named nameless, SourceFile.toJson, nameless]
    rfl
  · have truthy : (f.toJson.field "name").isTruthy = true := bne_iff_ne.2 nameless
    change (if (f.toJson.field "name").isTruthy then f.toJson else _) = _
    rw [truthy]
    rfl

private theorem decodeFiles_filesToJson {files : SourceSet}
    (named : ∀ entry ∈ files.entries, entry.2.name = "" → entry.1 = "") :
    decodeFiles (filesToJson files) = .ok files := by
  have each : ∀ entry ∈ files.entries,
      (Schema.Checked.below entry.1 (SourceFile.decode (normalize entry.1 entry.2.toJson))).map
        (fun f => (entry.1, f)) = .ok entry := by
    intro entry member
    rw [normalize_toJson (named entry member), SourceFile.decode_toJson]
    rfl
  simp only [decodeFiles, filesToJson, List.map_map, Function.comp_def]
  rw [Schema.Checked.all_map_ok id each, List.map_id]
  exact congrArg Except.ok (Keyed.ofList_entries files)

/-- The object of a request reads back as the request. -/
theorem decode_toJson {r : CompileRequest}
    (named : ∀ entry ∈ r.files.entries, entry.2.name = "" → entry.1 = "") :
    decode r.toJson = .ok r := by
  have moded : Mode.decode (.str r.mode.id) = .ok r.mode := by cases r.mode <;> rfl
  change (Schema.Checked.both (.ok r.framework)
    (.both (.below "files" (decodeFiles (filesToJson r.files)))
      (.below "mode" (Mode.decode (.str r.mode.id))))).map _ = _
  rw [decodeFiles_filesToJson named, moded]
  rfl

/-- **A request reads back.** What a compile service is sent reads back as a
request for the same framework and the same files, under the same keys and in the
same order. -/
theorem decode_payload (framework : Framework) {files : SourceSet}
    (named : ∀ entry ∈ files.entries, entry.2.name ≠ "") :
    decode (Remote.payload framework files) = .ok ⟨framework.id, files, .development⟩ := by
  change (Schema.Checked.both (.ok framework.id)
    (.both (.below "files" (decodeFiles (filesToJson files))) (.ok Mode.development))).map _ = _
  rw [decodeFiles_filesToJson fun entry member nameless =>
    absurd nameless (named entry member)]
  rfl

end CompileRequest

end WebPreview
