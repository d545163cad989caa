import WebPreview.Proofs.Schema.RoundTrip
import WebPreview.Proofs.Schema.Validity

/-! # One request for every spelling

A request may be spelled in several ways: a file by its content alone, or by an object that
leaves out what its key tells. All of them are read as the same request, and what is read, written
out in full, is read as itself (`WebPreview.CompileRequest.decode_canonical`).
-/

namespace WebPreview

open Schema

namespace Schema.Checked

variable {α : Type} {v w : Json} {name : String} {check : Json → Checked α}

private theorem required_eq : required v name check =
    below name (((v.field? name).map check).getD (fail .missing)) := by
  unfold required
  cases v.field? name <;> rfl

/-- A required field counts only through what its check says of it. -/
theorem required_congr (same : (v.field? name).map check = (w.field? name).map check) :
    required v name check = required w name check := by
  rw [required_eq, required_eq, same]

end Schema.Checked

namespace CompileRequest

variable {key name content : String} {v w : Json}

/-- A file that is read has a name, unless it has none of its own under an empty key. -/
theorem StandsFor.key_eq_empty {f : SourceFile} (stands : StandsFor key v f)
    (nameless : f.name = "") : key = "" := by
  cases stands with
  | content text named => exact nameless
  | named name present agrees => exact absurd nameless present
  | keyed blank name agrees => exact name.symm.trans nameless

private theorem key_eq_empty_of_stand {fields : List (String × Json)}
    {entries : List (String × SourceFile)}
    (stand : List.Forall₂ (fun field entry => entry.1 = field.1 ∧
      StandsFor field.1 field.2 entry.2) fields entries) :
    ∀ entry ∈ entries, entry.2.name = "" → entry.1 = "" := by
  induction stand with
  | nil => exact nofun
  | cons here _ ih =>
      rw [List.forall_mem_cons]
      exact ⟨fun nameless => here.1.trans (here.2.key_eq_empty nameless), ih⟩

private theorem key_eq_empty_of_decode {r : CompileRequest} (read : decode v = .ok r) :
    ∀ entry ∈ r.files.entries, entry.2.name = "" → entry.1 = "" := by
  obtain ⟨fields, entries, -, stand, held⟩ := (decode_eq_ok_iff.1 read).files
  rw [held]
  exact Keyed.forall_mem_ofList (key_eq_empty_of_stand stand)

/-- The value spells the file of this name and content. It is the content alone, or an object with
the content in which the name and the kind are each left out, null, false, zero or empty, or the
name itself and the kind that it tells. -/
inductive Spells (name content : String) : Json → Prop
  | bare : Spells name content (.str content)
  | record {fields : List (String × Json)}
    (filled : (Json.obj fields).field? "content" = some (.str content))
    (called : ((Json.obj fields).field "name").isTruthy = false ∨
      (Json.obj fields).field? "name" = some (.str name))
    (told : ((Json.obj fields).field "kind").isTruthy = false ∨
      (Json.obj fields).field? "kind" = some (.str (FileKind.ofName name).id)) :
    Spells name content (.obj fields)

private theorem Spells.standsFor (named : name ≠ "") (spells : Spells name content v) :
    StandsFor name v (.ofName name content) := by
  cases spells with
  | bare => exact .content content named
  | @record fields filled called told =>
      have agrees : (SourceFile.ofName name content).Agrees (.obj fields) := by
        refine ⟨.inr filled, ?_⟩
        simp only [SourceFile.ofName, and_true]
        exact told.symm.imp_right fun falsy => ⟨falsy, named⟩
      rcases called with falsy | given
      · exact .keyed falsy rfl agrees
      · exact .named given named agrees

/-- Every spelling of a file is read as the file with the kind that its name tells. -/
theorem Spells.decode_normalize (named : name ≠ "") (spells : Spells name content v) :
    SourceFile.decode (normalize name v) = .ok (.ofName name content) :=
  decode_normalize_eq_ok_iff.2 (spells.standsFor named)

/-- The object with the value under the name among its files. -/
def withFile (before behind front back : List (String × Json)) (name : String) (v : Json) : Json :=
  .obj (before ++ ("files", .obj (front ++ (name, v) :: back)) :: behind)

/-- The files are read from what each value stands for. -/
theorem decodeFiles_congr (front back : List (String × Json))
    (same : SourceFile.decode (normalize name v) = SourceFile.decode (normalize name w)) :
    decodeFiles (.obj (front ++ (name, v) :: back)) =
      decodeFiles (.obj (front ++ (name, w) :: back)) := by
  simp only [decodeFiles, List.map_append, List.map_cons, same]

/-- A request is read from its three fields alone. -/
theorem decode_congr {fields fields' : List (String × Json)}
    (framework : (Json.obj fields).field? "framework" = (Json.obj fields').field? "framework")
    (files : ((Json.obj fields).field? "files").map decodeFiles =
      ((Json.obj fields').field? "files").map decodeFiles)
    (mode : (Json.obj fields).field? "mode" = (Json.obj fields').field? "mode") :
    decode (.obj fields) = decode (.obj fields') := by
  simp only [decode, Checked.optional, mode]
  rw [Checked.required_congr (congrArg _ framework), Checked.required_congr files]

private theorem field?_withFile_of_ne (before behind front back : List (String × Json))
    {field : String} (other : field ≠ "files") :
    (withFile before behind front back name v).field? field =
      (withFile before behind front back name w).field? field := by
  have elsewhere : ¬"files" = field := fun same => other same.symm
  simp only [withFile, Json.field?, Named.get?_append_cons, elsewhere, ↓reduceIte]

/-- A request is read from what the value under the name stands for. -/
theorem decode_withFile_congr (before behind front back : List (String × Json))
    (same : SourceFile.decode (normalize name v) = SourceFile.decode (normalize name w)) :
    decode (withFile before behind front back name v) =
      decode (withFile before behind front back name w) := by
  apply decode_congr
  case framework => exact field?_withFile_of_ne before behind front back (by decide)
  case mode => exact field?_withFile_of_ne before behind front back (by decide)
  case files =>
    simp only [Json.field?, Named.get?_append_cons, ↓reduceIte]
    cases Named.get? "files" before with
    | some earlier => rfl
    | none => exact congrArg some (decodeFiles_congr front back same)

/-- **Requests in full.** What is read as a request is written so that it reads as the same
request. And however a file is spelled, it is read as the file of its name and content, so that
bodies that differ in nothing else come to the same. -/
theorem decode_canonical :
    (∀ v r, decode v = .ok r → decode r.toJson = .ok r) ∧
      ∀ name content, name ≠ "" → ∀ v w, Spells name content v → Spells name content w →
        SourceFile.decode (normalize name v) = .ok (.ofName name content) ∧
          ∀ before behind front back, decode (withFile before behind front back name v) =
            decode (withFile before behind front back name w) := by
  refine ⟨fun v r read => decode_toJson (key_eq_empty_of_decode read), ?_⟩
  intro name content named v w spells spells'
  have first := spells.decode_normalize named
  have second := spells'.decode_normalize named
  exact ⟨first, fun before behind front back =>
    decode_withFile_congr before behind front back (first.trans second.symm)⟩

/-- A file whose name and kind count for nothing. -/
def unnamed : Json :=
  .obj [("name", .null), ("kind", .bool false), ("content", .str "h1{}"), ("line", .int 3)]

/-- A request with this value for its style sheet, and a file without a name. -/
def styled (v : Json) : Json :=
  withFile [("framework", .str "vue"), ("mode", .str "production")] []
    [("", .obj [("kind", .str "jsx")])] [] "a.css" v

/-- The request that it comes to. -/
def styledRequest : CompileRequest :=
  ⟨"vue", .ofList [("", ⟨"", .jsx, ""⟩), ("a.css", ⟨"a.css", .style, "h1{}"⟩)], .production⟩

/-- A content alone, an object without a name and a kind, and a full one make the same request. -/
theorem decode_canonical_styled :
    decode (styled unnamed) = .ok styledRequest ∧
      decode (styled (.str "h1{}")) = .ok styledRequest ∧
      decode (styled (SourceFile.ofName "a.css" "h1{}").toJson) = .ok styledRequest ∧
      decode styledRequest.toJson = .ok styledRequest := by
  have nameless : Spells "a.css" "h1{}" unnamed := .record rfl (.inl rfl) (.inl rfl)
  have full : Spells "a.css" "h1{}" (SourceFile.ofName "a.css" "h1{}").toJson :=
    .record rfl (.inr rfl) (.inr rfl)
  have read : decode (styled unnamed) = .ok styledRequest := by decide +kernel
  refine ⟨read, ?_, ?_, decode_canonical.1 _ _ read⟩
  · exact ((decode_canonical.2 "a.css" "h1{}" (by decide) _ _ .bare nameless).2 _ _ _ _).trans read
  · exact ((decode_canonical.2 "a.css" "h1{}" (by decide) _ _ full nameless).2 _ _ _ _).trans read

end CompileRequest

end WebPreview
