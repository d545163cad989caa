import Mathlib.Data.List.Forall2
import WebPreview.CompileRequest
import WebPreview.Proofs.Except

/-! # Which values are requests

A value is read as a compile request exactly when it says one in the terms of its
fields (`WebPreview.CompileRequest.decode_eq_ok_iff`): the framework is a text, every
file has a text for a name and a content, a kind that is stated or that the name tells,
and the mode is one of the two or left out.

A value that is no request is refused with what is wrong with it, except for one sort
(`WebPreview.CompileRequest.aborts_decode_iff`): a file has a name that counts as present
and is no text, and no kind that counts. To tell the kind its name is looked at before
it is checked, and the check ends there.
-/

namespace WebPreview

namespace Json

private theorem field_eq_str_iff {v : Json} {name text : String} :
    v.field name = .str text ↔ v.field? name = some (.str text) := by
  unfold field
  cases v.field? name with
  | none => simp
  | some field => simp

@[simp] private theorem isTruthy_str {text : String} : (str text).isTruthy = true ↔ text ≠ "" :=
  bne_iff_ne

end Json

namespace Schema.Checked

variable {α β : Type}

/-- The check has met a file name that is no text, and ended there. -/
def Aborts (x : Checked α) : Prop := ∃ type, x = .error (.nameIsNoText type)

private theorem not_aborts_ok (a : α) : ¬Aborts (.ok a : Checked α) := by
  rintro ⟨type, same⟩
  cases same

private theorem not_aborts_fail (cause : Cause) : ¬Aborts (fail cause : Checked α) := by
  rintro ⟨type, same⟩
  cases same

private theorem aborts_map_iff {f : α → β} {x : Checked α} : Aborts (x.map f) ↔ Aborts x := by
  cases x with
  | ok a => simp [Aborts, Except.map]
  | error why => simp [Aborts, Except.map]

private theorem aborts_below_iff {place : String} {x : Checked α} :
    Aborts (below place x) ↔ Aborts x := by
  rcases x with (_ | _) | _ <;> simp [Aborts, below]

private theorem aborts_both_iff {x : Checked α} {y : Checked β} :
    Aborts (both x y) ↔ Aborts x ∨ Aborts y := by
  rcases x with (_ | _) | _ <;> rcases y with (_ | _) | _ <;> simp [Aborts, both]

private theorem all_eq_ok_iff {checks : List (Checked α)} {values : List α} :
    all checks = .ok values ↔ List.Forall₂ (fun x a => x = .ok a) checks values := by
  induction checks generalizing values with
  | nil =>
      rw [List.forall₂_nil_left_iff]
      exact ⟨fun same => (Except.ok.inj same).symm, fun same => congrArg Except.ok same.symm⟩
  | cons x rest ih =>
      simp only [all, Except.map_eq_ok_iff, Prod.exists, both_eq_ok_iff, ih,
        List.forall₂_cons_left_iff]
      constructor
      · rintro ⟨a, others, ⟨here, there⟩, same⟩
        exact ⟨a, others, here, there, same.symm⟩
      · rintro ⟨a, others, here, there, same⟩
        exact ⟨a, others, ⟨here, there⟩, same.symm⟩

private theorem aborts_all_iff {checks : List (Checked α)} :
    Aborts (all checks) ↔ ∃ x ∈ checks, Aborts x := by
  induction checks with
  | nil => simp [all, not_aborts_ok]
  | cons x rest ih =>
      simp only [all, aborts_map_iff, aborts_both_iff, ih, List.mem_cons, exists_eq_or_imp]

/-- A required field is accepted exactly if it is there and passes its check. -/
theorem required_eq_ok_iff {v : Json} {name : String} {check : Json → Checked α} {a : α} :
    required v name check = .ok a ↔ ∃ field, v.field? name = some field ∧ check field = .ok a := by
  rw [required, below_eq_ok_iff]
  cases v.field? name with
  | none => simp [fail]
  | some field => simp

private theorem aborts_required_iff {v : Json} {name : String} {check : Json → Checked α} :
    Aborts (required v name check) ↔
      ∃ field, v.field? name = some field ∧ Aborts (check field) := by
  rw [required, aborts_below_iff]
  cases v.field? name with
  | none => simp [not_aborts_fail]
  | some field => simp

/-- An optional field is accepted exactly if it passes its check, or it is not there and has
its default. -/
theorem optional_eq_ok_iff {v : Json} {name : String} {absent : α} {check : Json → Checked α}
    {a : α} :
    optional v name absent check = .ok a ↔ v.field? name = none ∧ a = absent ∨
      ∃ field, v.field? name = some field ∧ check field = .ok a := by
  unfold optional
  cases v.field? name with
  | none => simp [eq_comm]
  | some field => simp [below_eq_ok_iff]

private theorem aborts_optional_iff {v : Json} {name : String} {absent : α}
    {check : Json → Checked α} :
    Aborts (optional v name absent check) ↔
      ∃ field, v.field? name = some field ∧ Aborts (check field) := by
  unfold optional
  cases v.field? name with
  | none => simp [not_aborts_ok]
  | some field => simp [aborts_below_iff]

/-- A text is accepted exactly as itself. -/
theorem text_eq_ok_iff {v : Json} {s : String} : text v = .ok s ↔ v = .str s := by
  cases v <;> simp [text, fail]

private theorem not_aborts_text (v : Json) : ¬Aborts (text v) := by
  unfold text
  split
  · exact not_aborts_ok _
  · exact not_aborts_fail _

end Schema.Checked

open Schema Checked

/-- Among members that are found by their identifiers, an identifier finds the one that
has it. -/
theorem find?_id_eq_some_iff {α : Type} {members : List α} {id : α → String}
    (known : ∀ a, members.find? (id · == id a) = some a) {text : String} {a : α} :
    members.find? (id · == text) = some a ↔ text = id a := by
  constructor
  · intro found
    have same : (id a == text) = true := List.find?_some (p := (id · == text)) found
    exact (eq_of_beq same).symm
  · rintro rfl
    exact known a

namespace FileKind

private theorem id_ne_empty (kind : FileKind) : kind.id ≠ "" := by cases kind <;> decide

private theorem decode_eq_ok_iff {v : Json} {kind : FileKind} :
    decode v = .ok kind ↔ v = .str kind.id := by
  cases v with
  | str id =>
      rw [Json.str.injEq, ← find?_id_eq_some_iff ofId?_id]
      change _ ↔ ofId? id = some kind
      cases found : ofId? id <;> simp [decode, found, fail]
  | _ => simp [decode, fail]

private theorem not_aborts_decode (v : Json) : ¬Aborts (decode v) := by
  unfold decode
  split
  · split
    · exact not_aborts_ok _
    · exact not_aborts_fail _
  · exact not_aborts_fail _

end FileKind

namespace Mode

private theorem decode_eq_ok_iff {v : Json} {mode : Mode} :
    decode v = .ok mode ↔ v = .str mode.id := by
  cases v with
  | str id =>
      have known (mode : Mode) : all.find? (·.id == mode.id) = some mode := by cases mode <;> rfl
      rw [Json.str.injEq, ← find?_id_eq_some_iff known]
      cases found : all.find? (·.id == id) <;> simp [decode, found, fail]
  | _ => simp [decode, fail]

private theorem not_aborts_decode (v : Json) : ¬Aborts (decode v) := by
  unfold decode
  split
  · split
    · exact not_aborts_ok _
    · exact not_aborts_fail _
  · exact not_aborts_fail _

end Mode

namespace SourceFile

/-- The content and the kind of the file are those that the object states. A content that
is left out is empty. A kind that is left out, null, false, zero or empty is the one that
the file's name tells, and only a name that is not empty tells one. -/
structure Agrees (f : SourceFile) (v : Json) : Prop where
  content : v.field? "content" = none ∧ f.content = "" ∨
    v.field? "content" = some (.str f.content)
  kind : v.field? "kind" = some (.str f.kind.id) ∨
    (v.field "kind").isTruthy = false ∧ f.name ≠ "" ∧ f.kind = FileKind.ofName f.name

/-- The object has a name that counts as present and is no text, and no kind that
counts. -/
structure NamedByNoText (v : Json) : Prop where
  present : (v.field "name").isTruthy = true
  noText : ∀ text, v.field "name" ≠ .str text
  unstated : (v.field "kind").isTruthy = false

private theorem truthy_of_kind {v : Json} {kind : FileKind}
    (stated : v.field? "kind" = some (.str kind.id)) : (v.field "kind").isTruthy = true := by
  rw [Json.field_eq_str_iff.2 stated]
  exact Json.isTruthy_str.2 kind.id_ne_empty

private theorem decodeKind_eq_ok_iff {v : Json} {name : String} {kind : FileKind}
    (named : v.field? "name" = some (.str name)) :
    decodeKind v = .ok kind ↔ v.field? "kind" = some (.str kind.id) ∨
      (v.field "kind").isTruthy = false ∧ name ≠ "" ∧ kind = FileKind.ofName name := by
  have field : v.field "name" = .str name := Json.field_eq_str_iff.2 named
  by_cases inferred : (v.field "kind").isTruthy = false ∧ name ≠ ""
  · have unstated : v.field? "kind" ≠ some (.str kind.id) := fun stated =>
      Bool.false_ne_true (inferred.1.symm.trans (truthy_of_kind stated))
    have present : (Json.str name).isTruthy = true := Json.isTruthy_str.2 inferred.2
    simp [decodeKind, field, present, inferred, unstated, eq_comm]
  · have asked : ((v.field "kind").isTruthy || !(v.field "name").isTruthy) = true := by
      rw [field, Bool.or_eq_true, Bool.not_eq_true', ← Bool.not_eq_true, Json.isTruthy_str]
      by_contra neither
      rw [not_or, Bool.not_eq_true, not_not] at neither
      exact inferred neither
    simp only [decodeKind, asked, ↓reduceIte, required_eq_ok_iff, FileKind.decode_eq_ok_iff,
      exists_eq_right]
    exact ⟨.inl, fun stated => stated.resolve_right fun ⟨falsy, given, _⟩ =>
      inferred ⟨falsy, given⟩⟩

private theorem aborts_decodeKind_iff {v : Json} : Aborts (decodeKind v) ↔ NamedByNoText v := by
  by_cases asked : ((v.field "kind").isTruthy || !(v.field "name").isTruthy) = true
  · have fine : ¬NamedByNoText v := by
      rintro ⟨present, -, unstated⟩
      rw [present, unstated] at asked
      cases asked
    simp [decodeKind, asked, aborts_required_iff, FileKind.not_aborts_decode, fine]
  · simp only [Bool.or_eq_true, Bool.not_eq_true', not_or, Bool.not_eq_true, Bool.not_eq_false]
      at asked
    simp only [decodeKind, asked, Bool.not_true, Bool.or_self, Bool.false_eq_true, ↓reduceIte]
    split
    · next name text =>
        exact iff_of_false (not_aborts_ok _) fun odd => odd.noText name text
    · next noText =>
        exact iff_of_true ⟨_, rfl⟩ ⟨asked.2, noText, asked.1⟩

/-- An object is read as the file whose name it states and with which it agrees. -/
theorem decode_eq_ok_iff {v : Json} {f : SourceFile} :
    decode v = .ok f ↔ v.field? "name" = some (.str f.name) ∧ f.Agrees v := by
  cases v with
  | obj fields =>
      simp only [decode, Except.map_eq_ok_iff, Prod.exists, both_eq_ok_iff, required_eq_ok_iff,
        optional_eq_ok_iff, text_eq_ok_iff, exists_eq_right]
      constructor
      · rintro ⟨name, content, kind, ⟨named, filled, told⟩, rfl⟩
        exact ⟨named, filled, (decodeKind_eq_ok_iff named).1 told⟩
      · rintro ⟨named, filled, told⟩
        exact ⟨f.name, f.content, f.kind, ⟨named, filled, (decodeKind_eq_ok_iff named).2 told⟩, rfl⟩
  | _ => exact iff_of_false (fun read => nomatch read) fun ⟨named, _⟩ => nomatch named

private theorem aborts_decode_iff {v : Json} : Aborts (decode v) ↔ NamedByNoText v := by
  cases v with
  | obj fields =>
      simp only [decode, aborts_map_iff, aborts_both_iff, aborts_required_iff, aborts_optional_iff,
        not_aborts_text, and_false, exists_false, false_or, aborts_decodeKind_iff]
  | _ => exact iff_of_false (not_aborts_fail _) fun odd => Bool.false_ne_true odd.present

end SourceFile

namespace CompileRequest

/-- What a value under a key of a request stands for. -/
inductive StandsFor (key : String) : Json → SourceFile → Prop
  /-- A text is the content of the file that the key names. -/
  | content (text : String) (named : key ≠ "") :
    StandsFor key (.str text) (.ofName key text)
  /-- An object that has a name stands for a file of this name. -/
  | named {fields : List (String × Json)} {f : SourceFile}
    (name : (Json.obj fields).field? "name" = some (.str f.name)) (present : f.name ≠ "")
    (agrees : f.Agrees (.obj fields)) : StandsFor key (.obj fields) f
  /-- An object whose name is left out, null, false, zero or empty stands for a file that
  the key names. -/
  | keyed {fields : List (String × Json)} {f : SourceFile}
    (nameless : ((Json.obj fields).field "name").isTruthy = false) (name : f.name = key)
    (agrees : f.Agrees (.obj fields)) : StandsFor key (.obj fields) f

/-- The value says the request: its framework, its files in their order, and its mode,
which may be left out. -/
structure Says (v : Json) (r : CompileRequest) : Prop where
  framework : v.field? "framework" = some (.str r.framework)
  files : ∃ fields entries, v.field? "files" = some (.obj fields) ∧
    List.Forall₂ (fun field entry => entry.1 = field.1 ∧ StandsFor field.1 field.2 entry.2)
      fields entries ∧ r.files = Keyed.ofList entries
  mode : v.field? "mode" = none ∧ r.mode = .development ∨ v.field? "mode" = some (.str r.mode.id)

/-- Some file of the request has a name that counts as present and is no text, and no
kind that counts. -/
def NamesNoText (v : Json) : Prop :=
  ∃ fields, v.field? "files" = some (.obj fields) ∧
    ∃ field ∈ fields, SourceFile.NamedByNoText field.2

/-- Giving an object the key for a name changes no other field. -/
theorem field?_put_name (fields : List (String × Json)) (key : String) {name : String}
    (other : name ≠ "name") :
    (Json.obj (Named.put "name" (.str key) fields)).field? name = (Json.obj fields).field? name :=
  Named.get?_put_of_ne other _ fields

private theorem agrees_put_name_iff {fields : List (String × Json)} {f : SourceFile}
    (key : String) :
    f.Agrees (.obj (Named.put "name" (.str key) fields)) ↔ f.Agrees (.obj fields) := by
  have content := field?_put_name fields key (by decide : "content" ≠ "name")
  have kind := field?_put_name fields key (by decide : "kind" ≠ "name")
  have same : (Json.obj (Named.put "name" (.str key) fields)).field "kind" =
      (Json.obj fields).field "kind" := congrArg (·.getD .null) kind
  constructor
  · rintro ⟨filled, told⟩
    exact ⟨content ▸ filled, kind ▸ same ▸ told⟩
  · rintro ⟨filled, told⟩
    exact ⟨content.symm ▸ filled, kind.symm ▸ same.symm ▸ told⟩

/-- A file agrees with a content alone if it has it, and the kind that its name tells. -/
theorem agrees_content_iff {key text : String} {f : SourceFile} :
    f.Agrees (.ofTexts [("name", key), ("content", text)]) ↔
      f.content = text ∧ f.name ≠ "" ∧ f.kind = FileKind.ofName f.name := by
  have content : (Json.ofTexts [("name", key), ("content", text)]).field? "content" =
      some (.str text) := rfl
  have kind : (Json.ofTexts [("name", key), ("content", text)]).field? "kind" = none := rfl
  constructor
  · rintro ⟨filled, told⟩
    simp only [content, reduceCtorEq, false_and, Option.some.injEq, Json.str.injEq,
      false_or] at filled
    simp only [kind, reduceCtorEq, false_or] at told
    exact ⟨filled.symm, told.2⟩
  · rintro ⟨rfl, named, told⟩
    exact ⟨.inr content, .inr ⟨rfl, named, told⟩⟩

/-- In full, a value under a key reads as the file that it stands for. -/
theorem decode_normalize_eq_ok_iff {key : String} {v : Json} {f : SourceFile} :
    SourceFile.decode (normalize key v) = .ok f ↔ StandsFor key v f := by
  rw [SourceFile.decode_eq_ok_iff]
  cases v with
  | str text =>
      change some (Json.str key) = some (.str f.name) ∧
        f.Agrees (.ofTexts [("name", key), ("content", text)]) ↔ _
      rw [agrees_content_iff, Option.some.injEq, Json.str.injEq]
      constructor
      · intro ⟨name, content, named, kind⟩
        have same : f = .ofName key text := by
          obtain ⟨_, _, _⟩ := f
          simp only at name content kind
          rw [kind, ← name, ← content, SourceFile.ofName]
        rw [← name] at named
        exact same ▸ .content text named
      · rintro ⟨_, named⟩
        simp only [SourceFile.ofName, ne_eq, named, not_false_eq_true, and_self]
  | obj fields =>
      by_cases present : ((Json.obj fields).field "name").isTruthy = true
      · simp only [normalize, present, ↓reduceIte]
        constructor
        · rintro ⟨named, agrees⟩
          rw [Json.field_eq_str_iff.2 named, Json.isTruthy_str] at present
          exact .named named present agrees
        · intro stands
          cases stands with
          | named named _ agrees => exact ⟨named, agrees⟩
          | keyed nameless => rw [nameless] at present; cases present
      · have named : (Json.obj (Named.put "name" (.str key) fields)).field? "name" =
            some (.str key) := Named.get?_put_self _ _ _
        simp only [normalize, present, Bool.false_eq_true, ↓reduceIte, named, Option.some.injEq,
          Json.str.injEq, agrees_put_name_iff]
        constructor
        · rintro ⟨rfl, agrees⟩
          exact .keyed (Bool.not_eq_true _ ▸ present) rfl agrees
        · intro stands
          cases stands with
          | named named nonempty =>
              rw [Json.field_eq_str_iff.2 named, Json.isTruthy_str] at present
              exact absurd nonempty present
          | keyed _ name agrees => exact ⟨name.symm, agrees⟩
  | _ => exact iff_of_false (fun read => nomatch read.1) fun stands => nomatch stands

/-- Putting a value in full does not give it a name that is no text. -/
theorem namedByNoText_normalize_iff {key : String} {v : Json} :
    SourceFile.NamedByNoText (normalize key v) ↔ SourceFile.NamedByNoText v := by
  cases v with
  | str text =>
      exact iff_of_false (fun odd => odd.noText key rfl) fun odd => Bool.false_ne_true odd.present
  | obj fields =>
      by_cases present : ((Json.obj fields).field "name").isTruthy = true
      · simp only [normalize, present, ↓reduceIte]
      · have named : (Json.obj (Named.put "name" (.str key) fields)).field? "name" =
            some (.str key) := Named.get?_put_self _ _ _
        simp only [normalize, present, Bool.false_eq_true, ↓reduceIte]
        exact iff_of_false (fun odd => odd.noText key (Json.field_eq_str_iff.2 named))
          fun odd => present odd.present
  | _ => rfl

private theorem decodeFiles_eq_ok_iff {v : Json} {files : SourceSet} :
    decodeFiles v = .ok files ↔ ∃ fields entries, v = .obj fields ∧
      List.Forall₂ (fun field entry => entry.1 = field.1 ∧ StandsFor field.1 field.2 entry.2)
        fields entries ∧ files = Keyed.ofList entries := by
  cases v with
  | obj fields =>
      have each (field : String × Json) (entry : String × SourceFile) :
          (below field.1 (SourceFile.decode (normalize field.1 field.2))).map
            (fun f => (field.1, f)) = .ok entry ↔
          entry.1 = field.1 ∧ StandsFor field.1 field.2 entry.2 := by
        simp only [Except.map_eq_ok_iff, below_eq_ok_iff, decode_normalize_eq_ok_iff]
        constructor
        · rintro ⟨f, stands, rfl⟩
          exact ⟨rfl, stands⟩
        · rintro ⟨name, stands⟩
          exact ⟨entry.2, stands, Prod.ext name.symm rfl⟩
      simp only [decodeFiles, Except.map_eq_ok_iff, all_eq_ok_iff, List.forall₂_map_left_iff, each,
        Json.obj.injEq]
      constructor
      · rintro ⟨entries, stand, rfl⟩
        exact ⟨fields, entries, rfl, stand, rfl⟩
      · rintro ⟨_, entries, rfl, stand, rfl⟩
        exact ⟨entries, stand, rfl⟩
  | _ => exact iff_of_false (fun read => nomatch read) fun ⟨_, _, same, _⟩ => nomatch same

private theorem aborts_decodeFiles_iff {v : Json} :
    Aborts (decodeFiles v) ↔ ∃ fields, v = .obj fields ∧
      ∃ field ∈ fields, SourceFile.NamedByNoText field.2 := by
  cases v with
  | obj fields =>
      simp [decodeFiles, aborts_map_iff, aborts_all_iff, aborts_below_iff,
        SourceFile.aborts_decode_iff, namedByNoText_normalize_iff]
  | _ => exact iff_of_false (not_aborts_fail _) fun ⟨_, same, _⟩ => nomatch same

/-- **What is read as a request.** A value is read as the request that it says, and
nothing else is. -/
theorem decode_eq_ok_iff {v : Json} {r : CompileRequest} : decode v = .ok r ↔ Says v r := by
  cases v with
  | obj fields =>
      simp only [decode, Except.map_eq_ok_iff, Prod.exists, both_eq_ok_iff, required_eq_ok_iff,
        optional_eq_ok_iff, text_eq_ok_iff, Mode.decode_eq_ok_iff, exists_eq_right,
        decodeFiles_eq_ok_iff]
      constructor
      · rintro ⟨framework, files, mode, ⟨named, ⟨_, listed, fields, entries, rfl, stand, held⟩,
          moded⟩, rfl⟩
        exact ⟨named, ⟨fields, entries, listed, stand, held⟩, moded⟩
      · rintro ⟨named, ⟨fields, entries, listed, stand, held⟩, moded⟩
        exact ⟨r.framework, r.files, r.mode,
          ⟨named, ⟨_, listed, fields, entries, rfl, stand, held⟩, moded⟩, rfl⟩
  | _ => exact iff_of_false (fun read => nomatch read) fun said => nomatch said.framework

/-- **What ends the check of a request.** It is a name that counts as present and is no
text, in a file without a kind that counts, whatever else is wrong with the value. -/
theorem aborts_decode_iff {v : Json} : Aborts (decode v) ↔ NamesNoText v := by
  cases v with
  | obj fields =>
      simp only [decode, aborts_map_iff, aborts_both_iff, aborts_required_iff, aborts_optional_iff,
        not_aborts_text, Mode.not_aborts_decode, and_false, exists_false, false_or, or_false,
        aborts_decodeFiles_iff, NamesNoText]
      constructor
      · rintro ⟨_, listed, fields, rfl, odd⟩
        exact ⟨fields, listed, odd⟩
      · rintro ⟨fields, listed, odd⟩
        exact ⟨_, listed, fields, rfl, odd⟩
  | _ => exact iff_of_false (not_aborts_fail _) fun ⟨_, listed, _⟩ => nomatch listed

/-- Every name in a request is a text. -/
theorem Says.not_namesNoText {v : Json} {r : CompileRequest} (said : Says v r) :
    ¬NamesNoText v := by
  rw [← aborts_decode_iff, decode_eq_ok_iff.2 said]
  exact not_aborts_ok r

end CompileRequest

end WebPreview
