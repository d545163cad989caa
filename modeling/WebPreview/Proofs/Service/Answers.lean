import WebPreview.Proofs.Pipeline.Faults
import WebPreview.Proofs.Schema.Validity
import WebPreview.Proofs.Service.Hop

/-! # How the service answers what is posted

A document that is posted is answered in one of three ways
(`WebPreview.Service.handle_posted`). A request for a framework that there is gets the
outcome of its build. A value that is no such request is refused with a failure. The one
exception is a value whose check ends at a file name that is no text: nobody handles
that, so the answer is an internal error
(`WebPreview.Service.handle_listedName`).

The script engine is assumed to stop with nothing but refusals of its sources. The
compiler may do anything. What a document with half of a surrogate pair in one of its texts
is answered is given.
-/

namespace WebPreview.Service

variable {engine : ScriptEngine} {compiler : Compiler}

@[simp] private theorem status_outcomeAnswer (status : Nat) (outcome : Outcome) :
    (outcomeAnswer status outcome).status = status := rfl

@[simp] private theorem status_refusal (reason : Failure) : (refusal reason).status = 400 := rfl

@[simp] private theorem status_internalError : internalError.status = 500 := rfl

/-- The value says a request for a framework that there is. -/
def Compilable (v : Json) : Prop :=
  ∃ r framework, CompileRequest.Says v r ∧ Framework.parse r.framework = .ok framework

/-- The answer to a value: which status it has and what its body is. -/
structure Answered (engine : ScriptEngine) (compiler : Compiler) (v : Json) (answer : Answer) :
    Prop where
  ok_iff : answer.status = 200 ↔ Compilable v
  refused_iff : answer.status = 400 ↔ ¬Compilable v ∧ ¬CompileRequest.NamesNoText v
  internal_iff : answer.status = 500 ↔ CompileRequest.NamesNoText v
  /-- The build of the request, whatever it comes to, is the body of the answer. -/
  compiled : answer.status = 200 → ∃ r outcome, CompileRequest.Says v r ∧
    (r.compile engine (some compiler)).run.value = .ok outcome ∧ answer = outcomeAnswer 200 outcome
  refused : answer.status = 400 → ∃ reason, answer = refusal reason
  internal : answer.status = 500 → answer = internalError

namespace Answered

variable {v : Json}

private theorem of_compiled {r : CompileRequest} {framework : Framework} {outcome : Outcome}
    (said : CompileRequest.Says v r) (named : Framework.parse r.framework = .ok framework)
    (built : (r.compile engine (some compiler)).run.value = .ok outcome) :
    Answered engine compiler v (outcomeAnswer 200 outcome) := by
  have good : Compilable v := ⟨r, framework, said, named⟩
  exact {
    ok_iff := iff_of_true rfl good
    refused_iff := iff_of_false (by simp) fun neither => neither.1 good
    internal_iff := iff_of_false (by simp) said.not_namesNoText
    compiled := fun _ => ⟨r, outcome, said, built, rfl⟩
    refused := fun other => absurd other (by simp)
    internal := fun other => absurd other (by simp) }

private theorem of_refused (bad : ¬Compilable v) (fine : ¬CompileRequest.NamesNoText v)
    (reason : Failure) : Answered engine compiler v (refusal reason) where
  ok_iff := iff_of_false (by simp) bad
  refused_iff := iff_of_true rfl ⟨bad, fine⟩
  internal_iff := iff_of_false (by simp) fine
  compiled other := absurd other (by simp)
  refused _ := ⟨reason, rfl⟩
  internal other := absurd other (by simp)

private theorem of_internal (odd : CompileRequest.NamesNoText v) :
    Answered engine compiler v internalError where
  ok_iff := iff_of_false (by simp) fun ⟨_, _, said, _⟩ => said.not_namesNoText odd
  refused_iff := iff_of_false (by simp) fun neither => neither.2 odd
  internal_iff := iff_of_true rfl odd
  compiled other := absurd other (by simp)
  refused other := absurd other (by simp)
  internal _ := rfl

end Answered

private theorem value_compileAnswer_of_error {r : CompileRequest} {e : PreviewError}
    (unknown : Framework.parse r.framework = .error e) :
    (compileAnswer engine compiler r).run.value = .ok (refusal e.toFailure) := by
  simp only [compileAnswer, unknown, Build.value_pure]

/-- A refusal because of what is wrong with a value is a failure, as long as the check
did not end at a name. -/
theorem exists_rejection_eq_refusal (why : Schema.Rejection)
    (fine : ∀ type, why ≠ .nameIsNoText type) : ∃ reason, rejection why = refusal reason := by
  cases why with
  | issues found =>
      cases found with
      | nil => exact ⟨_, rfl⟩
      | cons issue rest => exact ⟨_, rfl⟩
  | nameIsNoText type => exact absurd rfl (fine type)

/-- Every value that is posted is answered. -/
theorem answered_answerValue (refuses : engine.OnlyRefuses) (compiler : Compiler) (v : Json) :
    ∃ answer, (answerValue engine compiler v).run.value = .ok answer ∧
      Answered engine compiler v answer := by
  cases read : CompileRequest.decode v with
  | ok r =>
      have said := CompileRequest.decode_eq_ok_iff.1 read
      simp only [answerValue, read]
      cases named : Framework.parse r.framework with
      | ok framework =>
          obtain ⟨outcome, built⟩ :=
            Pipeline.exists_value_compile refuses (some compiler) r.framework r.files
          have value : (compileAnswer engine compiler r).run.value =
              .ok (outcomeAnswer 200 outcome) := by
            rw [value_compileAnswer engine compiler named, CompileRequest.compile, built]
            rfl
          exact ⟨_, value, .of_compiled said named built⟩
      | error e =>
          have bad : ¬Compilable v := by
            rintro ⟨other, framework, also, known⟩
            obtain rfl := Except.ok.inj (read.symm.trans (CompileRequest.decode_eq_ok_iff.2 also))
            rw [named] at known
            cases known
          exact ⟨_, value_compileAnswer_of_error named, .of_refused bad said.not_namesNoText _⟩
  | error why =>
      have bad : ¬Compilable v := by
        rintro ⟨r, _, said, _⟩
        rw [CompileRequest.decode_eq_ok_iff.2 said] at read
        cases read
      simp only [answerValue, read, Build.value_pure]
      refine ⟨_, rfl, ?_⟩
      by_cases odd : CompileRequest.NamesNoText v
      · obtain ⟨type, aborted⟩ := CompileRequest.aborts_decode_iff.2 odd
        obtain rfl := Except.error.inj (read.symm.trans aborted)
        exact .of_internal odd
      · obtain ⟨reason, same⟩ := exists_rejection_eq_refusal why fun type same =>
          odd (CompileRequest.aborts_decode_iff.1 ⟨type, same ▸ read⟩)
        exact same ▸ .of_refused bad odd reason

/-- What answers a post to the endpoint is sent as it is. -/
theorem value_handle_posted {torn : HttpRequest → Build Answer} {r : HttpRequest}
    (method : r.method = Remote.method) (path : plainPath r.path = Remote.compilePath)
    {answer : Answer}
    (answered : (answerPosted engine compiler (torn r) (Posted.ofRequest r)).run.value =
      .ok answer) :
    (handle engine compiler torn r).run.value = .ok answer := by
  have whole : Answer.sent r answer = answer := by
    have notHead : r.method ≠ "HEAD" := by rw [method]; decide
    simp only [Answer.sent, notHead, ↓reduceIte]
  simp only [handle, route_posted method path, Build.value_bind, Build.value_attempt, answered,
    Except.bind, Build.value_pure, whole]

/-- Bytes that are no JSON are refused with a failure, none at all included; bytes that
the reader gives up on are refused without. -/
theorem value_answerPosted_of_error (engine : ScriptEngine) (compiler : Compiler)
    (torn : Build Answer) {r : HttpRequest} {why : Json.BytesFault}
    (typed : isJsonType r.contentType = true) (read : Json.ofBytes? r.body = some (.error why)) :
    ∃ answer, (answerPosted engine compiler torn (Posted.ofRequest r)).run.value = .ok answer ∧
      (∀ position, why = .malformed position → ∃ reason, answer = refusal reason) ∧
      ((∀ position, why ≠ .malformed position) →
        answer = detail 400 "There was an error parsing the body") := by
  cases bytes : r.body with
  | nil =>
      rw [bytes] at read
      obtain ⟨position, malformed⟩ : ∃ position, why = .malformed position :=
        ⟨_, (Except.error.inj (Option.some.inj read)).symm⟩
      simp only [Posted.ofRequest, bytes, List.isEmpty_nil, ↓reduceIte]
      exact ⟨_, rfl, fun _ _ => ⟨_, rfl⟩, fun unlike => absurd malformed (unlike position)⟩
  | cons byte rest =>
      rw [bytes] at read
      simp only [Posted.ofRequest, bytes, List.isEmpty_cons, typed, read, Bool.false_eq_true,
        ↓reduceIte]
      cases why with
      | malformed position =>
          exact ⟨_, rfl, fun _ _ => ⟨_, rfl⟩, fun unlike => absurd rfl (unlike position)⟩
      | unreadable => exact ⟨_, rfl, fun _ same => (by cases same), fun _ => rfl⟩
      | tooDeep inArray => exact ⟨_, rfl, fun _ same => (by cases same), fun _ => rfl⟩

/-- **How a posted document is answered.** A JSON value is answered with the outcome of
its build if it says a request for a framework that there is, with an internal error if
some file has a name that counts as present and is no text and no kind that counts, and
with a failure in every other case, whatever the compiler does. A body that is no JSON is
refused with a failure, and one that the reader gives up on is refused without. This
leaves out the bodies that are documents with half of a surrogate pair in one of their
texts, which stands for no character. -/
theorem handle_posted (refuses : engine.OnlyRefuses) (compiler : Compiler)
    (torn : HttpRequest → Build Answer) {r : HttpRequest} (method : r.method = Remote.method)
    (path : plainPath r.path = Remote.compilePath) (typed : isJsonType r.contentType = true) :
    (∀ v, Json.ofBytes? r.body = some (.ok v) →
      ∃ answer, (handle engine compiler torn r).run.value = .ok answer ∧
        Answered engine compiler v answer) ∧
    (∀ why, Json.ofBytes? r.body = some (.error why) →
      ∃ answer, (handle engine compiler torn r).run.value = .ok answer ∧
        (∀ position, why = .malformed position → ∃ reason, answer = refusal reason) ∧
        ((∀ position, why ≠ .malformed position) →
          answer = detail 400 "There was an error parsing the body")) := by
  constructor
  · intro v read
    obtain ⟨answer, value, answered⟩ := answered_answerValue refuses compiler v
    refine ⟨answer, value_handle_posted method path ?_, answered⟩
    rw [ofRequest_of_ok typed read]
    exact value
  · intro why read
    obtain ⟨answer, value, refused⟩ :=
      value_answerPosted_of_error engine compiler (torn r) typed read
    exact ⟨answer, value_handle_posted method path value, refused⟩

/-- A page without an entry. -/
def plainPage : Json :=
  .obj [("framework", .str "vanilla"), ("files", .obj [("index.html", .str "<p></p>")])]

set_option maxRecDepth 6000 in
/-- A page is answered with its document, though the script engine refuses everything
and the compiler raises a fault. -/
theorem handle_posted_plainPage :
    let engine : ScriptEngine := fun _ => .error (.scriptEngine "refused")
    let compiler : Compiler := fun _ _ => throw (.other "OSError" "gone")
    let torn : HttpRequest → Build Answer := fun _ => pure internalError
    let r : HttpRequest := { body := Pipeline.asciiBytes plainPage }
    engine.OnlyRefuses ∧ r.method = Remote.method ∧ plainPath r.path = Remote.compilePath ∧
      isJsonType r.contentType = true ∧ Json.ofBytes? r.body = some (.ok plainPage) ∧
      ∃ answer, (handle engine compiler torn r).run.value = .ok answer ∧ answer.status = 200 := by
  intro engine compiler torn r
  have refuses : engine.OnlyRefuses := fun _ _ raised => ⟨_, (Except.error.inj raised).symm⟩
  have path : plainPath r.path = Remote.compilePath := by decide
  have typed : isJsonType r.contentType = true := by decide
  have said : CompileRequest.Says plainPage
      ⟨"vanilla", .ofContents [("index.html", "<p></p>")], .development⟩ :=
    CompileRequest.decode_eq_ok_iff.1 rfl
  have read : Json.ofBytes? r.body = some (.ok plainPage) := rfl
  obtain ⟨answer, value, answered⟩ :=
    (handle_posted refuses compiler torn rfl path typed).1 plainPage read
  exact ⟨refuses, rfl, path, typed, read, answer, value,
    answered.ok_iff.2 ⟨_, .vanilla, said, rfl⟩⟩

/-- A request with a list for a file name. -/
def listedName : Json :=
  .obj [("framework", .str "vanilla"),
    ("files", .obj [("a.css", .obj [("name", .arr [.str "a.css"])])])]

set_option maxRecDepth 6000 in
/-- A list for a file name is no valid request, and yet it is not refused. -/
theorem handle_listedName :
    let r : HttpRequest := { body := Pipeline.asciiBytes listedName }
    let compiler : Compiler := fun _ _ => pure none
    Json.ofBytes? r.body = some (.ok listedName) ∧ ¬Compilable listedName ∧
      ∀ torn, (handle .ok compiler torn r).run.value = .ok internalError ∧
        internalError.status = 500 := by
  intro r compiler
  have read : Json.ofBytes? r.body = some (.ok listedName) := rfl
  have aborted : CompileRequest.decode listedName = .error (.nameIsNoText "list") := rfl
  have typed : isJsonType r.contentType = true := by decide
  refine ⟨read, ?_, fun torn => ⟨value_handle_posted rfl (by decide) ?_, rfl⟩⟩
  · rintro ⟨request, _, said, _⟩
    rw [CompileRequest.decode_eq_ok_iff.2 said] at aborted
    cases aborted
  · rw [ofRequest_of_ok typed read]
    simp only [answerPosted, answerValue, aborted, Build.value_pure, rejection]

end WebPreview.Service
