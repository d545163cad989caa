import WebPreview.Json.Printer
import WebPreview.Proofs.Pipeline.Consult
import WebPreview.Proofs.Schema.RoundTrip
import WebPreview.Service

/-! # A compiler behind a service

Putting a compiler behind the compile service and asking the service instead makes
no difference to what a build comes to (`WebPreview.Pipeline.compile_through_service`).
The service runs the same pipeline, so it answers with the document of its compiler
or with what the files come to in its own process; either way the build that asked
ends where it would have ended with the compiler at hand.

How JSON is written as bytes is a parameter. All that is assumed of it is that the
service reads back what the client wrote. What the service does with a document that
has half of a surrogate pair in it plays no part.
-/

namespace WebPreview

namespace Service

/-- What a client reads of a request that was compiled: the outcome, or that the
service failed. -/
def responseTo : Except Raised Outcome → Http.Response
  | .ok outcome => ⟨200, .ok outcome.toJson⟩
  | .error _ => ⟨500, .error (.malformed 0)⟩

/-- A request for a framework that there is gets the outcome of its build. -/
theorem value_compileAnswer (engine : ScriptEngine) (compiler : Compiler) {r : CompileRequest}
    {framework : Framework} (named : Framework.parse r.framework = .ok framework) :
    (compileAnswer engine compiler r).run.value =
      (r.compile engine (some compiler)).run.value.map (outcomeAnswer 200) := by
  simp only [compileAnswer, named, Build.value_bind, Build.value_log, Except.bind]
  cases (r.compile engine (some compiler)).run.value with
  | error fault => rfl
  | ok outcome => cases outcome <;> rfl

/-- The bytes of a document are not empty. -/
theorem isEmpty_of_ofBytes? {bytes : List UInt8} {v : Json}
    (read : Json.ofBytes? bytes = some (.ok v)) : bytes.isEmpty = false := by
  cases bytes with
  | nil => cases read
  | cons byte rest => rfl

/-- A typed body that reads as a value is posted as that value. -/
theorem ofRequest_of_ok {r : HttpRequest} {v : Json} (typed : isJsonType r.contentType = true)
    (read : Json.ofBytes? r.body = some (.ok v)) : Posted.ofRequest r = .document (.ok v) := by
  simp only [Posted.ofRequest, isEmpty_of_ofBytes? read, typed, read, Bool.false_eq_true,
    ↓reduceIte]
  rfl

/-- A post to the endpoint is answered by what is posted. -/
theorem route_posted {engine : ScriptEngine} {compiler : Compiler}
    {torn : HttpRequest → Build Answer} {r : HttpRequest}
    (method : r.method = Remote.method) (path : plainPath r.path = Remote.compilePath) :
    route engine compiler torn r =
      answerPosted engine compiler (torn r) (Posted.ofRequest r) := by
  have other : Remote.compilePath ≠ healthPath := by decide
  simp only [route, path, other, ↓reduceIte, method]

/-- The answer to the files that a client posts is what the service's own build of
them comes to. -/
theorem value_transport (engine : ScriptEngine) (compiler : Compiler)
    (torn : HttpRequest → Build Answer) {encode : Json → List UInt8} {framework : Framework}
    {files : SourceSet} (named : ∀ entry ∈ files.entries, entry.2.name ≠ "")
    (read : Json.ofBytes? (encode (Remote.payload framework files)) =
      some (.ok (Remote.payload framework files))) (url : String) :
    (transport engine compiler torn encode url (Remote.payload framework files)).run.value =
      .ok (responseTo
        (Pipeline.compile engine (some compiler) framework.id files).run.value) := by
  have path : plainPath Remote.compilePath = Remote.compilePath := by decide
  have typed : isJsonType Remote.contentType = true := by decide
  have routed : route engine compiler torn { body := encode (Remote.payload framework files) } =
      compileAnswer engine compiler ⟨framework.id, files, .development⟩ := by
    rw [route_posted (r := { body := _ }) rfl path, ofRequest_of_ok (r := { body := _ }) typed read]
    simp only [answerPosted, answerValue, CompileRequest.decode_payload framework named]
  simp only [transport, handle, Build.value_bind, Build.value_attempt, Except.bind, routed,
    value_compileAnswer engine compiler (r := ⟨framework.id, files, .development⟩)
      framework.parse_id, CompileRequest.compile]
  cases (Pipeline.compile engine (some compiler) framework.id files).run.value with
  | ok outcome => rfl
  | error fault => rfl

end Service

namespace Remote

/-- An outcome that the service answers with is the outcome of asking it. -/
theorem read_responseTo_ok (outcome : Outcome) :
    read (Service.responseTo (.ok outcome)) = .ok (.ok outcome) := by
  have unrefused : (Service.responseTo (.ok outcome)).isError = false := rfl
  have body : (Service.responseTo (.ok outcome)).body = .ok outcome.toJson := rfl
  simp only [read, unrefused, body, Outcome.decode_toJson, Bool.false_eq_true, ↓reduceIte]

/-- What a client has of the service's build: its outcome, or a failure of the
client's own. -/
def toldBy : Except Raised Outcome → Outcome
  | .ok outcome => outcome
  | .error _ => .failure (RemoteFault.refused 500).toFailure

private theorem value_compiler {transport : Transport} {framework : Framework} {files : SourceSet}
    (remote : Remote) {result : Except Raised Outcome}
    (answered : (transport remote.endpoint (payload framework files)).run.value =
      .ok (Service.responseTo result)) :
    (remote.compiler transport framework files).run.value =
      .ok (some (.outcome (toldBy result))) := by
  simp only [compiler, ask, Build.value_bind, Build.value_emit, Build.value_attempt, answered,
    Except.bind]
  cases result with
  | ok outcome =>
      simp only [Build.value_ofExcept, read_responseTo_ok]
      rfl
  | error fault => rfl

end Remote

namespace Pipeline

variable {engine : ScriptEngine} {selection : Selection}

/-- Being told what a build of the same selection came to changes nothing. -/
theorem outcomeAfter_toldBy (answer : Option Reply) :
    outcomeAfter engine selection
        (some (.outcome (Remote.toldBy (outcomeAfter engine selection answer)))) =
      outcomeAfter engine selection answer := by
  by_cases success : ∃ html, answer = some (.outcome (.success html))
  · obtain ⟨html, rfl⟩ := success
    rfl
  · have ownWay : outcomeAfter engine selection answer = localOutcome engine selection :=
      outcomeAfter_of_no_success engine selection fun html same => success ⟨html, same⟩
    rw [ownWay]
    cases result : localOutcome engine selection with
    | error fault => exact result
    | ok outcome =>
        cases outcome with
        | success html => rfl
        | failure reason => exact result

/-- **The service in between changes nothing.** A build whose compiler is a client
of a service that runs some compiler comes to the same outcome, or stops with the
same fault, as a build that has this compiler itself. What the client sends reads
back as the framework and the files, and what the service answers reads back as the
outcome. -/
theorem compile_through_service (engine : ScriptEngine) (compiler : Compiler) (remote : Remote)
    (torn : HttpRequest → Build Answer) (encode : Json → List UInt8) (id : String)
    (files : SourceSet) (named : ∀ entry ∈ files.entries, entry.2.name ≠ "")
    (transported : ∀ framework, Framework.parse id = .ok framework →
      Json.ofBytes? (encode (Remote.payload framework files)) =
        some (.ok (Remote.payload framework files))) :
    (compile engine (some (remote.compiler (Service.transport engine compiler torn encode))) id
        files).run.value = (compile engine (some compiler) id files).run.value ∧
    (∀ framework, CompileRequest.decode (Remote.payload framework files) =
      .ok ⟨framework.id, files, .development⟩) ∧
    ∀ outcome : Outcome, Outcome.decode outcome.toJson = .ok outcome := by
  refine ⟨?_, fun framework => CompileRequest.decode_payload framework named,
    Outcome.decode_toJson⟩
  cases chosen : (State.start id files).choose with
  | error e => rw [value_compile_of_error chosen, value_compile_of_error chosen]
  | ok found =>
      obtain ⟨framework, selection⟩ := found
      rw [value_compile_of_ok chosen, value_compile_of_ok chosen]
      by_cases complex : State.entryNeedsFullCompile selection = true
      · -- The service chooses the same files, because it is sent the framework's own identifier.
        obtain ⟨parsed, resolved⟩ := choose_eq_ok_iff.1 chosen
        obtain rfl := Selection.framework_of_resolve resolved
        have again := choose_eq_ok_iff.2 ⟨selection.framework.parse_id, resolved⟩
        have answered := Service.value_transport engine compiler torn named
          (transported selection.framework parsed) remote.endpoint
        rw [value_compile_of_ok again] at answered
        have told := remote.value_compiler answered
        have asked :
            answer? (some (remote.compiler (Service.transport engine compiler torn encode)))
              selection files = some (.outcome (Remote.toldBy
                (outcomeAfter engine selection (answer? (some compiler) selection files)))) := by
          simp only [answer?, complex, ↓reduceIte, Option.bind_some, State.answerOf] at told ⊢
          rw [told]
        rw [asked, outcomeAfter_toldBy]
      · simp only [answer?, complex, Bool.false_eq_true, ↓reduceIte]

/-- A document as the bytes of its one line of ASCII. -/
def asciiBytes (v : Json) : List UInt8 := (Json.print v).toList.map fun c => UInt8.ofNat c.toNat

set_option maxRecDepth 6000 in
/-- A compiler that raises a fault does so on the other side of the service, too. -/
theorem compile_through_service_raising :
    let raising : Compiler := fun _ _ => throw (.other "OSError" "gone")
    let remote : Remote := ⟨"http://localhost:8000", .whole 10⟩
    let torn : HttpRequest → Build Answer := fun _ => pure Service.internalError
    (∀ entry ∈ importing.entries, entry.2.name ≠ "") ∧
    (∀ framework, Framework.parse "react" = .ok framework →
      Json.ofBytes? (asciiBytes (Remote.payload framework importing)) =
        some (.ok (Remote.payload framework importing))) ∧
    (compile .ok (some (remote.compiler (Service.transport .ok raising torn asciiBytes))) "react"
      importing).run.value = (compile .ok (some raising) "react" importing).run.value := by
  have named : ∀ entry ∈ importing.entries, entry.2.name ≠ "" := by decide
  have transported : ∀ framework, Framework.parse "react" = .ok framework →
      Json.ofBytes? (asciiBytes (Remote.payload framework importing)) =
        some (.ok (Remote.payload framework importing)) := by
    intro framework parsed
    cases framework with
    | react => rfl
    | _ => cases parsed
  intro raising remote torn
  exact ⟨named, transported, (compile_through_service .ok raising remote torn asciiBytes "react"
    importing named transported).1⟩

end Pipeline

end WebPreview
