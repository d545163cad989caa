import WebPreview.Remote

/-! # The compile service

Answers requests over HTTP. A source set that is posted is compiled; a compile that fails is
still an answer in good order, and only a request that cannot be built at all is refused. A fault
that nobody handles is an internal error.
-/

namespace WebPreview

/-- A request to the service. -/
structure HttpRequest where
  method : String := "POST"
  path : String := Remote.compilePath
  contentType : String := Remote.contentType
  body : List UInt8 := []

/-- The body of an answer. -/
inductive AnswerBody where
  | json (v : Json)
  | text (s : String)

/-- An answer of the service. -/
structure Answer where
  status : Nat
  body : AnswerBody

/-- What was posted. -/
inductive Posted where
  | nothing
  /-- Bytes that are not declared to be JSON. -/
  | otherType
  /-- A document with half of a surrogate pair in one of its texts. -/
  | torn
  | document (document : Except Json.BytesFault Json)

namespace Service

/-- The logger of the service. -/
def logger : String := "previewkit.service.app"

/-- The title of the service. -/
def title : String := "previewkit compile service"

/-- The path of the health check. -/
def healthPath : String := "/api/health"

/-- Whether a content type is that of a JSON document, parameters and case aside. -/
def isJsonType (contentType : String) : Bool :=
  let essence := Text.trimChars (contentType.toList.takeWhile (· != ';'))
  let essence := String.ofList (Text.lowerChars essence)
  match Text.splitOnChar '/' essence.toList with
  | [main, sub] =>
    String.ofList main == "application"
      && (String.ofList sub == "json" || Text.endsWith (String.ofList sub) "+json")
  | _ => false

/-- What a request posts. -/
def Posted.ofRequest (r : HttpRequest) : Posted :=
  if r.body.isEmpty then .nothing
  else if isJsonType r.contentType then ((Json.ofBytes? r.body).map .document).getD .torn
  else .otherType

/-- An answer that is an outcome. -/
def outcomeAnswer (status : Nat) (outcome : Outcome) : Answer := ⟨status, .json outcome.toJson⟩

/-- The refusal of a request that cannot be built. -/
def refusal (reason : Failure) : Answer := outcomeAnswer 400 (.failure reason)

/-- An answer that says in a few words what is wrong. -/
def detail (status : Nat) (message : String) : Answer :=
  ⟨status, .json (.ofTexts [("detail", message)])⟩

/-- The answer to a fault that nobody handles. -/
def internalError : Answer := ⟨500, .text "Internal Server Error"⟩

/-- What the service says of an issue. It takes any object with the fields of a model. -/
def issueMessage : Schema.Cause → String
  | .notModel _ => "Input should be a valid dictionary or object to extract fields from"
  | cause => cause.message

/-- The refusal of a body, by a place in it and what is wrong there. -/
def invalidBody (place : List String) (message : String) : Answer :=
  let place := String.intercalate "." (place.filter (· != "body"))
  let place := if place = "" then "" else place ++ ": "
  refusal ⟨"Invalid request body: " ++ place ++ message, unknownFile⟩

/-- The refusal of a value that is no request. Only the first issue is told. -/
def rejection : Schema.Rejection → Answer
  | .issues (issue :: _) => invalidBody issue.path (issueMessage issue.cause)
  | .issues [] => refusal ⟨"Invalid request body", unknownFile⟩
  | .nameIsNoText _ => internalError

/-- Compiles a request. An unknown framework is refused before anything else is done. -/
def compileAnswer (engine : ScriptEngine) (compiler : Compiler) (r : CompileRequest) :
    Build Answer := do
  match Framework.parse r.framework with
  | .error e => return refusal e.toFailure
  | .ok _ =>
    Build.log .info logger
      ("Compile request: framework=" ++ r.framework ++ " files=" ++ toString r.files.size)
    let outcome ← r.compile engine (some compiler)
    if let .failure reason := outcome then
      Build.log .info logger ("Compile failed at " ++ reason.file ++ ": " ++ reason.message)
    return outcomeAnswer 200 outcome

/-- The answer to a value that is posted. -/
def answerValue (engine : ScriptEngine) (compiler : Compiler) (v : Json) : Build Answer :=
  match CompileRequest.decode v with
  | .ok r => compileAnswer engine compiler r
  | .error why => pure (rejection why)

/-- The answer to what is posted. -/
def answerPosted (engine : ScriptEngine) (compiler : Compiler) (torn : Build Answer) :
    Posted → Build Answer
  | .nothing => pure (invalidBody [] Schema.Cause.missing.message)
  | .otherType => pure (rejection (.issues [⟨[], .notModel CompileRequest.modelName⟩]))
  | .torn => torn
  | .document (.ok v) => answerValue engine compiler v
  | .document (.error (.malformed position)) =>
    pure (invalidBody [toString position] "JSON decode error")
  | .document (.error _) => pure (detail 400 "There was an error parsing the body")

/-- The path without its query and without slashes at the end. -/
def plainPath (path : String) : String :=
  Text.dropTrailing '/' (String.ofList (path.toList.takeWhile fun c => c != '?' && c != '#'))

/-- The answer to a request, before a fault that nobody handles is answered. What is done with a
torn document is given. -/
def route (engine : ScriptEngine) (compiler : Compiler) (torn : HttpRequest → Build Answer)
    (r : HttpRequest) : Build Answer :=
  let path := plainPath r.path
  let endpoint? : Option (String × Build Answer) :=
    if path = healthPath then some ("GET", pure ⟨200, .json (.ofTexts [("status", "ok")])⟩)
    else if path = Remote.compilePath then
      some (Remote.method, answerPosted engine compiler (torn r) (Posted.ofRequest r))
    else none
  match endpoint? with
  | none => pure (detail 404 "Not Found")
  | some (method, answer) =>
    if r.method = method then answer else pure (detail 405 "Method Not Allowed")

/-- The answer as it is sent: a request for the head alone gets no body. -/
def Answer.sent (r : HttpRequest) (answer : Answer) : Answer :=
  if r.method = "HEAD" then { answer with body := .text "" } else answer

/-- The answer to a request. -/
def handle (engine : ScriptEngine) (compiler : Compiler) (torn : HttpRequest → Build Answer)
    (r : HttpRequest) : Build Answer := do
  match ← Build.attempt (route engine compiler torn r) with
  | .ok answer => return Answer.sent r answer
  | .error _ => return Answer.sent r internalError

/-- What a client reads in an answer. -/
def Answer.toResponse (answer : Answer) : Http.Response where
  status := answer.status
  body := match answer.body with
    | .json v => .ok v
    | .text _ => .error (.malformed 0)

/-- The transport that posts every payload to the service, written as bytes, and brings the answer
back as it is. -/
def transport (engine : ScriptEngine) (compiler : Compiler) (torn : HttpRequest → Build Answer)
    (encode : Json → List UInt8) : Transport := fun _ payload => do
  let answer ← handle engine compiler torn { body := encode payload }
  return Answer.toResponse answer

end Service

end WebPreview
