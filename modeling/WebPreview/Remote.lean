import WebPreview.CompileRequest
import WebPreview.Http.Response
import WebPreview.Outcome.Codec

/-! # The compiler behind a service

A compiler that sends the files to a compile service and takes its answer. The service is the
authority: only an answer of its own, in the shape of an outcome, counts. Whatever goes wrong on
the way becomes a failure, so that the caller can fall back, all but the faults that are not the
transport's.
-/

namespace WebPreview

/-- Delivers a payload to a URL and brings the answer back. -/
abbrev Transport := (url : String) → (payload : Json) → Build Http.Response

/-- Why the service gave no answer that counts. -/
inductive RemoteFault where
  | timedOut (limit : Seconds)
  | unreachable (reason : String)
  | refused (status : Nat)
  | noJson
  /-- The transport says so itself. -/
  | unavailable (message file : String)
  /-- An answer in no known shape. -/
  | malformed

namespace RemoteFault

/-- What is wrong, in words. -/
def message : RemoteFault → String
  | timedOut limit => "Compile service timed out after " ++ limit.short ++ "s"
  | unreachable reason => "Compile service unreachable: " ++ reason
  | refused status => "Server compilation failed: " ++ toString status ++ " " ++ Http.phrase status
  | noJson => "Compile service returned a non-JSON body"
  | unavailable message _ => message
  | malformed => "Compile service returned a malformed payload"

/-- The failure that the caller gets. -/
def toFailure : RemoteFault → Failure
  | unavailable message file => ⟨message, file⟩
  | fault => ⟨fault.message, unknownFile⟩

/-- What is written to the log. -/
def logMessage : RemoteFault → String
  | malformed => malformed.message
  | fault => "Compile service unavailable: " ++ fault.message

end RemoteFault

/-- A compile service and how long to wait for it. -/
structure Remote where
  /-- Where the service is, without a slash at the end. -/
  baseUrl : String
  limit : Seconds

namespace Remote

/-- The logger of the client. -/
def logger : String := "previewkit.service.client"

/-- The path of the compile endpoint. -/
def compilePath : String := "/api/compile"

/-- The method of every request. -/
def method : String := "POST"

/-- The type of every request's body. -/
def contentType : String := "application/json"

/-- How long to wait unless told otherwise. -/
def defaultLimit : Seconds := .real 10.0

/-- The service at a URL. -/
def ofUrl (url : String) (limit : Seconds) : Remote := ⟨Text.dropTrailing '/' url, limit⟩

/-- The URL that requests go to. -/
def endpoint (r : Remote) : String := r.baseUrl ++ compilePath

/-- What the service is sent. -/
def payload (framework : Framework) (files : SourceSet) : Json :=
  .obj [("framework", .str framework.id), ("files", CompileRequest.filesToJson files)]

/-- The fault of a limit that is too large for its short form. -/
def unshown : Raised := .other "OverflowError" "int too large to convert to float"

/-- Why a transport did not bring an answer, if that is one of the ways it may fail. Any other fault
goes on. -/
def ofTransport (limit : Seconds) (fault : Raised) : Except Raised RemoteFault :=
  match fault with
  | .transport kind reason =>
    if kind.isTimeout then if limit.fits then .ok (.timedOut limit) else .error unshown
    else if kind = .invalidUrl then .error fault
    else .ok (.unreachable reason)
  | .preview ⟨.remoteUnavailable, message, file⟩ => .ok (.unavailable message file)
  | _ => .error fault

/-- The fault of a document that goes too deep for its reader. -/
def tooDeep (inArray : Bool) : Raised :=
  .other "RecursionError" ("maximum recursion depth exceeded while decoding a JSON "
    ++ (if inArray then "array" else "object") ++ " from a unicode string")

/-- What an answer says. -/
def read (response : Http.Response) : Except Raised (Except RemoteFault Outcome) :=
  if response.isError then .ok (.error (.refused response.status))
  else match response.body with
    | .error (.tooDeep inArray) => .error (tooDeep inArray)
    | .error _ => .ok (.error .noJson)
    | .ok v =>
      match Outcome.decode v with
      | .ok outcome => .ok (.ok outcome)
      | .error _ => .ok (.error .malformed)

/-- Sends the files and reads the answer. -/
def ask (r : Remote) (transport : Transport) (framework : Framework) (files : SourceSet) :
    Build (Except RemoteFault Outcome) := do
  let body := payload framework files
  Build.emit (.request ⟨r.endpoint, body⟩)
  match ← Build.attempt (transport r.endpoint body) with
  | .ok response => Build.ofExcept (read response)
  | .error fault => return .error (← Build.ofExcept (ofTransport r.limit fault))

/-- The compiler that asks the service. -/
def compiler (r : Remote) (transport : Transport) : Compiler := fun framework files => do
  match ← r.ask transport framework files with
  | .ok outcome => return some (.outcome outcome)
  | .error fault =>
    Build.log .warning logger fault.logMessage
    return some (.outcome (.failure fault.toFailure))

end Remote

end WebPreview
