/-! # Errors of a build

Why a build cannot go on. Every error says which file it is about, `unknown` if it is about none.
-/

namespace WebPreview

/-- The file name that stands for no file in particular. -/
def unknownFile : String := "unknown"

/-- What kind of thing went wrong. -/
inductive PreviewError.Kind where
  /-- A file that the framework needs is not there. -/
  | missingEntry
  /-- No framework has the identifier. -/
  | unsupportedFramework
  /-- The script engine refuses the source. -/
  | transform
  /-- A compiler outside this process cannot be reached or gives up. -/
  | remoteUnavailable
  /-- Anything else about the preview. -/
  | general
deriving DecidableEq, Repr

/-- Why a build cannot go on, and the file it is about. -/
structure PreviewError where
  kind : PreviewError.Kind
  message : String
  file : String := unknownFile
deriving DecidableEq, Repr

/-- The identifier names no framework. -/
def PreviewError.unsupported (identifier : String) : PreviewError :=
  ⟨.unsupportedFramework, "Unsupported framework: " ++ identifier, unknownFile⟩

/-- How a transport fails: the kinds of fault that say no more than that, and those that say what
it was. -/
inductive Raised.Transport where
  | httpError
  | httpStatusError
  | requestError
  | transportError
  | timeoutException
  | networkError
  | protocolError
  | readTimeout
  | connectTimeout
  | writeTimeout
  | poolTimeout
  | connectError
  | readError
  | writeError
  | closeError
  | remoteProtocolError
  | localProtocolError
  | unsupportedProtocol
  | proxyError
  | decodingError
  | tooManyRedirects
  /-- The URL is none, so that nothing was asked. -/
  | invalidUrl
deriving DecidableEq, Repr

/-- Whether the transport gave up waiting. -/
def Raised.Transport.isTimeout : Raised.Transport → Bool
  | .timeoutException | .readTimeout | .connectTimeout | .writeTimeout | .poolTimeout => true
  | _ => false

/-- A fault that stops a step: an error of the build itself, or one that an engine outside of it
raised. -/
inductive Raised where
  /-- An error of the build. -/
  | preview (error : PreviewError)
  /-- The script engine refused the source. -/
  | scriptEngine (message : String)
  /-- The container image is not on this machine. -/
  | imageNotFound (message : String)
  /-- The transport did not deliver the request or its answer. -/
  | transport (fault : Raised.Transport) (message : String)
  /-- Any other fault, by the name of its class. -/
  | other (className message : String)
deriving DecidableEq, Repr

/-- How many calls there is room for inside one another, where nothing else is said of it. -/
def usualRoom : Nat := 980

/-- What the fault says. -/
def Raised.message : Raised → String
  | .preview e => e.message
  | .scriptEngine m | .imageNotFound m | .transport _ m | .other _ m => m

end WebPreview
