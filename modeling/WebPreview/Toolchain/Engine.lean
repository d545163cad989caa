import WebPreview.Bytes.Utf8
import WebPreview.Event
import WebPreview.Json.Shown

/-! # The container engine

What the container engine does when it is called. Every call may fault, and a container's wait
may end in any value; nothing more is known of either.
-/

namespace WebPreview

/-- What a container does. -/
structure ContainerBehaviour where
  run : Except Raised Unit := .ok ()
  wait : Except Raised Json := .ok (.obj [("StatusCode", .int 0)])
  /-- The standard output, or the error output. -/
  logs : (errors : Bool) → Except Raised (List UInt8) := fun _ => .ok []
  stop : Except Raised Unit := .ok ()
  remove : Except Raised Unit := .ok ()

/-- What the container engine does. -/
structure ContainerEngine where
  /-- Reaches the engine. -/
  connect : Except Raised Unit := .ok ()
  ping : Except Raised Unit := .ok ()
  imageGet : Except Raised Unit := .ok ()
  imagePull : Except Raised Unit := .ok ()
  container : Container → ContainerBehaviour := fun _ => {}

namespace ContainerEngine

/-- The engine on a machine that cannot talk to any. -/
def absent : ContainerEngine where
  connect := .error (.preview ⟨.remoteUnavailable,
    "Docker Python SDK not installed. Run: pip install docker", unknownFile⟩)

end ContainerEngine

/-- What a wait says of the status that a container ended with. -/
structure ExitStatus where
  value : Json

namespace ExitStatus

/-- The name of the status in what a wait ends in. -/
def fieldName : String := "StatusCode"

/-- The status that stands for a missing one. -/
def missing : Json := .int (-1)

/-- The status in what a wait ends in. -/
def ofWait (v : Json) : Except Raised ExitStatus :=
  match v with
  | .obj _ => .ok ⟨(v.field? fieldName).getD missing⟩
  | _ => .error (.other "AttributeError"
      ("'" ++ v.typeName ++ "' object has no attribute 'get'"))

/-- Whether the status is zero. -/
def isZero (s : ExitStatus) : Bool := s.value.equalsInt 0

/-- The status as it stands in messages. -/
def text (room : Nat) (s : ExitStatus) : Except Raised String := s.value.text room

end ExitStatus

end WebPreview
