import WebPreview.PreviewError

/-! # Outcomes

What a compile comes to: one finished document, or a reason and the file it is about.
-/

namespace WebPreview

/-- Why a compile failed. -/
structure Failure where
  message : String
  file : String := unknownFile
deriving DecidableEq, Repr, Inhabited

/-- What a compile comes to. -/
inductive Outcome where
  | success (html : String)
  | failure (reason : Failure)
deriving DecidableEq, Repr

/-- Whether there is a document. -/
def Outcome.isSuccess : Outcome → Bool
  | .success _ => true
  | .failure _ => false

/-- The document, if there is one. -/
def Outcome.document? : Outcome → Option String
  | .success html => some html
  | .failure _ => none

/-- The failure that an error of the build becomes. -/
def PreviewError.toFailure (e : PreviewError) : Failure := ⟨e.message, e.file⟩

/-- A failure on one line, its file first. -/
def Failure.line (f : Failure) : String := f.file ++ ": " ++ f.message

end WebPreview
