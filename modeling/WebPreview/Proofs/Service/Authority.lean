import WebPreview.Proofs.Build.Laws
import WebPreview.Proofs.Schema.Variants
import WebPreview.Remote

/-! # The service as the authority

A compiler behind a service makes one of three things of the response that it gets
(`WebPreview.Remote.compiler_eq_iff`). It takes over the document that the body says, as long
as the status is not one of those for errors. It fails because of the status, because of a body
that is no JSON document or no outcome, or because the body says so. And it is stopped by a body
that goes too deep for its reader.

The statuses for errors are those from 400 to 599. A redirect is none of them, so that the
document in its body counts (`WebPreview.Remote.compiler_success_of_found`).
-/

namespace WebPreview

namespace Http.Response

/-- The status is one of those for errors. -/
def Refused (response : Response) : Prop := 400 ≤ response.status ∧ response.status < 600

private theorem isError_iff {response : Response} : response.isError = true ↔ response.Refused := by
  simp only [isError, Refused, Bool.and_eq_true, decide_eq_true_eq]

end Http.Response

namespace Remote

variable {r : Remote} {transport : Transport} {framework : Framework} {files : SourceSet}
  {response : Http.Response}

/-- The response is no error and says the document. -/
structure Grants (response : Http.Response) (html : String) : Prop where
  unrefused : ¬response.Refused
  body : ∃ v, response.body = .ok v ∧ Outcome.SaysDocument v html

/-- The response is why there is no document. -/
inductive Blames (response : Http.Response) : Failure → Prop
  | refused (status : response.Refused) :
    Blames response (RemoteFault.refused response.status).toFailure
  | noJson {fault : Json.BytesFault} (unrefused : ¬response.Refused)
    (body : response.body = .error fault) (shallow : ∀ inArray, fault ≠ .tooDeep inArray) :
    Blames response RemoteFault.noJson.toFailure
  /-- The service has a reason of its own. -/
  | told {v : Json} {reason : Failure} (unrefused : ¬response.Refused)
    (body : response.body = .ok v) (said : Outcome.SaysFailure v reason) : Blames response reason
  | malformed {v : Json} (unrefused : ¬response.Refused) (body : response.body = .ok v)
    (undocumented : ∀ html, ¬Outcome.SaysDocument v html)
    (unfailed : ∀ reason, ¬Outcome.SaysFailure v reason) :
    Blames response RemoteFault.malformed.toFailure

/-- The response is no error, and its body goes too deep. -/
structure Overwhelms (response : Http.Response) (inArray : Bool) : Prop where
  unrefused : ¬response.Refused
  body : response.body = .error (.tooDeep inArray)

private theorem grants_or_blames_or_overwhelms (response : Http.Response) :
    (∃ html, Grants response html) ∨ (∃ reason, Blames response reason) ∨
      ∃ inArray, Overwhelms response inArray := by
  by_cases refused : response.Refused
  · exact .inr (.inl ⟨_, .refused refused⟩)
  cases body : response.body with
  | error fault =>
      by_cases deep : ∃ inArray, fault = .tooDeep inArray
      · obtain ⟨inArray, rfl⟩ := deep
        exact .inr (.inr ⟨inArray, refused, body⟩)
      · exact .inr (.inl ⟨_, .noJson refused body (not_exists.1 deep)⟩)
  | ok v =>
      by_cases failed : ∃ reason, Outcome.SaysFailure v reason
      · obtain ⟨reason, said⟩ := failed
        exact .inr (.inl ⟨reason, .told refused body said⟩)
      by_cases made : ∃ html, Outcome.SaysDocument v html
      · obtain ⟨html, said⟩ := made
        exact .inl ⟨html, refused, v, body, said⟩
      · exact .inr (.inl ⟨_, .malformed refused body (not_exists.1 made) (not_exists.1 failed)⟩)

private theorem read_of_refused (refused : response.Refused) :
    read response = .ok (.error (.refused response.status)) := by
  rw [read, if_pos (Http.Response.isError_iff.2 refused)]

private theorem read_of_noJson {fault : Json.BytesFault} (unrefused : ¬response.Refused)
    (body : response.body = .error fault) (shallow : ∀ inArray, fault ≠ .tooDeep inArray) :
    read response = .ok (.error .noJson) := by
  rw [read, if_neg (Http.Response.isError_iff.not.2 unrefused), body]
  cases fault with
  | tooDeep inArray => exact absurd rfl (shallow inArray)
  | unreadable => rfl
  | malformed position => rfl

private theorem read_of_outcome {v : Json} {outcome : Outcome} (unrefused : ¬response.Refused)
    (body : response.body = .ok v) (decoded : Outcome.decode v = .ok outcome) :
    read response = .ok (.ok outcome) := by
  simp only [read, if_neg (Http.Response.isError_iff.not.2 unrefused), body, decoded]

private theorem read_of_malformed {v : Json} (unrefused : ¬response.Refused)
    (body : response.body = .ok v) (undocumented : ∀ html, ¬Outcome.SaysDocument v html)
    (unfailed : ∀ reason, ¬Outcome.SaysFailure v reason) :
    read response = .ok (.error .malformed) := by
  simp only [read, if_neg (Http.Response.isError_iff.not.2 unrefused), body]
  cases decoded : Outcome.decode v with
  | error why => rfl
  | ok outcome =>
      cases outcome with
      | success html => exact absurd (Outcome.decode_eq_success_iff.1 decoded) (undocumented html)
      | failure reason => exact absurd (Outcome.decode_eq_failure_iff.1 decoded) (unfailed reason)

private theorem read_of_overwhelms {inArray : Bool} (deep : Overwhelms response inArray) :
    read response = .error (tooDeep inArray) := by
  rw [read, if_neg (Http.Response.isError_iff.not.2 deep.unrefused), deep.body]

/-- The transport answers what it is asked with the response. -/
def Delivers (r : Remote) (transport : Transport) (framework : Framework) (files : SourceSet)
    (response : Http.Response) : Prop :=
  (transport r.endpoint (payload framework files)).run.value = .ok response

private theorem value_ask (delivered : Delivers r transport framework files response) :
    (r.ask transport framework files).run.value = read response := by
  unfold Delivers at delivered
  simp only [ask, Build.value_bind, Build.value_emit, Build.value_attempt, delivered, Except.bind,
    Build.value_ofExcept]

private theorem value_compiler_of_outcome {outcome : Outcome}
    (delivered : Delivers r transport framework files response)
    (answered : read response = .ok (.ok outcome)) :
    (r.compiler transport framework files).run.value = .ok (some (.outcome outcome)) := by
  simp only [compiler, Build.value_bind, value_ask delivered, answered, Except.bind,
    Build.value_pure]

private theorem value_compiler_of_fault {fault : RemoteFault}
    (delivered : Delivers r transport framework files response)
    (answered : read response = .ok (.error fault)) :
    (r.compiler transport framework files).run.value =
      .ok (some (.outcome (.failure fault.toFailure))) := by
  simp only [compiler, Build.value_bind, value_ask delivered, answered, Except.bind,
    Build.value_log, Build.value_pure]

private theorem value_compiler_of_raised {fault : Raised}
    (delivered : Delivers r transport framework files response)
    (answered : read response = .error fault) :
    (r.compiler transport framework files).run.value = .error fault := by
  simp only [compiler, Build.value_bind, value_ask delivered, answered, Except.bind]

/-- What the compiler comes to because of the response. -/
inductive Follows (response : Http.Response) : Except Raised (Option Reply) → Prop
  | success {html : String} (grants : Grants response html) :
    Follows response (.ok (some (.outcome (.success html))))
  | failure {reason : Failure} (blames : Blames response reason) :
    Follows response (.ok (some (.outcome (.failure reason))))
  | raised {inArray : Bool} (deep : Overwhelms response inArray) :
    Follows response (.error (tooDeep inArray))

/-- Every response says what is to follow from it. -/
theorem exists_follows (response : Http.Response) : ∃ value, Follows response value := by
  rcases grants_or_blames_or_overwhelms response with
    ⟨html, grants⟩ | ⟨reason, blames⟩ | ⟨inArray, deep⟩
  · exact ⟨_, .success grants⟩
  · exact ⟨_, .failure blames⟩
  · exact ⟨_, .raised deep⟩

private theorem value_compiler_of_blames {reason : Failure}
    (delivered : Delivers r transport framework files response) (blames : Blames response reason) :
    (r.compiler transport framework files).run.value = .ok (some (.outcome (.failure reason))) := by
  cases blames with
  | refused status => exact value_compiler_of_fault delivered (read_of_refused status)
  | noJson unrefused body shallow =>
      exact value_compiler_of_fault delivered (read_of_noJson unrefused body shallow)
  | told unrefused body said =>
      have decoded := Outcome.decode_eq_failure_iff.2 said
      exact value_compiler_of_outcome delivered (read_of_outcome unrefused body decoded)
  | malformed unrefused body undocumented unfailed =>
      have answered := read_of_malformed unrefused body undocumented unfailed
      exact value_compiler_of_fault delivered answered

/-- A delivered response has what follows from it for a value. -/
theorem value_compiler_of_follows {value : Except Raised (Option Reply)}
    (delivered : Delivers r transport framework files response) (follows : Follows response value) :
    (r.compiler transport framework files).run.value = value := by
  cases follows with
  | success grants =>
      obtain ⟨v, body, said⟩ := grants.body
      have decoded := Outcome.decode_eq_success_iff.2 said
      exact value_compiler_of_outcome delivered (read_of_outcome grants.unrefused body decoded)
  | failure blames => exact value_compiler_of_blames delivered blames
  | raised deep => exact value_compiler_of_raised delivered (read_of_overwhelms deep)

/-- The compiler comes to what follows from the response, and to nothing else. -/
theorem compiler_eq_iff (delivered : Delivers r transport framework files response)
    (value : Except Raised (Option Reply)) :
    (r.compiler transport framework files).run.value = value ↔ Follows response value := by
  constructor
  · intro same
    -- Something follows from the response, and whatever does is what the compiler comes to.
    obtain ⟨other, follows⟩ := exists_follows response
    have equal := value_compiler_of_follows delivered follows
    rwa [← same, equal]
  · exact value_compiler_of_follows delivered

/-- A response with a page, and the status that it comes with. -/
def pageWith (status : Nat) : Http.Response :=
  ⟨status, .ok (.obj [("success", .bool true), ("html", .str "x")])⟩

/-- What a compiler comes to whose service answers everything with the response. -/
def askedOnce (response : Http.Response) : Except Raised (Option Reply) :=
  ((ofUrl "http://svc" defaultLimit).compiler (fun _ _ => pure response) .react
    (.ofContents [("index.html", ""), ("a.jsx", "")])).run.value

/-- The same page counts under one status and not under another. -/
theorem compiler_eq_iff_page :
    askedOnce (pageWith 200) = .ok (some (.outcome (.success "x"))) ∧
      askedOnce (pageWith 500) = .ok (some (.outcome (.failure
        ⟨"Server compilation failed: 500 Internal Server Error", "unknown"⟩))) := by
  constructor
  · have said : Outcome.SaysDocument (.obj [("success", .bool true), ("html", .str "x")]) "x" := by
      refine ⟨.inr ⟨.bool true, rfl, rfl⟩, rfl, fun reason failed => ?_⟩
      obtain ⟨field, present, -⟩ := failed.error
      cases present
    have unrefused : ¬(pageWith 200).Refused := by
      unfold Http.Response.Refused
      decide
    exact (compiler_eq_iff (by rfl) _).2 (.success ⟨unrefused, _, rfl, said⟩)
  · have refused : (pageWith 500).Refused := by
      unfold Http.Response.Refused
      decide
    exact (compiler_eq_iff (by rfl) _).2 (.failure (.refused refused))

/-- A redirect is no error, and the page that comes with it counts. -/
theorem compiler_success_of_found :
    ¬(200 ≤ (pageWith 302).status ∧ (pageWith 302).status < 300) ∧
      askedOnce (pageWith 302) = .ok (some (.outcome (.success "x"))) :=
  ⟨by decide, rfl⟩

end Remote

end WebPreview
