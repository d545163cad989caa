import WebPreview.Proofs.Service.Authority

/-! # What can stop a compiler behind a service

A compiler that asks a service has a failure for nearly everything that can go wrong on the way
(`WebPreview.Remote.Excuses`). It is stopped by a fault of the transport that is no failed
request and no error of its own, by a body that goes too deep for its reader, and by a limit that
ran out and is too large to be told; in every other case it comes to an outcome
(`WebPreview.Remote.compiler_stops_iff`).

A URL that is none is no failed request, so that it stops the compiler
(`WebPreview.Remote.compiler_stops_invalidUrl`).
-/

namespace WebPreview.Remote

variable {r : Remote} {transport : Transport} {framework : Framework} {files : SourceSet}
  {limit : Seconds} {raised fault : Raised} {why : RemoteFault}

/-- The fault of the transport is a failed request, or its own word that there is no service. -/
def Handled : Raised → Prop
  | .transport kind _ => kind ≠ .invalidUrl
  | .preview e => e.kind = .remoteUnavailable
  | _ => False

/-- What a fault of the transport counts as, if it is one of those that come to a failure. -/
inductive Excuses (limit : Seconds) : Raised → RemoteFault → Prop
  | timedOut {kind : Raised.Transport} {reason : String} (waited : kind.isTimeout = true)
    (shown : limit.fits = true) : Excuses limit (.transport kind reason) (.timedOut limit)
  | unreachable {kind : Raised.Transport} {reason : String} (valid : kind ≠ .invalidUrl)
    (prompt : kind.isTimeout = false) :
    Excuses limit (.transport kind reason) (.unreachable reason)
  | unavailable {message file : String} :
    Excuses limit (.preview ⟨.remoteUnavailable, message, file⟩) (.unavailable message file)

/-- What the compiler stops with because of a fault of the transport. -/
inductive Escapes (limit : Seconds) : Raised → Raised → Prop
  | unhandled {fault : Raised} (foreign : ¬Handled fault) : Escapes limit fault fault
  /-- The request timed out, but there is no word for how long the limit was. -/
  | unshown {kind : Raised.Transport} {reason : String} (waited : kind.isTimeout = true)
    (large : limit.fits = false) : Escapes limit (.transport kind reason) unshown

private theorem ofTransport_eq_ok_iff :
    ofTransport limit raised = .ok why ↔ Excuses limit raised why := by
  constructor
  · intro excused
    unfold ofTransport at excused
    split at excused
    · next kind reason =>
        split at excused
        · next waited =>
            split at excused
            · next shown =>
                cases excused
                exact .timedOut waited shown
            · cases excused
        · next prompt =>
            split at excused
            · cases excused
            · next valid =>
                cases excused
                exact .unreachable valid (Bool.eq_false_iff.2 prompt)
    · cases excused
      exact .unavailable
    · cases excused
  · intro excuses
    cases excuses with
    | timedOut waited shown => simp only [ofTransport, waited, shown, ↓reduceIte]
    | unreachable valid prompt =>
        simp only [ofTransport, prompt, valid, Bool.false_eq_true, ↓reduceIte]
    | unavailable => rfl

private theorem ofTransport_eq_error_iff :
    ofTransport limit raised = .error fault ↔ Escapes limit raised fault := by
  constructor
  · intro escaped
    unfold ofTransport at escaped
    split at escaped
    · next kind reason =>
        split at escaped
        · next waited =>
            split at escaped
            · cases escaped
            · next large =>
                cases escaped
                exact .unshown waited (Bool.eq_false_iff.2 large)
        · split at escaped
          · next invalid =>
              cases escaped
              exact .unhandled fun handled => handled invalid
          · cases escaped
    · cases escaped
    · next plain told =>
        cases escaped
        refine .unhandled fun handled => ?_
        cases raised with
        | transport kind reason => exact plain kind reason rfl
        | preview e =>
            obtain ⟨kind, message, file⟩ := e
            obtain rfl : kind = .remoteUnavailable := handled
            exact told message file rfl
        | _ => exact handled
  · intro escapes
    cases escapes with
    | unshown waited large => simp only [ofTransport, waited, large, Bool.false_eq_true, ↓reduceIte]
    | unhandled foreign =>
        unfold ofTransport
        split
        · next kind reason =>
            have invalid : kind = .invalidUrl := not_not.1 foreign
            subst invalid
            rfl
        · exact absurd rfl foreign
        · rfl

private theorem value_compiler_of_error
    (failed : (transport r.endpoint (payload framework files)).run.value = .error raised) :
    (r.compiler transport framework files).run.value =
      (ofTransport r.limit raised).map fun why => some (.outcome (.failure why.toFailure)) := by
  have asked : (r.ask transport framework files).run.value =
      (ofTransport r.limit raised).map .error := by
    simp only [ask, Build.value_bind, Build.value_emit, Build.value_attempt, failed, Except.bind,
      Build.value_ofExcept]
    cases ofTransport r.limit raised <;> rfl
  simp only [compiler, Build.value_bind, asked]
  cases ofTransport r.limit raised <;> rfl

/-- What stops the compiler after the transport came to an answer or to a fault. -/
inductive Stops (limit : Seconds) : Except Raised Http.Response → Raised → Prop
  | response {response : Http.Response} {inArray : Bool} (deep : Overwhelms response inArray) :
    Stops limit (.ok response) (tooDeep inArray)
  | transport {raised fault : Raised} (escapes : Escapes limit raised fault) :
    Stops limit (.error raised) fault

private theorem value_compiler_eq_error_iff_of_response {response : Http.Response}
    (delivered : Delivers r transport framework files response) :
    (r.compiler transport framework files).run.value = .error fault ↔
      ∃ inArray, Overwhelms response inArray ∧ fault = tooDeep inArray := by
  constructor
  · intro stopped
    obtain ⟨value, follows⟩ := exists_follows response
    have same := (value_compiler_of_follows delivered follows).symm.trans stopped
    cases follows with
    | success grants => cases same
    | failure blames => cases same
    | raised deep => exact ⟨_, deep, (Except.error.inj same).symm⟩
  · rintro ⟨inArray, deep, rfl⟩
    exact value_compiler_of_follows delivered (.raised deep)

/-- **What stops a compiler behind a service.** The compiler stops with a fault exactly if the
transport did with one that is neither a failed request nor its own, if a request timed out under a
limit that is too large to be told, or if the body of the response goes too deep. In every other
case it comes to an outcome, and that is a failure if the transport brought no response. -/
theorem compiler_stops_iff (r : Remote) (transport : Transport) (framework : Framework)
    (files : SourceSet) :
    (∀ fault, (r.compiler transport framework files).run.value = .error fault ↔
      Stops r.limit (transport r.endpoint (payload framework files)).run.value fault) ∧
    ((∀ fault, ¬Stops r.limit (transport r.endpoint (payload framework files)).run.value fault) →
      ∃ outcome,
        (r.compiler transport framework files).run.value = .ok (some (.outcome outcome))) ∧
    ∀ raised why, (transport r.endpoint (payload framework files)).run.value = .error raised →
      Excuses r.limit raised why →
        (r.compiler transport framework files).run.value =
          .ok (some (.outcome (.failure why.toFailure))) := by
  cases came : (transport r.endpoint (payload framework files)).run.value with
  | ok response =>
      refine ⟨fun fault => ?_, fun unstopped => ?_, fun raised why other => nomatch other⟩
      · rw [value_compiler_eq_error_iff_of_response came]
        constructor
        · rintro ⟨inArray, deep, rfl⟩
          exact .response deep
        · intro stops
          cases stops with
          | response deep => exact ⟨_, deep, rfl⟩
      · obtain ⟨value, follows⟩ := exists_follows response
        have same := value_compiler_of_follows came follows
        cases follows with
        | success grants => exact ⟨_, same⟩
        | failure blames => exact ⟨_, same⟩
        | raised deep => exact absurd (.response deep) (unstopped _)
  | error raised =>
      rw [value_compiler_of_error came]
      refine ⟨fun fault => ?_, fun unstopped => ?_, ?_⟩
      · rw [Except.map_eq_error_iff, ofTransport_eq_error_iff]
        constructor
        · exact .transport
        · intro stops
          cases stops with
          | transport escapes => exact escapes
      · cases excused : ofTransport r.limit raised with
        | ok why => exact ⟨_, rfl⟩
        | error fault =>
            exact absurd (.transport (ofTransport_eq_error_iff.1 excused)) (unstopped fault)
      · rintro _ why ⟨⟩ excuses
        rw [ofTransport_eq_ok_iff.2 excuses]
        rfl

/-- A service that cannot be reached comes to a failure. -/
theorem compiler_stops_iff_unreachable :
    let refusing : Transport := fun _ _ => throw (.transport .connectError "refused")
    let remote : Remote := ofUrl "http://svc" defaultLimit
    Excuses remote.limit (.transport .connectError "refused") (.unreachable "refused") ∧
      (remote.compiler refusing .react (.ofContents [("index.html", "")])).run.value =
        .ok (some (.outcome (.failure ⟨"Compile service unreachable: refused", "unknown"⟩))) := by
  intro refusing remote
  have excuses : Excuses remote.limit (.transport .connectError "refused")
      (.unreachable "refused") := .unreachable (by decide) rfl
  obtain ⟨-, -, failed⟩ :=
    compiler_stops_iff remote refusing .react (.ofContents [("index.html", "")])
  exact ⟨excuses, failed _ _ rfl excuses⟩

/-- A URL that is none stops the compiler, whatever it was to build. -/
theorem compiler_stops_invalidUrl :
    let refusing : Transport := fun _ _ => throw (.transport .invalidUrl "Invalid port: 'x'")
    let remote : Remote := ofUrl "http://svc:x" defaultLimit
    (remote.compiler refusing .react (.ofContents [("index.html", "")])).run.value =
        .error (.transport .invalidUrl "Invalid port: 'x'") ∧
      ¬∃ outcome, (remote.compiler refusing .react (.ofContents [("index.html", "")])).run.value =
        .ok (some (.outcome outcome)) := by
  intro refusing remote
  have stopped : (remote.compiler refusing .react (.ofContents [("index.html", "")])).run.value =
      .error (.transport .invalidUrl "Invalid port: 'x'") := rfl
  refine ⟨stopped, ?_⟩
  rintro ⟨outcome, value⟩
  cases stopped.symm.trans value

end WebPreview.Remote
