import WebPreview.Proofs.Decimal.NoNumber
import WebPreview.Proofs.Except
import WebPreview.Settings

/-! # What a configuration that is accepted holds

A configuration follows its environment: what a variable says, or else the usual value. It is
accepted exactly if it passes the vetting (`WebPreview.Config.ofEnvironment_eq_ok_iff`), and then
its service has a URL of the web, if there is one, and its level is known by name. Of a time limit
the vetting only asks that it is not at most zero. The double that is no number passes that too, so
a variable may spell it out for a limit. With that one exception every limit is above zero
(`WebPreview.Settings.fresh_vetted`).
-/

namespace WebPreview

variable {env : Environment} {c : Config} {name : String} {usual limit : Float} {s : Settings}

/-- A variable spells the word for no number. -/
def Environment.SaysNoNumber (env : Environment) (name : String) : Prop :=
  ∃ raw, env.get? name = some raw ∧ Decimal.SaysNoNumber raw

namespace Config

/-- The environment gives this time limit under this name. -/
inductive Gives (env : Environment) (name : String) (usual : Float) : Float → Prop
  | unstated (blank : ∀ raw, env.get? name = some raw → Text.isBlankText raw = true) :
    Gives env name usual usual
  | stated {raw : String} {limit : Float} (bound : env.get? name = some raw)
    (written : Text.isBlankText raw = false) (read : Decimal.read? raw = some limit) :
    Gives env name usual limit

private theorem readSeconds_eq_ok_iff :
    readSeconds env name usual = .ok limit ↔ Gives env name usual limit := by
  unfold readSeconds
  constructor
  · intro read
    split at read
    next unspoken =>
      obtain rfl := Except.ok.inj read
      refine .unstated fun raw bound => ?_
      simpa using Option.filter_eq_none_iff.1 unspoken raw bound
    next raw spoken =>
      obtain ⟨bound, written⟩ := Option.filter_eq_some_iff.1 spoken
      split at read
      next value =>
        obtain rfl := Except.ok.inj read
        exact .stated bound (by simpa using written) value
      next => cases read
  · intro given
    cases given with
    | unstated blank =>
        have unspoken : (env.get? name).filter (!Text.isBlankText ·) = none := by
          apply Option.filter_eq_none_iff.2
          intro raw bound
          simp [blank raw bound]
        rw [unspoken]
    | stated bound written read =>
        simp only [bound, Option.filter_some, written, Bool.not_false, ↓reduceIte, read]

/-- A limit is no number only where its variable says so. -/
theorem Gives.isNaN_iff (given : Gives env name usual limit) (positive : 0.0 < usual) :
    limit.isNaN = true ↔ env.SaysNoNumber name := by
  cases given with
  | unstated blank =>
      rw [Float.not_isNaN_of_pos positive]
      refine iff_of_false Bool.false_ne_true ?_
      intro ⟨raw, bound, said⟩
      exact Decimal.not_saysNoNumber_of_blank (blank raw bound) said
  | stated bound _ read =>
      rw [Decimal.isNaN_iff_saysNoNumber read, Environment.SaysNoNumber]
      simp only [bound, Option.some.injEq, exists_eq_left']

/-- The configuration is what the environment says, usable or not. -/
structure Follows (c : Config) (env : Environment) : Prop where
  compilerUrl : c.compilerUrl = nonEmpty? env urlVariable
  compilerTimeout : Gives env compilerTimeoutVariable defaultCompilerTimeout c.compilerTimeout
  toolchainImage : c.toolchainImage = (nonEmpty? env imageVariable).getD defaultImage
  toolchainTimeout : Gives env toolchainTimeoutVariable defaultToolchainTimeout c.toolchainTimeout
  installTimeout : Gives env installTimeoutVariable defaultInstallTimeout c.installTimeout
  logLevel : c.logLevel = Text.upper ((nonEmpty? env logLevelVariable).getD "INFO")

private theorem read_eq_ok_iff : read env = .ok c ↔ c.Follows env := by
  unfold read
  simp only [Except.bind_eq_ok_iff, readSeconds_eq_ok_iff]
  constructor
  · intro ⟨_, compiler, _, toolchain, _, install, made⟩
    obtain rfl := Except.ok.inj made
    exact ⟨rfl, compiler, rfl, toolchain, install, rfl⟩
  · intro follows
    refine ⟨_, follows.compilerTimeout, _, follows.toolchainTimeout, _, follows.installTimeout, ?_⟩
    rw [← follows.compilerUrl, ← follows.toolchainImage, ← follows.logLevel]
    rfl

/-- The time limits of a configuration, each with its variable. -/
def limits (c : Config) : List (String × Float) :=
  [(compilerTimeoutVariable, c.compilerTimeout), (toolchainTimeoutVariable, c.toolchainTimeout),
    (installTimeoutVariable, c.installTimeout)]

/-- The configuration passes the vetting. -/
structure Vetted (c : Config) : Prop where
  limits : ∀ limit ∈ c.limits, 0.0 < limit.2 ∨ limit.2.isNaN = true
  url : ∀ url, c.compilerUrl = some url →
    "http://".toList <+: url.toList ∨ "https://".toList <+: url.toList
  level : ∃ level, Level.ofName? c.logLevel = some level

/-- The configuration is as it is documented: every time limit is above zero. -/
structure Sound (c : Config) : Prop extends Vetted c where
  positive : ∀ limit ∈ c.limits, 0.0 < limit.2

private theorem isHttpUrl_iff {url : String} : isHttpUrl url = true ↔
    "http://".toList <+: url.toList ∨ "https://".toList <+: url.toList := by
  rw [isHttpUrl, Bool.or_eq_true, Text.startsWith, Text.startsWith, List.isPrefixOf_iff_prefix,
    List.isPrefixOf_iff_prefix]

private theorem isTooShort_eq_false_iff :
    isTooShort limit = false ↔ 0.0 < limit ∨ limit.isNaN = true := by
  rw [← Float.not_le_zero_iff, isTooShort, decide_eq_false_iff_not]

/-- Nothing is unusable exactly if all passes. -/
theorem problems_eq_nil_iff : c.problems = [] ↔ c.Vetted := by
  have listed : c.problems = [] ↔ (∀ limit ∈ c.limits, isTooShort limit.2 = false) ∧
      c.compilerUrl.all isHttpUrl = true ∧ (Level.ofName? c.logLevel).isSome = true := by
    unfold problems
    rw [List.append_eq_nil_iff, List.append_eq_nil_iff, List.filterMap_eq_nil_iff]
    simp only [limits, and_assoc, ite_eq_right_iff, ite_eq_left_iff, reduceCtorEq, imp_false,
      Bool.not_eq_true, Bool.not_eq_false]
  rw [listed, Option.all_eq_true, Option.isSome_iff_exists]
  simp only [isTooShort_eq_false_iff, isHttpUrl_iff]
  constructor
  · intro ⟨limits, url, level⟩
    exact ⟨limits, url, level⟩
  · intro vetted
    exact ⟨vetted.limits, vetted.url, vetted.level⟩

/-- A configuration is read exactly if it follows the environment and is vetted. -/
theorem ofEnvironment_eq_ok_iff : ofEnvironment env = .ok c ↔ c.Follows env ∧ c.Vetted := by
  unfold ofEnvironment
  simp only [Except.bind_eq_ok_iff, read_eq_ok_iff]
  constructor
  · intro ⟨config, follows, passed⟩
    split at passed
    next none =>
      obtain rfl := Except.ok.inj passed
      exact ⟨follows, problems_eq_nil_iff.1 none⟩
    next => cases passed
  · intro ⟨follows, vetted⟩
    refine ⟨c, follows, ?_⟩
    rw [problems_eq_nil_iff.2 vetted]
    rfl

/-- A limit that passes is above zero, unless its variable spells the word for no number. -/
theorem Follows.positive_iff (follows : c.Follows env) (vetted : c.Vetted) {limit : String × Float}
    (listed : limit ∈ c.limits) : 0.0 < limit.2 ↔ ¬env.SaysNoNumber limit.1 := by
  have given : limit.2.isNaN = true ↔ env.SaysNoNumber limit.1 := by
    simp only [limits, List.mem_cons, List.not_mem_nil, or_false] at listed
    obtain rfl | rfl | rfl := listed
    · exact follows.compilerTimeout.isNaN_iff (by decide)
    · exact follows.toolchainTimeout.isNaN_iff (by decide)
    · exact follows.installTimeout.isNaN_iff (by decide)
  rw [← given]
  constructor
  · intro positive
    rw [Float.not_isNaN_of_pos positive]
    exact Bool.false_ne_true
  · exact (vetted.limits limit listed).resolve_right

private theorem Follows.sound_iff (follows : c.Follows env) (vetted : c.Vetted) :
    c.Sound ↔ ∀ limit ∈ c.limits, ¬env.SaysNoNumber limit.1 := by
  constructor
  · intro sound limit listed
    exact (follows.positive_iff vetted listed).1 (sound.positive limit listed)
  · intro spoken
    exact ⟨vetted, fun limit listed => (follows.positive_iff vetted listed).2 (spoken limit listed)⟩

private theorem readSeconds_ne_unsettable (fault : VariableFault) :
    readSeconds env name usual ≠ .error (.unsettable fault) := by
  unfold readSeconds
  split
  next => simp
  next => split <;> simp

private theorem read_ne_unsettable (fault : VariableFault) :
    read env ≠ .error (.unsettable fault) := by
  unfold read
  simp [Except.bind_eq_error_iff, readSeconds_ne_unsettable, pure, Except.pure]

/-- Whatever the environment holds, the refusal is one of the configuration. -/
theorem ofEnvironment_ne_unsettable (fault : VariableFault) :
    ofEnvironment env ≠ .error (.unsettable fault) := by
  unfold ofEnvironment
  rw [ne_eq, Except.bind_eq_error_iff]
  intro refused
  obtain unread | ⟨config, -, unfit⟩ := refused
  · exact read_ne_unsettable fault unread
  · split at unfit
    next => cases unfit
    next => cases unfit

end Config

namespace Settings

private theorem fresh_eq (s : Settings) : s.fresh.2 =
    (s.loadFile.2.mapError .unsettable >>= fun _ => Config.ofEnvironment s.loadFile.1.env) := rfl

private theorem fresh_eq_ok_iff : s.fresh.2 = .ok c ↔
    s.loadFile.2 = .ok () ∧ c.Follows s.loadFile.1.env ∧ c.Vetted := by
  simp only [fresh_eq, Except.bind_eq_ok_iff, Except.mapError_eq_ok_iff,
    Config.ofEnvironment_eq_ok_iff]
  constructor
  · intro ⟨_, loaded, made⟩
    exact ⟨loaded, made⟩
  · intro ⟨loaded, made⟩
    exact ⟨(), loaded, made⟩

private theorem fresh_eq_unsettable_iff {fault : VariableFault} :
    s.fresh.2 = .error (.unsettable fault) ↔ s.loadFile.2 = .error fault := by
  simp only [fresh_eq, Except.bind_eq_error_iff, Except.mapError_eq_error_iff,
    Config.ofEnvironment_ne_unsettable, and_false, exists_false, or_false,
    ConfigError.unsettable.injEq, exists_eq_right]

/-- **Vetting.** A configuration is read exactly if the settings file can be loaded and what the
environment then says passes the vetting. Its time limits are all above zero exactly if none of
their variables spells the word for no number. Every refusal is one of the configuration, unless
the settings file binds a variable that cannot be set. -/
theorem fresh_vetted (s : Settings) :
    (∀ c, s.fresh.2 = .ok c ↔ s.loadFile.2 = .ok () ∧ c.Follows s.loadFile.1.env ∧ c.Vetted) ∧
    (∀ c, s.fresh.2 = .ok c →
      (c.Sound ↔ ∀ limit ∈ c.limits, ¬s.loadFile.1.env.SaysNoNumber limit.1)) ∧
    (∀ fault, s.fresh.2 = .error (.unsettable fault) ↔ s.loadFile.2 = .error fault) := by
  refine ⟨fun c => fresh_eq_ok_iff, ?_, fun fault => fresh_eq_unsettable_iff⟩
  intro c made
  obtain ⟨-, follows, vetted⟩ := fresh_eq_ok_iff.1 made
  exact follows.sound_iff vetted

/-- The usual configuration is as it is documented. -/
theorem fresh_vetted_usual : ∃ c, ({ env := .empty } : Settings).fresh.2 = .ok c ∧ c.Sound := by
  refine ⟨_, rfl, ((fresh_vetted { env := .empty }).2.1 _ rfl).2 ?_⟩
  intro limit _ ⟨raw, bound, _⟩
  cases bound

/-- The word for no number is accepted as a time limit. -/
theorem fresh_noNumber : ∃ c,
    ({ env := Keyed.empty.put Config.compilerTimeoutVariable "nan" } : Settings).fresh.2 = .ok c ∧
      ¬0.0 < c.compilerTimeout :=
  ⟨_, rfl, by decide⟩

end Settings

end WebPreview
