import WebPreview.Toolchain.Command

/-! # Commands that are read back as their words

The splitter reads a command as a POSIX shell does, as far as nothing in it is acted on
(`WebPreview.Shell.words?`). Words that are quoted and written with blanks between them
are read back as the same words (`WebPreview.Shell.words?_intercalate_quote`), whatever
characters they hold. A command that can be read at all holds nothing that the shell would act
on (`WebPreview.Shell.inert_of_words?`). Both together say what the shell makes of the
command that bundles a project (`WebPreview.Toolchain.words_runCommand`).
-/

namespace WebPreview

namespace Shell

/-- Whether a character only ends a word. -/
def isSeparator (c : Char) : Bool := c == ' ' || c == '\t'

/-- What the shell acts on between double quotes. -/
def actsInDouble (c : Char) : Bool := "$`\\".toList.contains c

/-- What the shell acts on outside of quotes: operators, expansions, patterns, comments and
escapes. -/
def acts (c : Char) : Bool := "|&;<>()$`\\\n*?[]#~!\x7b\x7d".toList.contains c

/-- Where the splitter is. -/
inductive Place where
  /-- Outside of quotes. -/
  | bare
  /-- Between single quotes. -/
  | single
  /-- Between double quotes. -/
  | double
deriving DecidableEq, Repr

/-- The words of a command, read on from a place with the word begun so far, if one is begun. -/
def wordsFrom : Place → Option (List Char) → List Char → Option (List (List Char))
  | .bare, word, [] => some word.toList
  | .single, _, [] => none
  | .double, _, [] => none
  | .bare, word, c :: cs =>
    if isSeparator c then (wordsFrom .bare none cs).map (word.toList ++ ·)
    else if c = '\'' then wordsFrom .single (some (word.getD [])) cs
    else if c = '"' then wordsFrom .double (some (word.getD [])) cs
    else if acts c then none
    else wordsFrom .bare (some (word.getD [] ++ [c])) cs
  | .single, word, c :: cs =>
    if c = '\'' then wordsFrom .bare word cs
    else wordsFrom .single (some (word.getD [] ++ [c])) cs
  | .double, word, c :: cs =>
    if c = '"' then wordsFrom .bare word cs
    else if actsInDouble c then none
    else wordsFrom .double (some (word.getD [] ++ [c])) cs

/-- The words of a command that holds nothing the shell would act on. -/
def words? (command : String) : Option (List String) :=
  (wordsFrom .bare none command.toList).map (·.map String.ofList)

/-- Every character of a command that is no quote of the shell's, with the place where
it stands. -/
def placedFrom : Place → List Char → List (Place × Char)
  | _, [] => []
  | .bare, c :: cs =>
    if c = '\'' then placedFrom .single cs
    else if c = '"' then placedFrom .double cs
    else (.bare, c) :: placedFrom .bare cs
  | .single, c :: cs =>
    if c = '\'' then placedFrom .bare cs else (.single, c) :: placedFrom .single cs
  | .double, c :: cs =>
    if c = '"' then placedFrom .bare cs else (.double, c) :: placedFrom .double cs

/-- Whether the shell acts on a character at a place. -/
def actsAt : Place → Char → Bool
  | .bare, c => acts c
  | .single, _ => false
  | .double, c => actsInDouble c

/-- The shell acts on nothing in the command: every operator, expansion, pattern and
escape in it stands between quotes that keep it from being one. -/
def Inert (command : String) : Prop :=
  ∀ placed ∈ placedFrom .bare command.toList, actsAt placed.1 placed.2 = false

private theorem passive_of_isSeparator {c : Char} (separates : isSeparator c = true) :
    c ≠ '\'' ∧ c ≠ '"' ∧ acts c = false := by
  simp only [isSeparator, Bool.or_eq_true, beq_iff_eq] at separates
  rcases separates with rfl | rfl <;> decide

private theorem not_actsAt_of_wordsFrom {place : Place} {word : Option (List Char)} {cs : List Char}
    {words : List (List Char)} (read : wordsFrom place word cs = some words) :
    ∀ placed ∈ placedFrom place cs, actsAt placed.1 placed.2 = false := by
  induction cs generalizing place word words with
  | nil => cases place <;> simp [placedFrom]
  | cons c cs ih =>
      cases place with
      | bare =>
          unfold wordsFrom at read
          unfold placedFrom
          split at read
          · -- A separator is no quote, and it is nothing that the shell acts on.
            next separates =>
            obtain ⟨rest, read, -⟩ := Option.map_eq_some_iff.1 read
            obtain ⟨single, double, passive⟩ := passive_of_isSeparator separates
            rw [if_neg single, if_neg double, List.forall_mem_cons]
            exact ⟨passive, ih read⟩
          · split at read
            · next single =>
              rw [if_pos single]
              exact ih read
            · next single =>
              rw [if_neg single]
              split at read
              · next double =>
                rw [if_pos double]
                exact ih read
              · next double =>
                rw [if_neg double, List.forall_mem_cons]
                split at read
                · cases read
                · next passive => exact ⟨Bool.eq_false_iff.2 passive, ih read⟩
      | single =>
          unfold wordsFrom at read
          unfold placedFrom
          split at read
          · next single =>
            rw [if_pos single]
            exact ih read
          · next single =>
            rw [if_neg single, List.forall_mem_cons]
            exact ⟨rfl, ih read⟩
      | double =>
          unfold wordsFrom at read
          unfold placedFrom
          split at read
          · next double =>
            rw [if_pos double]
            exact ih read
          · next double =>
            rw [if_neg double, List.forall_mem_cons]
            split at read
            · cases read
            · next passive => exact ⟨Bool.eq_false_iff.2 passive, ih read⟩

/-- A command that is read as words holds nothing that the shell acts on. -/
theorem inert_of_words? {command : String} {words : List String}
    (read : words? command = some words) : Inert command := by
  obtain ⟨_, read, -⟩ := Option.map_eq_some_iff.1 read
  exact not_actsAt_of_wordsFrom read

/-- A character that stands for itself is no quote, ends no word and is not acted on. -/
theorem passive_of_isPlain {c : Char} (plain : isPlain c = true) :
    isSeparator c = false ∧ c ≠ '\'' ∧ c ≠ '"' ∧ acts c = false := by
  have special : ("|&;<>()$`\\\n*?[]#~!\x7b\x7d".toList.all fun d => !isPlain d) = true := by
    decide
  refine ⟨Bool.eq_false_iff.2 fun separates => ?_, ?_, ?_, Bool.eq_false_iff.2 fun acted => ?_⟩
  · simp only [isSeparator, Bool.or_eq_true, beq_iff_eq] at separates
    rcases separates with rfl | rfl <;> revert plain <;> decide
  · rintro rfl
    revert plain
    decide
  · rintro rfl
    revert plain
    decide
  · have other := List.all_eq_true.1 special c (List.contains_iff_mem.1 acted)
    rw [plain] at other
    cases other

private theorem wordsFrom_plain {word : List Char} (begun : List Char) (rest : List Char)
    (plain : ∀ c ∈ word, isPlain c = true) :
    wordsFrom .bare (some begun) (word ++ rest) = wordsFrom .bare (some (begun ++ word)) rest := by
  induction word generalizing begun with
  | nil => rw [List.nil_append, List.append_nil]
  | cons c word ih =>
      obtain ⟨first, others⟩ := List.forall_mem_cons.1 plain
      obtain ⟨separates, single, double, acted⟩ := passive_of_isPlain first
      rw [List.cons_append, wordsFrom]
      simp only [separates, single, double, acted, Bool.false_eq_true, ↓reduceIte,
        Option.getD_some]
      rw [ih (begun ++ [c]) others, List.append_assoc, List.singleton_append]

/-- Between single quotes every character stands for itself, and a single quote comes
out of the detour through double ones. -/
theorem wordsFrom_quoted (begun word rest : List Char) :
    wordsFrom .single (some begun) (word.flatMap quoteChar ++ '\'' :: rest) =
      wordsFrom .bare (some (begun ++ word)) rest := by
  induction word generalizing begun with
  | nil => simp only [List.flatMap_nil, List.nil_append, List.append_nil, wordsFrom, ↓reduceIte]
  | cons c word ih =>
      have next := ih (begun ++ [c])
      rw [List.append_assoc, List.singleton_append] at next
      rw [List.flatMap_cons, List.append_assoc, ← next]
      by_cases mark : c = '\''
      · subst mark
        rfl
      · simp only [quoteChar, mark, ↓reduceIte, List.singleton_append, wordsFrom, Option.getD_some]

/-- A quoted word begins one word and reads as it. -/
theorem wordsFrom_quoteChars (word rest : List Char) :
    wordsFrom .bare none (quoteChars word ++ rest) = wordsFrom .bare (some word) rest := by
  unfold quoteChars
  split
  · next plain =>
    simp only [Bool.and_eq_true, List.all_eq_true] at plain
    obtain ⟨nonempty, plain⟩ := plain
    cases word with
    | nil => cases nonempty
    | cons c word =>
        obtain ⟨first, others⟩ := List.forall_mem_cons.1 plain
        obtain ⟨separates, single, double, acted⟩ := passive_of_isPlain first
        rw [List.cons_append, wordsFrom]
        simp only [separates, single, double, acted, Bool.false_eq_true, ↓reduceIte]
        exact wordsFrom_plain [c] rest others
  · rw [List.cons_append, List.cons_append, List.append_assoc, List.singleton_append]
    exact wordsFrom_quoted [] word rest

private theorem wordsFrom_intercalate (word : List Char) (words : List (List Char)) :
    wordsFrom .bare none ([' '].intercalate ((word :: words).map quoteChars)) =
      some (word :: words) := by
  induction words generalizing word with
  | nil =>
      have alone := wordsFrom_quoteChars word []
      rw [List.append_nil] at alone
      rw [List.map_cons, List.map_nil, List.intercalate_singleton, alone]
      rfl
  | cons second words ih =>
      have others := ih second
      rw [List.map_cons] at others
      rw [List.map_cons, List.map_cons, List.intercalate_cons_cons, List.append_assoc,
        wordsFrom_quoteChars, List.singleton_append, wordsFrom]
      simp only [show isSeparator ' ' = true from rfl, ↓reduceIte, others]
      rfl

/-- **Quoted words are read back.** Any words, whatever characters they hold, are
quoted so that the shell reads exactly these words. -/
theorem words?_intercalate_quote (word : String) (words : List String) :
    words? (" ".intercalate ((word :: words).map quote)) = some (word :: words) := by
  have read := wordsFrom_intercalate word.toList (words.map String.toList)
  have spelled : (" ".intercalate ((word :: words).map quote)).toList =
      [' '].intercalate ((word.toList :: words.map String.toList).map quoteChars) := by
    rw [String.toList_intercalate, ← List.map_cons, List.map_map, List.map_map]
    refine congrArg _ (List.map_congr_left fun word _ => ?_)
    exact String.toList_ofList
  rw [words?, spelled, read]
  simp only [Option.map_some, List.map_cons, List.map_map, String.ofList_toList,
    Function.comp_def, List.map_id']

end Shell

namespace Toolchain

/-- **The command that bundles a project is five words.** Whatever the entry is called,
the shell reads the program, the build script, the framework's identifier, the entry's
name unchanged and the directory of the compilers, and it finds nothing in the command
to act on. -/
theorem words_runCommand (framework : Framework) (entry : String) :
    Shell.words? (runCommand framework entry) =
        some ["node", ".previewkit/build.mjs", framework.id, entry,
          "/app/.previewkit/node_modules"] ∧
      Shell.Inert (runCommand framework entry) := by
  have identifier : Shell.quote framework.id = framework.id := by cases framework <;> decide
  have quoted : runCommand framework entry = " ".intercalate
      (["node", ".previewkit/build.mjs", framework.id, entry,
        "/app/.previewkit/node_modules"].map Shell.quote) := by
    simp only [List.map_cons, List.map_nil, identifier]
    rfl
  have read := Shell.words?_intercalate_quote "node"
    [".previewkit/build.mjs", framework.id, entry, "/app/.previewkit/node_modules"]
  rw [← quoted] at read
  exact ⟨read, Shell.inert_of_words? read⟩

end Toolchain

end WebPreview
