import WebPreview.Component
import WebPreview.Proofs.Text.Boundaries
import WebPreview.Proofs.Text.Marks

/-! # Default exports

Without a compiler a component's default export becomes the constant that its script mounts. The
search for it asks for a blank behind the words `export default`, though none has to stand there:
`export default\x7b` starts an export as well. So a script with a single default export is rewritten
exactly if a blank follows the words. In that case no export is left. In the other one the export
stays, and an empty component is declared and mounted in its place
(`WebPreview.Component.toScript_eq_declared_iff`).
-/

namespace WebPreview

open Text

variable {c : Char} {cs before gap behind b g e : List Char}

namespace Component

/-- The words of a default export with something between them. -/
def exportWords (gap : List Char) : List Char := "export".toList ++ gap ++ "default".toList

/-- One blank or more. -/
structure IsGap (gap : List Char) : Prop where
  something : gap ≠ []
  blank : ∀ c ∈ gap, isBlank c = true

/-- Between two parts of a text stand the words of a default export, with blanks between them. No
word goes on from the part in front of them, and none goes on in the part behind them. -/
structure ExportAt (cs before gap behind : List Char) : Prop where
  split : cs = before ++ exportWords gap ++ behind
  spaced : IsGap gap
  starts : underWay false before = false
  ends : endsWord behind = true

/-- No default export stands anywhere else. -/
structure OnlyExport (cs before gap behind : List Char) : Prop where
  here : ExportAt cs before gap behind
  only : ∀ {b g e}, ExportAt cs b g e → b = before

private theorem exportWords_eq_cons (gap : List Char) :
    exportWords gap = 'e' :: (exportWords gap).tail :=
  rfl

private theorem exportWords_append (gap behind : List Char) :
    exportWords gap ++ behind = "export".toList ++ (gap ++ ("default".toList ++ behind)) := by
  calc exportWords gap ++ behind
    _ = "export".toList ++ gap ++ ("default".toList ++ behind) :=
      List.append_assoc ("export".toList ++ gap) "default".toList behind
    _ = "export".toList ++ (gap ++ ("default".toList ++ behind)) :=
      List.append_assoc "export".toList gap ("default".toList ++ behind)

private theorem underWay_exportWords (inWord : Bool) (gap : List Char) :
    underWay inWord (exportWords gap) = true :=
  underWay_append inWord ("export".toList ++ gap) "default".toList

private theorem IsGap.takeWhile (spaced : IsGap gap) (behind : List Char) :
    (gap ++ ("default".toList ++ behind)).takeWhile isBlank = gap := by
  rw [List.takeWhile_append_of_pos spaced.blank]
  exact List.append_nil gap

private theorem IsGap.dropWhile (spaced : IsGap gap) (behind : List Char) :
    (gap ++ ("default".toList ++ behind)).dropWhile isBlank = "default".toList ++ behind :=
  List.dropWhile_append_of_pos spaced.blank

private theorem IsGap.not_mem_exportWords (spaced : IsGap gap) : 'c' ∉ exportWords gap := by
  intro inside
  rcases List.mem_append.1 inside with front | inside
  · rcases List.mem_append.1 front with inside | inside
    · revert inside
      decide
    · have no := spaced.blank 'c' inside
      revert no
      decide
  · revert inside
    decide

namespace ExportAt

/-- A default export that stands behind the same text is the same one. -/
theorem eq_behind (this : ExportAt cs before gap behind) (other : ExportAt cs before g e) :
    e = behind := by
  have same := this.split.symm.trans other.split
  rw [List.append_assoc, List.append_assoc, List.append_cancel_left_eq, exportWords_append,
    exportWords_append, List.append_cancel_left_eq] at same
  have left := congrArg (List.dropWhile isBlank) same
  rw [this.spaced.dropWhile, other.spaced.dropWhile, List.append_cancel_left_eq] at left
  exact left.symm

/-- A default export stays where it is in front of what does not go on with its last word. -/
theorem append (found : ExportAt cs before gap behind) (more : List Char)
    (ends : endsWord more = true) : ExportAt (cs ++ more) before gap (behind ++ more) := by
  refine ⟨?_, found.spaced, found.starts, ?_⟩
  · rw [found.split, List.append_assoc]
  · cases behind with
    | nil => exact ends
    | cons c behind => exact found.ends

/-- A text has a single default export if the word that starts one comes once in it. -/
theorem onlyExport (here : ExportAt cs before gap behind)
    (once : ∀ n < cs.length, "export".toList <+: cs.drop n → n = before.length) :
    OnlyExport cs before gap behind := by
  refine ⟨here, ?_⟩
  intro b g e other
  have split : cs = b ++ (exportWords g ++ e) := by
    rw [other.split, List.append_assoc]
  have front : "export".toList <+: cs.drop b.length := by
    rw [split, List.drop_left, exportWords_append]
    exact List.prefix_append _ _
  have inside : b.length < cs.length := by
    rw [split, exportWords_eq_cons]
    simp
  have whole := here.split
  rw [List.append_assoc, split] at whole
  exact (List.append_inj whole (once b.length inside front)).1

end ExportAt

private theorem afterExport?_eq_some_iff {rest : List Char} :
    afterExport? cs = some rest ↔ ∃ gap behind, cs = exportWords gap ++ behind ∧ IsGap gap ∧
      startsBlank behind = true ∧ rest = trimStart behind := by
  simp only [afterExport?, Option.bind_eq_bind, Option.bind_eq_some_iff, after?_eq_some_iff]
  constructor
  · intro found
    obtain ⟨a, rfl, behind, named, found⟩ := found
    rw [isEmpty_takeWhile_isBlank behind, Option.ite_none_left_eq_some, Bool.or_eq_true, not_or,
      List.isEmpty_iff, Bool.not_eq_true', Bool.not_eq_false] at found
    obtain ⟨⟨something, blank⟩, same⟩ := found
    have spaced : IsGap (a.takeWhile isBlank) :=
      ⟨something, fun c inside => List.all_eq_true.1 List.all_takeWhile c inside⟩
    refine ⟨a.takeWhile isBlank, behind, ?_, spaced, blank, (Option.some.inj same).symm⟩
    rw [exportWords_append, ← named, List.takeWhile_append_dropWhile]
  · intro found
    obtain ⟨gap, behind, rfl, spaced, blank, rfl⟩ := found
    refine ⟨_, exportWords_append gap behind, behind, spaced.dropWhile behind, ?_⟩
    rw [spaced.takeWhile, isEmpty_takeWhile_isBlank, blank, Bool.not_true, Bool.or_false,
      List.isEmpty_eq_false_iff.2 spaced.something]
    rfl

/-- What the search finds is a default export with a blank behind it. -/
theorem splitExport?_eq_some {inWord : Bool} {pre post : List Char}
    (split : splitExport? inWord cs = some (pre, post)) : ∃ gap behind,
      cs = pre ++ exportWords gap ++ behind ∧ IsGap gap ∧ underWay inWord pre = false ∧
        startsBlank behind = true ∧ post = trimStart behind := by
  induction cs generalizing inWord pre with
  | nil => cases split
  | cons c cs ih =>
      rw [splitExport?] at split
      split at split
      · next found =>
          cases split
          rw [Option.ite_none_left_eq_some] at found
          obtain ⟨free, found⟩ := found
          obtain ⟨gap, behind, whole, spaced, blank, rest⟩ := afterExport?_eq_some_iff.1 found
          exact ⟨gap, behind, whole, spaced, Bool.eq_false_iff.2 free, blank, rest⟩
      · obtain ⟨⟨pre, post⟩, split, same⟩ := Option.map_eq_some_iff.1 split
        cases same
        obtain ⟨gap, behind, rfl, found⟩ := ih split
        exact ⟨gap, behind, rfl, found⟩

/-- What stands around an export is a front and a tail of the text. -/
theorem parts_of_splitExport? {inWord : Bool} {pre post : List Char}
    (split : splitExport? inWord cs = some (pre, post)) : pre <+: cs ∧ post <:+ cs := by
  obtain ⟨gap, behind, rfl, -, -, -, rfl⟩ := splitExport?_eq_some split
  constructor
  · rw [List.append_assoc]
    exact List.prefix_append pre _
  · exact (List.dropWhile_suffix isBlank).trans (List.suffix_append _ behind)

/-- The search finds some default export if there is one with a blank behind it. -/
theorem isSome_splitExport? {inWord : Bool} (spaced : IsGap gap)
    (blank : startsBlank behind = true) (free : underWay inWord before = false) :
    (splitExport? inWord (before ++ exportWords gap ++ behind)).isSome := by
  induction before generalizing inWord with
  | nil =>
      obtain rfl : inWord = false := free
      have found : afterExport? (exportWords gap ++ behind) = some (trimStart behind) :=
        afterExport?_eq_some_iff.2 ⟨gap, behind, rfl, spaced, blank, rfl⟩
      rw [exportWords_eq_cons, List.cons_append] at found
      rw [List.nil_append, exportWords_eq_cons, List.cons_append, splitExport?,
        if_neg Bool.false_ne_true, found]
      rfl
  | cons c before ih =>
      rw [List.cons_append, List.cons_append, splitExport?]
      split
      · rfl
      · rw [Option.isSome_map]
        exact ih free

/-- Of a text with a single default export the search finds that one, if it finds any. -/
theorem OnlyExport.of_splitExport? {pre post : List Char} (only : OnlyExport cs before gap behind)
    (split : splitExport? false cs = some (pre, post)) :
    pre = before ∧ post = trimStart behind ∧ startsBlank behind = true := by
  obtain ⟨g, e, whole, spaced, free, blank, rfl⟩ := splitExport?_eq_some split
  have there : ExportAt cs pre g e := ⟨whole, spaced, free, endsWord_of_startsBlank blank⟩
  obtain rfl := only.only there
  obtain rfl := only.here.eq_behind there
  exact ⟨rfl, rfl, blank⟩

/-- The script with its default export turned into the declaration of the exported value. -/
def declared (before behind : List Char) : String :=
  String.ofList before ++ declaration ++ String.ofList (trimStart behind)

/-- What follows a script in which no default export is found. -/
def emptyDeclaration : String := "\nconst " ++ constantName ++ " = \x7b\x7d;"

/-- What stands between the declaration and the template. -/
def attachment : String := "\n" ++ constantName ++ ".template = "

/-- What stands between the template and the place where the component is mounted. -/
def mounting : String := ";" ++ "\n" ++ "Vue.createApp(" ++ constantName ++ ").mount("

/-- The script of a component: its declaration, the template and the mount. -/
theorem toScript_eq (c : Component) (mount : String) :
    c.toScript mount = declare c.script ++ attachment ++ literal c.template ++ mounting ++
      literal mount ++ ");" := by
  simp only [toScript, attachment, mounting, String.intercalate_cons_cons,
    String.intercalate_singleton, String.append_assoc]

/-- What follows the declaration. -/
def running (c : Component) (mount : String) : String :=
  attachment ++ literal c.template ++ mounting ++ literal mount ++ ");"

private theorem toScript_eq_running (c : Component) (mount : String) :
    c.toScript mount = declare c.script ++ running c mount := by
  rw [toScript_eq, running]
  simp only [String.append_assoc]

/-- An export is replaced where it stands. -/
theorem declare_of_some {script : String} {pre post : List Char}
    (split : splitExport? false script.toList = some (pre, post)) :
    declare script = String.ofList pre ++ declaration ++ String.ofList post := by
  rw [declare, split]

/-- Without an export the empty declaration is put behind the script. -/
theorem declare_of_none {script : String} (nothing : splitExport? false script.toList = none) :
    declare script = String.ofList (trimStart (script ++ emptyDeclaration).toList) := by
  have whole : script ++ "\nconst " ++ constantName ++ " = \x7b\x7d;" =
      script ++ emptyDeclaration := by
    simp only [emptyDeclaration, String.append_assoc]
  rw [declare, nothing, whole]

/-- With a blank behind it a single default export becomes a declaration. -/
theorem declare_of_startsBlank {script : String}
    (only : OnlyExport script.toList before gap behind) (blank : startsBlank behind = true) :
    declare script = declared before behind := by
  have found : (splitExport? false script.toList).isSome := by
    rw [only.here.split]
    exact isSome_splitExport? only.here.spaced blank only.here.starts
  obtain ⟨⟨pre, post⟩, split⟩ := Option.isSome_iff_exists.1 found
  obtain ⟨rfl, rfl, -⟩ := only.of_splitExport? split
  rw [declare_of_some split, declared]

/-- Without a blank behind it a single default export stays. -/
theorem declare_of_not_startsBlank {script : String}
    (only : OnlyExport script.toList before gap behind) (tight : startsBlank behind = false)
    (trimmed : startsBlank script.toList = false) :
    declare script = script ++ emptyDeclaration := by
  have nothing : splitExport? false script.toList = none := by
    rw [Option.eq_none_iff_forall_ne_some]
    intro ⟨pre, post⟩ split
    obtain ⟨-, -, blank⟩ := only.of_splitExport? split
    rw [tight] at blank
    cases blank
  have front : startsBlank (script ++ emptyDeclaration).toList = false := by
    rw [String.toList_append]
    cases text : script.toList with
    | nil =>
        have whole := only.here.split
        rw [text, exportWords_eq_cons] at whole
        simp at whole
    | cons c cs =>
        rw [text] at trimmed
        exact trimmed
  rw [declare_of_none nothing, trimStart_of_not_startsBlank front, String.ofList_toList]

private theorem toList_declared (before behind : List Char) : (declared before behind).toList =
    before ++ declaration.toList ++ trimStart behind := by
  simp only [declared, String.toList_append, String.toList_ofList]

private theorem not_mem_declaration : 'e' ∉ declaration.toList := by
  decide

namespace OnlyExport

/-- No other default export stands in front of the only one, whatever follows it there. -/
theorem not_in_front {text s more : List Char}
    (only : OnlyExport cs (b ++ exportWords g ++ s) gap behind)
    (found : ExportAt text b g (s ++ more)) : False := by
  have there : ExportAt cs b g (s ++ exportWords gap ++ behind) := by
    refine ⟨?_, found.spaced, found.starts, ?_⟩
    · rw [only.here.split]
      simp only [List.append_assoc]
    · cases s with
      | nil =>
          have starts := only.here.starts
          rw [List.append_nil, underWay_append, underWay_exportWords] at starts
          cases starts
      | cons c s => exact found.ends
  have same := only.only there
  rw [exportWords_eq_cons] at same
  simp at same

/-- No other default export stands behind the only one, whatever stands in front of it there. -/
theorem not_behind {text a s : List Char} (only : OnlyExport cs before gap behind)
    (rest : trimStart behind = s ++ (exportWords g ++ e)) (found : ExportAt text (a ++ s) g e) :
    False := by
  obtain ⟨blanks, whole, blank⟩ := exists_blanks behind
  have there : ExportAt cs (before ++ exportWords gap ++ blanks ++ s) g e := by
    refine ⟨?_, found.spaced, ?_, found.ends⟩
    · rw [only.here.split, whole, rest]
      simp only [List.append_assoc]
    · have free := found.starts
      rw [underWay_append] at free ⊢
      cases s with
      | cons c s => exact free
      | nil =>
          rw [underWay_append]
          cases blanks with
          | cons c blanks =>
              obtain ⟨first, later⟩ := List.forall_mem_cons.1 blank
              rw [underWay, underWay, isWord_of_isBlank first]
              exact underWay_of_blank later
          | nil =>
              -- No word follows the words of the only export, but those of the other one would.
              have ends := only.here.ends
              rw [whole, rest, exportWords_eq_cons] at ends
              cases ends
  have same := only.only there
  rw [exportWords_eq_cons] at same
  simp at same

/-- Where the only default export has become a declaration there is none. -/
theorem not_exportAt_declared (only : OnlyExport cs before gap behind) :
    ¬ExportAt (declared before behind).toList b g e := by
  intro found
  have split := found.split
  rw [toList_declared, List.append_assoc, List.append_assoc] at split
  rcases List.append_eq_append_iff.1 split with ⟨d, rfl, reach⟩ | ⟨s, rfl, reach⟩
  · rcases List.append_eq_append_iff.1 reach with ⟨s, rfl, rest⟩ | ⟨s, inside, rest⟩
    · -- It stands behind the declaration.
      rw [← List.append_assoc] at found
      exact only.not_behind rest found
    · cases s with
      | nil =>
          rw [← List.append_nil (before ++ d)] at found
          exact only.not_behind (s := []) rest.symm found
      | cons c s =>
          -- It starts within the declaration, which does not have its first character.
          rw [exportWords_eq_cons] at rest
          obtain ⟨rfl, -⟩ := List.cons.inj rest
          refine absurd ?_ not_mem_declaration
          rw [inside]
          exact List.mem_append_right d List.mem_cons_self
  · -- It starts in front of the declaration, whose first character it does not have.
    have front : exportWords g <+: s ++ (declaration.toList ++ trimStart behind) := ⟨e, reach⟩
    obtain ⟨t, rfl⟩ := (prefix_append_cons_iff found.spaced.not_mem_exportWords).1 front
    rw [List.append_assoc, List.append_cancel_left_eq] at reach
    subst reach
    rw [← List.append_assoc] at only
    exact only.not_in_front found

end OnlyExport

/-- The script of a component is the first script block, trimmed. -/
theorem toList_script (source : String) : (ofSource source).script.toList =
    trimChars ((firstBlock? "script".toList source.toList).getD []) :=
  String.toList_ofList

/-- **Default exports.** The script of a component whose source has a single default export is the
one with the export turned into a declaration exactly if a blank follows the words of the export.
Otherwise the export stays, and an empty component is declared behind it. Once it has become a
declaration, no default export is left. -/
theorem toScript_eq_declared_iff (source mount : String)
    (only : OnlyExport (ofSource source).script.toList before gap behind) :
    ((ofSource source).toScript mount = declared before behind ++ running (ofSource source) mount ↔
        startsBlank behind = true) ∧
      (startsBlank behind = false → (ofSource source).toScript mount =
        (ofSource source).script ++ emptyDeclaration ++ running (ofSource source) mount) ∧
      ∀ b g e, ¬ExportAt (declared before behind).toList b g e := by
  have trimmed : startsBlank (ofSource source).script.toList = false := by
    rw [toList_script]
    exact startsBlank_trimChars _
  rw [toScript_eq_running]
  refine ⟨⟨?_, ?_⟩, ?_, fun b g e => only.not_exportAt_declared⟩
  · intro same
    rw [String.append_left_inj] at same
    by_contra blank
    -- The export that stays would be one of the text in which none is left.
    have kept := declare_of_not_startsBlank only (Bool.eq_false_iff.2 blank) trimmed
    have there := only.here.append emptyDeclaration.toList rfl
    rw [← String.toList_append, ← kept, same] at there
    exact only.not_exportAt_declared there
  · intro blank
    rw [declare_of_startsBlank only blank]
  · intro tight
    rw [declare_of_not_startsBlank only tight trimmed]

/-- A component with a tab behind the words of its default export. -/
def spacedSource : String := "<script>let a\nexport  default\t\x7b a \x7d</script>"

/-- An export with more blanks around it, and what becomes of it. -/
theorem toScript_eq_declared_iff_spaced :
    OnlyExport (ofSource spacedSource).script.toList "let a\n".toList [' ', ' ']
        "\t\x7b a \x7d".toList ∧
      (ofSource spacedSource).toScript mountSelector =
        "let a\nconst __sfc__ = \x7b a \x7d" ++ running (ofSource spacedSource) mountSelector := by
  have here : ExportAt (ofSource spacedSource).script.toList "let a\n".toList [' ', ' ']
      "\t\x7b a \x7d".toList :=
    ⟨by decide, ⟨List.cons_ne_nil _ _, List.all_eq_true.1 rfl⟩, rfl, rfl⟩
  have only := here.onlyExport (by decide)
  obtain ⟨rewritten, -⟩ := toScript_eq_declared_iff spacedSource mountSelector only
  exact ⟨only, rewritten.2 rfl⟩

/-- A component with nothing between the words of its default export and the exported value. -/
def tightSource : String := "<script>export default\x7ba:1\x7d</script>"

/-- Its export stays in its script, and what is mounted is an empty component. -/
theorem toScript_tight :
    OnlyExport (ofSource tightSource).script.toList [] [' '] "\x7ba:1\x7d".toList ∧
      (ofSource tightSource).toScript mountSelector =
        "export default\x7ba:1\x7d\nconst __sfc__ = \x7b\x7d;\n__sfc__.template = \"\";\n" ++
          "Vue.createApp(__sfc__).mount(\"#app\");" ∧
      (ofSource tightSource).toScript mountSelector ≠ declared [] "\x7ba:1\x7d".toList ++
        running (ofSource tightSource) mountSelector ∧
      ∃ behind,
        ExportAt ((ofSource tightSource).toScript mountSelector).toList [] [' '] behind := by
  have here : ExportAt (ofSource tightSource).script.toList [] [' '] "\x7ba:1\x7d".toList :=
    ⟨by decide, ⟨List.cons_ne_nil _ _, List.all_eq_true.1 rfl⟩, rfl, rfl⟩
  have rest : endsWord (emptyDeclaration ++ running (ofSource tightSource) mountSelector).toList =
      true := by decide
  have stays := here.append _ rest
  have kept : (ofSource tightSource).script ++ (emptyDeclaration ++
      running (ofSource tightSource) mountSelector) =
        (ofSource tightSource).toScript mountSelector := by decide
  rw [← String.toList_append, kept] at stays
  exact ⟨here.onlyExport (by decide), by decide, by decide, _, stays⟩

end Component

end WebPreview
