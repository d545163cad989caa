import Mathlib.Data.List.Nodup
import WebPreview.Component
import WebPreview.Proofs.Text.Marks

/-! # The blocks of a written component

A component is written as its blocks in any order, each between its tags, with other text around
them. The blocks that are found in it are those that were written
(`WebPreview.Component.block_ofSource`), as long as no body holds a tag that another search
would take for its own. A template may hold templates, since its block reaches to the last
closing tag.
-/

namespace WebPreview.Component

open Text

/-- The kinds of block. -/
inductive BlockKind where
  | template
  | script
  | style
deriving DecidableEq

namespace BlockKind

/-- The name in the tags of a block. -/
def name : BlockKind → String
  | template => "template"
  | script => "script"
  | style => "style"

/-- What does not occur in the body of a block. A script and a style end at their first closing
tag, and no body holds a tag that another block is looked for by. -/
def barred : BlockKind → List String
  | template => ["<script", "<style"]
  | script => ["</script>", "<style", "<template", "</template>"]
  | style => ["</style>", "<script", "<template", "</template>"]

end BlockKind

/-- A block as it is written. -/
structure Block where
  kind : BlockKind
  attributes : String
  body : String
  /-- The attributes are parted from the name. -/
  parted : ∀ c ∈ attributes.toList.head?, isBlank c = true
  /-- The attributes are within the tag. -/
  within : '<' ∉ attributes.toList ∧ '>' ∉ attributes.toList
  free : ∀ mark ∈ kind.barred, occurs mark body = false

/-- The block between its tags. -/
def Block.text (b : Block) : String :=
  "<" ++ b.kind.name ++ b.attributes ++ ">" ++ b.body ++ "</" ++ b.kind.name ++ ">"

/-- A component as it is written: some text, and blocks of different kinds with some text behind
each. -/
structure Written where
  front : String
  blocks : List (Block × String)
  plain_front : '<' ∉ front.toList
  plain : ∀ part ∈ blocks, '<' ∉ part.2.toList
  nodup : (blocks.map fun part => part.1.kind).Nodup

/-- The source of the component. -/
def Written.text (w : Written) : String :=
  w.front ++ String.join (w.blocks.map fun part => part.1.text ++ part.2)

/-- The block of a kind. -/
def block (c : Component) : BlockKind → String
  | .template => c.template
  | .script => c.script
  | .style => c.style

/-- How the block of a kind is looked for. -/
def BlockKind.find? (k : BlockKind) (source : List Char) : Option (List Char) :=
  match k with
  | .template => widestBlock? k.name.toList source
  | .script | .style => firstBlock? k.name.toList source

private theorem block_ofSource_eq (source : String) (k : BlockKind) :
    (ofSource source).block k = blockText (k.find? source.toList) := by
  cases k <;> rfl

variable {name cs rest attributes : List Char}

/-- The body of the first block runs from its opening tag to the first closing tag. -/
theorem firstBlock?_eq_some_iff {source found : List Char} :
    firstBlock? name source = some found ↔ ∃ body behind,
      afterFirstTag? name source = some body ∧
        splitFirst? (closingTag name) body = some (found, behind) := by
  simp [firstBlock?, Option.bind_eq_some_iff]

/-- The widest body runs from the first opening tag to the last closing tag. -/
theorem widestBlock?_eq_some_iff {source found : List Char} :
    widestBlock? name source = some found ↔ ∃ body behind,
      afterFirstTag? name source = some body ∧
        splitLast? (closingTag name) body = some (found, behind) := by
  simp [widestBlock?, Option.bind_eq_some_iff]

private theorem afterTag?_of_not_prefix (absent : ¬ '<' :: name <+: cs) :
    afterTag? name cs = none := by
  have nothing : after? ('<' :: name) cs = none :=
    after?_eq_none_iff.2 fun rest same => absent ⟨rest, same.symm⟩
  simp only [afterTag?, nothing]

private theorem afterTag?_of_tag (parted : ∀ c ∈ attributes.head?, isBlank c = true)
    (within : '>' ∉ attributes) (rest : List Char) :
    afterTag? name ('<' :: (name ++ (attributes ++ '>' :: rest))) = some rest := by
  have here : after? ('<' :: name) ('<' :: (name ++ (attributes ++ '>' :: rest))) =
      some (attributes ++ '>' :: rest) := after?_eq_some_iff.2 rfl
  rw [afterTag?, here]
  cases attributes with
  | nil => rfl
  | cons c attributes =>
      have blank : isBlank c = true := parted c rfl
      have inside : ¬['>'] <:+: attributes := fun mark =>
        within (List.mem_cons_of_mem _ (mark.subset List.mem_cons_self))
      have ends := splitFirst?_of_not_infix List.not_mem_nil inside rest
      rw [List.append_assoc, List.singleton_append] at ends
      rw [List.cons_append]
      split
      · next same =>
          obtain ⟨rfl, -⟩ := List.cons.inj (Option.some.inj same)
          exact absurd List.mem_cons_self within
      · next same =>
          obtain ⟨rfl, rfl⟩ := List.cons.inj (Option.some.inj same)
          rw [if_pos blank, ends, Option.map_some]
      · next other => exact absurd rfl (other c _)

private theorem afterFirstTag?_of_not_infix (absent : ¬ '<' :: name <:+: cs) :
    afterFirstTag? name cs = none := by
  induction cs with
  | nil => rfl
  | cons c cs ih =>
      rw [List.infix_cons_iff, not_or] at absent
      rw [afterFirstTag?, afterTag?_of_not_prefix absent.1, Option.none_or, ih absent.2]

/-- The first opening tag is found behind a text that holds none. -/
theorem afterFirstTag?_append (once : '<' ∉ name) (absent : ¬ '<' :: name <:+: cs)
    {tail : List Char} (here : afterTag? name ('<' :: tail) = some rest) :
    afterFirstTag? name (cs ++ '<' :: tail) = some rest := by
  induction cs with
  | nil => rw [List.nil_append, afterFirstTag?, here, Option.some_or]
  | cons c cs ih =>
      have before : ¬ '<' :: name <+: c :: (cs ++ '<' :: tail) := by
        intro reach
        rw [List.cons_prefix_cons, prefix_append_cons_iff once] at reach
        obtain ⟨rfl, inside⟩ := reach
        exact absent (List.cons_prefix_cons.2 ⟨rfl, inside⟩).isInfix
      rw [List.infix_cons_iff, not_or] at absent
      rw [List.cons_append, afterFirstTag?, afterTag?_of_not_prefix before, Option.none_or,
        ih absent.2]

namespace BlockKind

variable {k other : BlockKind}

private theorem open_not_mem_name (k : BlockKind) : '<' ∉ k.name.toList := by
  cases k <;> decide

private theorem not_name_prefix (different : k ≠ other) (rest : List Char) :
    ¬k.name.toList <+: other.name.toList ++ rest := by
  rintro ⟨tail, same⟩
  cases k <;> cases other <;> first | exact absurd rfl different | cases same

end BlockKind

namespace Block

/-- The opening tag of the block. -/
def opening (b : Block) : List Char :=
  '<' :: (b.kind.name.toList ++ (b.attributes.toList ++ ['>']))

/-- The closing tag of the block and the text behind it. -/
def ending (b : Block) (gap : List Char) : List Char :=
  closingTag b.kind.name.toList ++ gap

variable {b : Block} {gap p : List Char}

private theorem toList_text (b : Block) (gap : List Char) :
    b.text.toList ++ gap = b.opening ++ b.body.toList ++ b.ending gap := by
  simp [text, opening, ending, closingTag]

/-- A mark that occurs in the block and the text behind it starts a tag of the block, or occurs
in its body. -/
theorem mark_cases (once : '<' ∉ p) (plain : '<' ∉ gap)
    (inside : '<' :: p <:+: b.text.toList ++ gap) :
    '<' :: p <+: b.opening ++ b.body.toList ∨ '<' :: p <:+: b.body.toList ∨
      '<' :: p <+: b.ending gap := by
  have starts : ∀ c ∈ (b.ending gap).head?, c = '<' := by
    intro c first
    exact (Option.some.inj first).symm
  rw [toList_text, infix_append_iff_of_starts once starts] at inside
  rcases inside with front | behind
  · have tag : '<' ∉ b.kind.name.toList ++ (b.attributes.toList ++ ['>']) := by
      simp [b.kind.open_not_mem_name, b.within.1]
    rw [opening, List.cons_append, List.infix_cons_iff, infix_append_iff_of_front tag] at front
    rcases front with reach | body
    · exact .inl reach
    · exact .inr (.inl body)
  · have tag : '<' ∉ '/' :: (b.kind.name.toList ++ ['>'] ++ gap) := by
      simp [b.kind.open_not_mem_name, plain]
    have split : b.ending gap = '<' :: '/' :: (b.kind.name.toList ++ ['>'] ++ gap) := rfl
    rw [split, List.infix_cons_iff] at behind
    rcases behind with reach | more
    · exact .inr (.inr (split ▸ reach))
    · exact absurd (more.subset List.mem_cons_self) tag

private theorem not_infix_body {mark : String} (b : Block) (barred : mark ∈ b.kind.barred) :
    ¬mark.toList <:+: b.body.toList := by
  intro inside
  have found := occurs_iff_infix.2 inside
  rw [b.free mark barred] at found
  cases found

/-- No other block is opened in a block. -/
theorem unopened {k : BlockKind} (b : Block) (different : k ≠ b.kind)
    (plain : '<' ∉ gap) : ¬ '<' :: k.name.toList <:+: b.text.toList ++ gap := by
  intro inside
  have barred : "<" ++ k.name ∈ b.kind.barred := by
    revert different
    cases k <;> cases b.kind <;> decide
  rcases mark_cases k.open_not_mem_name plain inside with reach | body | reach
  · rw [opening, List.cons_append, List.cons_prefix_cons, List.append_assoc] at reach
    exact BlockKind.not_name_prefix different _ reach.2
  · exact b.not_infix_body barred (by rwa [String.toList_append])
  · obtain ⟨tail, same⟩ := reach
    cases k <;> cases same

/-- No template is closed in another block. -/
theorem unclosed (b : Block) (different : .template ≠ b.kind) (plain : '<' ∉ gap) :
    ¬closingTag BlockKind.template.name.toList <:+: b.text.toList ++ gap := by
  intro inside
  have barred : "</template>" ∈ b.kind.barred := by
    revert different
    cases b.kind <;> decide
  have once : '<' ∉ '/' :: (BlockKind.template.name.toList ++ ['>']) := by decide
  rcases mark_cases once plain inside with reach | body | reach
  · rw [opening, List.cons_append, List.cons_prefix_cons] at reach
    obtain ⟨tail, same⟩ := reach.2
    generalize b.kind = k at same
    cases k <;> cases same
  · exact b.not_infix_body barred body
  · have split : b.ending gap = '<' :: '/' :: (b.kind.name.toList ++ (['>'] ++ gap)) := by
      rw [ending, closingTag, List.append_assoc, List.cons_append, List.cons_append]
    rw [split, List.cons_prefix_cons, List.cons_prefix_cons] at reach
    have named := (List.prefix_append _ _).trans reach.2.2
    exact BlockKind.not_name_prefix different _ named

end Block

/-- The blocks with the text behind each. -/
def parts (blocks : List (Block × String)) : List Char :=
  blocks.flatMap fun part => part.1.text.toList ++ part.2.toList

variable {blocks : List (Block × String)} {front p : List Char}

private theorem head_parts (blocks : List (Block × String)) :
    ∀ c ∈ (parts blocks).head?, c = '<' := by
  intro c first
  cases blocks with
  | nil => cases first
  | cons part blocks =>
      rw [parts, List.flatMap_cons, Block.toList_text, Block.opening] at first
      exact (Option.some.inj first).symm

/-- A mark that occurs in none of the blocks does not occur in all of them together. -/
theorem not_infix_parts (once : '<' ∉ p) (plain : '<' ∉ front)
    (absent : ∀ part ∈ blocks, ¬ '<' :: p <:+: part.1.text.toList ++ part.2.toList) :
    ¬ '<' :: p <:+: front ++ parts blocks := by
  rw [infix_append_iff_of_front plain]
  induction blocks with
  | nil =>
      intro inside
      cases List.infix_nil.1 inside
  | cons part blocks ih =>
      rw [List.forall_mem_cons] at absent
      rw [parts, List.flatMap_cons, ← parts, infix_append_iff_of_starts once (head_parts blocks),
        not_or]
      exact ⟨absent.1, ih absent.2⟩

variable {k : BlockKind}

/-- A block is opened nowhere among blocks of other kinds. -/
theorem unopened_parts (plain_front : '<' ∉ front)
    (plain : ∀ part ∈ blocks, '<' ∉ part.2.toList) (others : ∀ part ∈ blocks, k ≠ part.1.kind) :
    ¬ '<' :: k.name.toList <:+: front ++ parts blocks := by
  apply not_infix_parts k.open_not_mem_name plain_front
  intro part inside
  exact part.1.unopened (others part inside) (plain part inside)

/-- A block that no other of its kind stands beside is found. -/
theorem find?_of_parts {before behind : List (Block × String)} {b : Block} {gap : String}
    (plain_front : '<' ∉ front)
    (plain : ∀ part ∈ before ++ (b, gap) :: behind, '<' ∉ part.2.toList)
    (others : ∀ part ∈ before ++ behind, b.kind ≠ part.1.kind) :
    b.kind.find? (front ++ parts (before ++ (b, gap) :: behind)) = some b.body.toList := by
  rw [List.forall_mem_append, List.forall_mem_cons] at plain
  rw [List.forall_mem_append] at others
  have unopened := unopened_parts plain_front plain.1 others.1
  have opened (rest : List Char) : afterTag? b.kind.name.toList
      ('<' :: (b.kind.name.toList ++ (b.attributes.toList ++ '>' :: rest))) = some rest :=
    afterTag?_of_tag b.parted b.within.2 rest
  have text : front ++ parts (before ++ (b, gap) :: behind) =
      (front ++ parts before) ++ '<' :: (b.kind.name.toList ++ (b.attributes.toList ++ '>' ::
        (b.body.toList ++ closingTag b.kind.name.toList ++ (gap.toList ++ parts behind)))) := by
    simp [parts, Block.text, closingTag]
  have found : afterFirstTag? b.kind.name.toList (front ++ parts (before ++ (b, gap) :: behind)) =
      some (b.body.toList ++ closingTag b.kind.name.toList ++ (gap.toList ++ parts behind)) := by
    rw [text]
    exact afterFirstTag?_append b.kind.open_not_mem_name unopened (opened _)
  have once : '<' ∉ '/' :: (b.kind.name.toList ++ ['>']) := by
    simp [b.kind.open_not_mem_name]
  unfold BlockKind.find?
  split
  · next template =>
      -- The widest block ends where no template is closed behind it.
      have unclosed : ¬closingTag b.kind.name.toList <:+: gap.toList ++ parts behind := by
        apply not_infix_parts once plain.2.1
        intro part inside
        rw [template]
        exact part.1.unclosed (template ▸ others.2 part inside) (plain.2.2 part inside)
      have split := splitLast?_of_not_infix once unclosed b.body.toList
      exact widestBlock?_eq_some_iff.2 ⟨_, _, found, split⟩
  all_goals
    next kind =>
      have barred : "</" ++ b.kind.name ++ ">" ∈ b.kind.barred := by
        rw [kind]
        decide
      have unclosed : ¬closingTag b.kind.name.toList <:+: b.body.toList := by
        have absent := b.not_infix_body barred
        rwa [String.toList_append, String.toList_append] at absent
      have split := splitFirst?_of_not_infix once unclosed (gap.toList ++ parts behind)
      exact firstBlock?_eq_some_iff.2 ⟨_, _, found, split⟩

private theorem Written.toList_text (w : Written) :
    w.text.toList = w.front.toList ++ parts w.blocks := by
  simp [Written.text, parts, String.toList_join, List.flatMap_map]

/-- In the source of a component, whatever the order of its blocks, the block of each kind that
was written is found without the blanks around it, and of the other kinds an empty one. -/
theorem block_ofSource (w : Written) :
    (∀ part ∈ w.blocks, (ofSource w.text).block part.1.kind = trim part.1.body) ∧
      ∀ k, (∀ part ∈ w.blocks, part.1.kind ≠ k) → (ofSource w.text).block k = "" := by
  constructor
  · rintro ⟨b, gap⟩ inside
    obtain ⟨before, behind, split⟩ := List.append_of_mem inside
    have others : ∀ part ∈ before ++ behind, b.kind ≠ part.1.kind := by
      have nodup := w.nodup
      rw [split, List.map_append, List.map_cons, List.nodup_middle, List.nodup_cons,
        ← List.map_append] at nodup
      intro part there same
      exact nodup.1 (same ▸ List.mem_map_of_mem there)
    have found := find?_of_parts w.plain_front (split ▸ w.plain) others
    rw [block_ofSource_eq, w.toList_text, split, found]
    rfl
  · intro k others
    have unopened := unopened_parts w.plain_front w.plain
      fun part inside same => others part inside same.symm
    have missing := afterFirstTag?_of_not_infix unopened
    rw [block_ofSource_eq, w.toList_text]
    cases k <;> simp only [BlockKind.find?, widestBlock?, firstBlock?, missing] <;> rfl

/-- A style in front of a template that holds another one. -/
def Written.styledFirst : Written where
  front := "App\n"
  blocks := [
    ({  kind := .style
        attributes := " lang=\"css\""
        body := " b \x7b\x7d\n"
        parted := by rintro _ ⟨⟩; rfl
        within := by decide
        free := by decide }, "\n"),
    ({  kind := .template
        attributes := ""
        body := "<p><template>x</template></p> "
        parted := nofun
        within := by decide
        free := by decide }, "")]
  plain_front := by decide
  plain := by decide
  nodup := by decide

/-- The whole template is found, and no script. -/
theorem block_ofSource_styledFirst :
    (ofSource Written.styledFirst.text).template = "<p><template>x</template></p>" ∧
      (ofSource Written.styledFirst.text).style = "b \x7b\x7d" ∧
      (ofSource Written.styledFirst.text).script = "" := by
  obtain ⟨found, missing⟩ := block_ofSource Written.styledFirst
  exact ⟨found _ (List.mem_cons_of_mem _ List.mem_cons_self), found _ List.mem_cons_self,
    missing .script (by decide)⟩

end WebPreview.Component
