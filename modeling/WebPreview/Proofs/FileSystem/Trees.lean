import WebPreview.FileTree
import WebPreview.Proofs.Keyed.Entries

/-! # Places in a tree

A place that is put into a tree is found where it was put, with all that is below it
(`WebPreview.FileTree.reach_graft_append`), and what is at the places around it stays
(`WebPreview.FileTree.content?_reach_graft`). A directory that is put into a tree makes it no higher
than the way there is long, and a file makes it no higher at all
(`WebPreview.FileTree.height_graft_le`). Where no two places below one have the same name, a tree is
as high as its farthest directory is far (`WebPreview.FileTree.Distinct.height_le_iff`).
-/

namespace WebPreview.FileTree

variable {t : FileTree} {content : Option FileNode} {p q : Path}

@[simp] private theorem reach_nil (t : FileTree) : t.reach [] = t := rfl

/-- A place is reached one name after the other. -/
@[simp] theorem reach_cons (t : FileTree) (name : String) (rest : Path) :
    t.reach (name :: rest) = (t.child name).reach rest := rfl

/-- A place is reached in two parts. -/
theorem reach_append (t : FileTree) (p q : Path) : t.reach (p ++ q) = (t.reach p).reach q := by
  induction p generalizing t with
  | nil => rfl
  | cons name rest ih => exact ih (t.child name)

@[simp] private theorem child_empty (name : String) : empty.child name = empty := rfl

/-- There is nothing below nothing. -/
@[simp] theorem reach_empty (p : Path) : empty.reach p = empty := by
  induction p with
  | nil => rfl
  | cons name rest ih => exact ih

/-- What is below a place does not depend on what is at it. -/
theorem reach_place_children (content : Option FileNode) (t : FileTree) (below : p ≠ []) :
    (place content t.children).reach p = t.reach p := by
  cases p with
  | nil => exact absurd rfl below
  | cons name rest => rfl

private theorem child_put_self (content : Option FileNode) (name : String) (t : FileTree)
    (children : List (String × FileTree)) :
    (place content (Named.put name t children)).child name = t := by
  rw [child, FileTree.children, Named.get?_put_self, Option.getD_some]

private theorem child_put_of_ne {name other : String} (apart : other ≠ name)
    (content : Option FileNode) (t : FileTree) (children : List (String × FileTree)) :
    (place content (Named.put name t children)).child other =
      (place content children).child other := by
  simp only [child, FileTree.children, Named.get?_put_of_ne apart]

/-- A place is found where it was put, with all that is below it. -/
theorem reach_graft_append (scion : FileTree) (p q : Path) (t : FileTree) :
    (graft scion p t).reach (p ++ q) = scion.reach q := by
  induction p generalizing t with
  | nil => rfl
  | cons name rest ih =>
      rw [List.cons_append, reach_cons, graft, child_put_self]
      exact ih (t.child name)

/-- Grafting far below is grafting near by what has been grafted further down. -/
theorem graft_append (scion : FileTree) (p q : Path) (t : FileTree) :
    graft scion (p ++ q) t = graft (graft scion q (t.reach p)) p t := by
  induction p generalizing t with
  | nil => rfl
  | cons name rest ih =>
      rw [List.cons_append, graft, graft, ih (t.child name)]
      rfl

/-- What is at the other places stays, those below the one that is put aside. -/
theorem content?_reach_graft (scion : FileTree) (t : FileTree) (apart : ¬p <+: q) :
    ((graft scion p t).reach q).content? = (t.reach q).content? := by
  induction p generalizing t q with
  | nil => exact absurd List.nil_prefix apart
  | cons name rest ih =>
      cases q with
      | nil => rfl
      | cons other q =>
          rw [reach_cons, reach_cons, graft]
          by_cases same : other = name
          · subst same
            rw [child_put_self]
            exact ih (t.child other) fun leading => apart (List.cons_prefix_cons.2 ⟨rfl, leading⟩)
          · rw [child_put_of_ne same]
            rfl

/-- Putting something at a place, with all that is below it kept, changes nothing elsewhere. -/
theorem content?_reach_graft_of_ne (content : Option FileNode) (t : FileTree) (other : q ≠ p) :
    ((graft (place content (t.reach p).children) p t).reach q).content? = (t.reach q).content? := by
  by_cases leading : p <+: q
  · obtain ⟨rest, rfl⟩ := leading
    have below : rest ≠ [] := by
      rintro rfl
      exact other (List.append_nil p)
    rw [reach_graft_append, reach_place_children content _ below, reach_append]
  · exact content?_reach_graft _ t leading

/-- A part of the way leads to the directory that the rest of it begins in. -/
theorem reach_directories (p q : Path) : (directories (p ++ q)).reach p = directories q := by
  induction p with
  | nil => rfl
  | cons name rest ih =>
      rw [List.cons_append, directories, reach_cons, child, FileTree.children, Named.get?,
        if_pos rfl]
      exact ih

/-- A chain of directories starts with a directory. -/
theorem content?_directories (p : Path) : (directories p).content? = some .directory := by
  cases p <;> rfl

private theorem height_place (content : Option FileNode) (children : List (String × FileTree)) :
    (place content children).height = heightBelow children := by
  rw [height]

/-- How high a tree is does not depend on what is at its root. -/
theorem height_eq (t : FileTree) : t.height = heightBelow t.children := by
  cases t with
  | place content children => exact height_place content children

/-- What a place adds to the height of the tree that it is in. -/
def share (t : FileTree) : Nat :=
  if t.content? = some .directory ∨ 0 < t.height then t.height + 1 else 0

private theorem heightBelow_cons (name : String) (t : FileTree)
    (others : List (String × FileTree)) :
    heightBelow ((name, t) :: others) = max t.share (heightBelow others) := by
  rw [heightBelow]
  rfl

private theorem share_empty : empty.share = 0 := by decide

private theorem height_lt_share (high : 0 < t.height) : t.height < t.share := by
  rw [share, if_pos (.inr high)]
  exact Nat.lt_succ_self _

private theorem share_pos (directory : t.content? = some .directory) : 0 < t.share := by
  rw [share, if_pos (.inl directory)]
  exact Nat.succ_pos _

private theorem share_le {bound : Nat} (directory : t.content? = some .directory → t.height < bound)
    (high : 0 < t.height → t.height < bound) : t.share ≤ bound := by
  unfold share
  split
  · next counts => exact counts.elim directory high
  · exact Nat.zero_le bound

private theorem heightBelow_put_le (name : String) (t : FileTree)
    (children : List (String × FileTree)) :
    heightBelow (Named.put name t children) ≤ max t.share (heightBelow children) := by
  induction children with
  | nil => exact Nat.le_of_eq (heightBelow_cons name t [])
  | cons entry rest ih =>
      obtain ⟨other, old⟩ := entry
      unfold Named.put
      split
      · rw [heightBelow_cons, heightBelow_cons]
        omega
      · rw [heightBelow_cons, heightBelow_cons]
        omega

private theorem share_child_le (t : FileTree) (name : String) :
    (t.child name).share ≤ t.height := by
  rw [height_eq, child]
  generalize t.children = children
  induction children with
  | nil => exact Nat.le_of_eq share_empty
  | cons entry rest ih =>
      obtain ⟨other, old⟩ := entry
      rw [heightBelow_cons, Named.get?]
      split
      · exact Nat.le_max_left _ _
      · exact Nat.le_trans ih (Nat.le_max_right _ _)

/-- Putting something into a tree leaves it within a height that the way to a new directory does
not go beyond. -/
theorem height_graft_le {node : FileNode} {bound : Nat} (low : t.height ≤ bound)
    (short : node = .directory → p.length ≤ bound) :
    (graft (place (some node) (t.reach p).children) p t).height ≤ bound := by
  induction p generalizing t bound with
  | nil =>
      rw [graft, height_place, reach_nil, ← height_eq]
      exact low
  | cons name rest ih =>
      have mine := share_child_le t name
      have above (high : 0 < (t.child name).height) := height_lt_share high
      have low' : (t.child name).height ≤ bound - 1 := by omega
      have inner := ih low' fun directory => Nat.le_sub_one_of_lt (short directory)
      rw [graft, height_place, reach_cons]
      refine Nat.le_trans (heightBelow_put_le name _ t.children) (Nat.max_le.2 ⟨?_, ?_⟩)
      · refine share_le (fun directory => ?_) (by omega)
        have counted : 0 < bound := by
          cases rest with
          | nil => exact short (Option.some.inj directory)
          | cons next others =>
              have there := share_pos (t := t.child name) directory
              omega
        omega
      · rwa [← height_eq]

/-- Names lead to a directory by as many as the tree is high, or by fewer. -/
theorem length_le_height (below : q ≠ []) (found : (t.reach q).content? = some .directory) :
    q.length ≤ t.height := by
  induction q generalizing t with
  | nil => exact absurd rfl below
  | cons name rest ih =>
      have mine := share_child_le t name
      cases rest with
      | nil => exact Nat.le_trans (share_pos found) mine
      | cons next others =>
          have inner := ih (List.cons_ne_nil _ _) found
          have above : (t.child name).height < (t.child name).share := height_lt_share (by
            rw [List.length_cons] at inner
            omega)
          rw [List.length_cons]
          omega

/-- Some place among others adds as much as they add together. -/
theorem exists_share_eq {children : List (String × FileTree)} (high : 0 < heightBelow children) :
    ∃ entry ∈ children, entry.2.share = heightBelow children := by
  induction children with
  | nil => exact absurd high (Nat.lt_irrefl 0)
  | cons entry rest ih =>
      obtain ⟨name, t⟩ := entry
      rw [heightBelow_cons] at high ⊢
      by_cases lower : heightBelow rest ≤ t.share
      · exact ⟨(name, t), List.mem_cons_self, (Nat.max_eq_left lower).symm⟩
      · have higher : t.share ≤ heightBelow rest := by omega
        rw [Nat.max_eq_right higher] at high ⊢
        obtain ⟨found, member, same⟩ := ih high
        exact ⟨found, List.mem_cons_of_mem _ member, same⟩

/-- No two places below one have the same name, anywhere in the tree. -/
inductive Distinct : FileTree → Prop
  | place {content : Option FileNode} {children : List (String × FileTree)}
    (names : (Named.names children).Nodup) (below : ∀ entry ∈ children, Distinct entry.2) :
    Distinct (.place content children)

namespace Distinct

private theorem empty : Distinct empty := .place List.nodup_nil (by simp)

/-- A chain of directories has distinct names. -/
theorem directories (p : Path) : Distinct (directories p) := by
  induction p with
  | nil => exact .place List.nodup_nil (by simp)
  | cons name rest ih =>
      refine .place (List.nodup_cons.2 ⟨List.not_mem_nil, List.nodup_nil⟩) fun entry member => ?_
      obtain rfl := List.mem_singleton.1 member
      exact ih

private theorem names_nodup (distinct : t.Distinct) : (Named.names t.children).Nodup := by
  cases distinct with
  | place names below => exact names

private theorem of_mem (distinct : t.Distinct) {entry : String × FileTree}
    (member : entry ∈ t.children) :
    entry.2.Distinct := by
  cases distinct with
  | place names below => exact below entry member

private theorem child (distinct : t.Distinct) (name : String) : (t.child name).Distinct := by
  unfold FileTree.child
  cases found : Named.get? name t.children with
  | none => exact .empty
  | some below => exact distinct.of_mem (Named.mem_of_get? found)

/-- Every subtree of a tree with distinct names has distinct names. -/
theorem reach (distinct : t.Distinct) (p : Path) : (t.reach p).Distinct := by
  induction p generalizing t with
  | nil => exact distinct
  | cons name rest ih => exact ih (distinct.child name)

/-- Another content leaves the names distinct. -/
theorem withContent (distinct : t.Distinct) (content : Option FileNode) :
    (FileTree.place content t.children).Distinct :=
  .place distinct.names_nodup fun _ => distinct.of_mem

/-- Putting a tree in where no names are used twice keeps it so. -/
theorem graft {scion : FileTree} (inner : scion.Distinct) (p : Path) (distinct : t.Distinct) :
    (FileTree.graft scion p t).Distinct := by
  induction p generalizing t with
  | nil => exact inner
  | cons name rest ih =>
      have putting := ih (distinct.child name)
      refine .place (Keyed.put ⟨_, distinct.names_nodup⟩ name _).nodup fun entry member => ?_
      rcases Named.mem_put member with rfl | kept
      · exact putting
      · exact distinct.of_mem kept

/-- A tree with directories in it has one as many names away as it is high. -/
theorem exists_farthest (distinct : t.Distinct) (high : 0 < t.height) :
    ∃ q, q.length = t.height ∧ (t.reach q).content? = some .directory := by
  induction distinct with
  | @place content children names below ih =>
      rw [height_place] at high ⊢
      obtain ⟨⟨name, t⟩, member, farthest⟩ := exists_share_eq high
      have found : (FileTree.place content children).child name = t := by
        rw [FileTree.child, FileTree.children, Named.get?_of_mem names member, Option.getD_some]
      by_cases deeper : 0 < t.height
      · obtain ⟨q, far, directory⟩ := ih (name, t) member deeper
        refine ⟨name :: q, ?_, by rw [reach_cons, found]; exact directory⟩
        rw [← farthest, share, if_pos (.inr deeper), List.length_cons, far]
      · have counts : t.content? = some .directory ∨ 0 < t.height := by
          refine Classical.not_not.1 fun none => ?_
          rw [share, if_neg none] at farthest
          omega
        refine ⟨[name], ?_, by rw [reach_cons, found]; exact counts.resolve_right deeper⟩
        rw [← farthest, share, if_pos counts, Nat.eq_zero_of_not_pos deeper]
        rfl

/-- A tree stays within a height exactly if no directory below its root is more names away. -/
theorem height_le_iff (distinct : t.Distinct) (bound : Nat) :
    t.height ≤ bound ↔
      ∀ q, q ≠ [] → (t.reach q).content? = some .directory → q.length ≤ bound := by
  constructor
  · intro low q below found
    exact Nat.le_trans (length_le_height below found) low
  · intro near
    by_cases high : 0 < t.height
    · obtain ⟨q, far, found⟩ := distinct.exists_farthest high
      rw [← far] at high ⊢
      exact near q (List.ne_nil_of_length_pos high) found
    · omega

end Distinct

end WebPreview.FileTree
