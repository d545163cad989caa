import WebPreview.Keyed

/-! # Trees of places

A tree has a place for every path, and something is at finitely many of them. The tree does not
say what may stand below what: a place may be below one that holds nothing, or a file.
-/

namespace WebPreview

/-- The names from the root down to a place. -/
abbrev Path := List String

/-- What is at a place. -/
inductive FileNode where
  | directory
  | file (content : String)
deriving DecidableEq, Repr

/-- A place: what is at it, if anything, and the places below it by their names. -/
inductive FileTree where
  | place (content : Option FileNode) (children : List (String × FileTree))

namespace FileTree

/-- Places with nothing at them. -/
def empty : FileTree := place none []

/-- What is at the place. -/
def content? : FileTree → Option FileNode
  | place content _ => content

/-- The places below by their names. -/
def children : FileTree → List (String × FileTree)
  | place _ children => children

/-- The place under a name. -/
def child (t : FileTree) (name : String) : FileTree := (Named.get? name t.children).getD empty

/-- The place that a path leads to. -/
def reach : FileTree → Path → FileTree
  | t, [] => t
  | t, name :: rest => (t.child name).reach rest

/-- The tree with another one in it from a place on. -/
def graft (scion : FileTree) : Path → FileTree → FileTree
  | [], _ => scion
  | name :: rest, t =>
    place t.content? (Named.put name (graft scion rest (t.child name)) t.children)

/-- Directories one in the other, along a path. -/
def directories : Path → FileTree
  | [] => place (some .directory) []
  | name :: rest => place (some .directory) [(name, directories rest)]

mutual

/-- How many names lead from the place to the farthest directory below it, none if there is no
directory below it. -/
def height : FileTree → Nat
  | place _ children => heightBelow children

/-- How many names lead to the farthest directory among places and below them. -/
def heightBelow : List (String × FileTree) → Nat
  | [] => 0
  | (_, t) :: others =>
    let here := if t.content? = some .directory ∨ 0 < t.height then t.height + 1 else 0
    max here (heightBelow others)

end

mutual

/-- The files at the place and below it, by the paths that lead to them from there. -/
def files : FileTree → List (Path × String)
  | place (some (.file content)) children => ([], content) :: filesBelow children
  | place _ children => filesBelow children

/-- The files at places and below them. -/
def filesBelow : List (String × FileTree) → List (Path × String)
  | [] => []
  | (name, t) :: others =>
    t.files.map (fun (p, content) => (name :: p, content)) ++ filesBelow others

end

end FileTree

end WebPreview
