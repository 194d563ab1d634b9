import RemovableMedia.Storage.Tree

/-!
# New entries of a file tree

Directories, files and links that are added to a tree.  Links on the way are
followed as for a look-up, and so is one that stands where a file is written;
directories and links are made only where nothing is.
-/

namespace RemovableMedia

/-- What can be added to a tree. -/
inductive NewEntry where
  | directory
  | file (content : ByteArray)
  | link (target : String)

namespace FileTree

/-- The tree with a node at the end of a walk. -/
def put (tree : FileTree) (place : List String) (node : Node) : FileTree :=
  { tree with root := node.place place.reverse tree.root }

/-- The place for an entry that the steps lead to and that is not there. -/
def vacancy (tree : FileTree) (start steps : List String) :
    Except PathFault (List String) := do
  let name := steps.getLast?.getD "."
  let spot ← tree.walk mostLinks start steps.dropLast
  match spot.node with
  | some (.directory entries) =>
      if name = "." || name = ".." ||
          ((Node.directory entries).child? name).isSome then
        throw .alreadyThere
      else if longestName < name.utf8ByteSize then
        throw .nameTooLong
      else
        return name :: spot.place
  | some _ => throw .notADirectory
  | none => throw .missing

/-- Is there a directory at the end of these steps? -/
def hasDirectory (tree : FileTree) (start steps : List String) : Bool :=
  match tree.walk mostLinks start steps with
  | .ok ⟨_, some (.directory _)⟩ => true
  | _ => false

/-- Makes the directories that are missing along the steps. -/
def makeDirectories (tree : FileTree) (start steps : List String) :
    Except PathFault FileTree :=
  (List.range steps.length).foldlM
    (fun tree count => do
      let passed := steps.take (count + 1)
      if tree.hasDirectory start passed then
        return tree
      else
        return tree.put (← tree.vacancy start passed) .empty)
    tree

/-- Writes a file, in place of the one that may be there. -/
def write (tree : FileTree) (path : String) (content : ByteArray) :
    Except PathFault FileTree := do
  let spot ← tree.goTo path
  match spot.node with
  | some (.directory _) => throw .isADirectory
  | _ => return tree.put spot.place (.file content)

/-- Adds a link, whatever is at its target. -/
def makeLink (tree : FileTree) (path target : String) :
    Except PathFault FileTree := do
  checkPath target
  let place ← tree.vacancy (tree.startOf path) (Path.steps path)
  return tree.put place (.link target)

/-- Adds an entry, and the directories on the way that are missing. -/
def add (tree : FileTree) (path : String) (entry : NewEntry) :
    Except PathFault FileTree := do
  checkPath path
  let start := tree.startOf path
  let names := Path.names path
  match entry with
  | .directory => tree.makeDirectories start names
  | .file content =>
      (← tree.makeDirectories start names.dropLast).write path content
  | .link target =>
      (← tree.makeDirectories start names.dropLast).makeLink path target

end FileTree

end RemovableMedia
