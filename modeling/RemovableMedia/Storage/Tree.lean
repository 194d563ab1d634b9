import RemovableMedia.Storage.Path

/-!
# File trees

A tree of directories, files and links, and the walk along a path in it.
Links are followed wherever they are met; `..` leads to the directory that
holds the one that was reached, whatever path led there.
-/

namespace RemovableMedia

/-- What can stand in a directory. -/
inductive Node where
  | directory (entries : List (String × Node))
  | file (content : ByteArray)
  | link (target : String)

namespace Node

def empty : Node := directory []

/-- The entry of a directory with the name. -/
def child? (name : String) : Node → Option Node
  | directory entries =>
      (entries.find? fun entry => entry.1 = name).map Prod.snd
  | _ => none

/-- The node at a place that is given by names alone. -/
def at? (node : Node) : List String → Option Node
  | [] => some node
  | name :: names => do (← node.child? name).at? names

/-- The tree with a node at a place.  Directories on the way are made; a
directory that is there already keeps its entries. -/
def place (placed : Node) : List String → Node → Node
  | [], existing =>
      match placed, existing with
      | directory [], directory entries => directory entries
      | _, _ => placed
  | name :: names, existing =>
      let entries := match existing with
        | directory entries => entries
        | _ => []
      let below := ((directory entries).child? name).getD empty
      directory ((name, placed.place names below) ::
        entries.filter fun entry => entry.1 ≠ name)

end Node

/-- Why a path leads nowhere. -/
inductive PathFault where
  | nul
  | missing
  | notADirectory
  | isADirectory
  | alreadyThere
  | nameTooLong
  | tooManyLinks
  /-- The path may not be searched. -/
  | denied
  /-- The file system fails, with a text of its own. -/
  | failed (text : String)
  deriving DecidableEq, Repr

namespace PathFault

/-- What is told of a fault. -/
def text : PathFault → String
  | nul => "file name contained an unexpected NUL byte"
  | missing => "No such file or directory (os error 2)"
  | notADirectory => "Not a directory (os error 20)"
  | isADirectory => "Is a directory (os error 21)"
  | alreadyThere => "File exists (os error 17)"
  | nameTooLong => "File name too long (os error 36)"
  | tooManyLinks => "Too many levels of symbolic links (os error 40)"
  | denied => "Permission denied (os error 13)"
  | failed text => text

end PathFault

/-- Where a walk ends. -/
structure Spot where
  /-- The names of the place, from the last to the first. -/
  place : List String
  /-- What is there, if anything. -/
  node : Option Node

/-- All files, and the directory that a program works in. -/
structure FileTree where
  root : Node := .empty
  /-- Where relative paths start, as names from the root. -/
  workingDirectory : List String := []

namespace FileTree

/-- Longer names and paths are refused, in bytes. -/
def longestName : Nat := 255

/-- No path may have more bytes. -/
def longestPath : Nat := 4095

/-- So many links are followed on one walk. -/
def mostLinks : Nat := 40

/-- Walks on from a directory, given by its names from the last to the
first.  Only the last step may lead to a place where nothing is. -/
def walk (tree : FileTree) :
    (links : Nat) → (here steps : List String) → Except PathFault Spot
  | _, here, [] => .ok ⟨here, tree.root.at? here.reverse⟩
  | links, here, step :: steps =>
      if step = "." then tree.walk links here steps
      else if step = ".." then tree.walk links here.tail steps
      else if longestName < step.utf8ByteSize then .error .nameTooLong
      else match tree.root.at? (here.reverse ++ [step]) with
        | none =>
            if steps.isEmpty then .ok ⟨step :: here, none⟩
            else .error .missing
        | some (.directory _) => tree.walk links (step :: here) steps
        | some (.file content) =>
            if steps.isEmpty then .ok ⟨step :: here, some (.file content)⟩
            else .error .notADirectory
        | some (.link target) =>
            match links with
            | 0 => .error .tooManyLinks
            | links + 1 =>
                if target = "" then .error .missing
                else
                  let start := if Path.isAbsolute target then [] else here
                  tree.walk links start (Path.steps target ++ steps)
termination_by links _ steps => (links, steps.length)

/-- Paths that are refused whatever the tree is. -/
def checkPath (path : String) : Except PathFault Unit :=
  if path.toList.contains '\u0000' then .error .nul
  else if path = "" then .error .missing
  else if longestPath < path.utf8ByteSize then .error .nameTooLong
  else .ok ()

/-- The directory that a walk along a path starts from. -/
def startOf (tree : FileTree) (path : String) : List String :=
  if Path.isAbsolute path then [] else tree.workingDirectory.reverse

/-- Where a path leads to. -/
def goTo (tree : FileTree) (path : String) : Except PathFault Spot := do
  checkPath path
  tree.walk mostLinks (tree.startOf path) (Path.steps path)

/-- The node that a path leads to. -/
def lookup (tree : FileTree) (path : String) : Except PathFault Node := do
  match (← tree.goTo path).node with
  | some node => return node
  | none => throw .missing

/-- The content of the file that a path leads to. -/
def read (tree : FileTree) (path : String) : Except PathFault ByteArray := do
  match ← tree.lookup path with
  | .file content => return content
  | _ => throw .isADirectory

end FileTree

end RemovableMedia
