import RemovableMedia.Storage.Tree

/-!
# File systems

All that is asked of a file system is what a path leads to, and whether that
is a directory.  A file tree is a file system; another one may refuse a path
or fail for reasons that no tree has.
-/

namespace RemovableMedia

/-- What a path leads to. -/
inductive FileKind where
  | directory
  | other
  deriving DecidableEq, Repr

/-- What the handler tells apart about a file. -/
def Node.kind : Node → FileKind
  | directory _ => .directory
  | _ => .other

/-- What every path leads to, or why it leads nowhere. -/
structure FileSystem where
  kind : (path : String) → Except PathFault FileKind

/-- Does the path lead to a directory? -/
def FileSystem.isDirectory (files : FileSystem) (path : String) : Bool :=
  match files.kind path with
  | .ok .directory => true
  | _ => false

/-- The tree as the handler sees it. -/
def FileTree.files (tree : FileTree) : FileSystem where
  kind path := (tree.lookup path).map Node.kind

end RemovableMedia
