/-!
# Paths

A path is a text with slashes between its parts.  Repeated slashes count as
one.
-/

namespace RemovableMedia.Path

/-- The parts of a text between its slashes, some of which may be empty. -/
def split : List Char → List (List Char)
  | [] => [[]]
  | '/' :: rest => [] :: split rest
  | c :: rest =>
      match split rest with
      | part :: parts => (c :: part) :: parts
      | [] => [[c]]

/-- Does the path start at the root? -/
def isAbsolute (path : String) : Bool := path.toList.head? = some '/'

/-- The parts of a path that are not empty. -/
def names (path : String) : List String :=
  ((split path.toList).filter (· ≠ [])).map String.ofList

/-- The components that two spellings of a path have in common.  A dot
counts only where a path starts with it; the root is a component too. -/
def components (path : String) : List String :=
  let counted (names : List String) := names.filter (· ≠ ".")
  if isAbsolute path then
    "/" :: counted (names path)
  else match names path with
    | "." :: rest => "." :: counted rest
    | names => counted names

/-- Is the second path the first, or below it, component by component? -/
def isAtOrBelow (base path : String) : Bool :=
  (components base).isPrefixOf (components path)

/-- A path below a base, where `relative` does not start with a slash. -/
def join (base relative : String) : String :=
  match base.toList.getLast? with
  | none => relative
  | some '/' => base ++ relative
  | some _ => base ++ "/" ++ relative

/-- The text without the slashes it starts with. -/
def withoutLeadingSlashes (path : String) : String :=
  String.ofList (path.toList.dropWhile (· = '/'))

/-- The steps of a walk along a path.  A slash at the end asks for a
directory, as one more dot would. -/
def steps (path : String) : List String :=
  if path.toList.getLast? = some '/' then names path ++ ["."] else names path

end RemovableMedia.Path
