import RemovableMedia.Toml.Scalar

/-!
# TOML tables

While a document is read its tables know how they came to be, because that
decides what may still be added to them: a header defines a table once, a
table that was only passed on the way to another may still be defined, and a
table made by dotted keys is added to by dotted keys alone.
-/

namespace RemovableMedia.Toml

/-- A value of a document. -/
inductive Value where
  | string (value : String)
  | scalar (value : Scalar)
  | array (items : List Value)
  | table (entries : List (String × Value))

mutual

/-- Values are compared by their contents, entries in their order. -/
def Value.decEq : (left right : Value) → Decidable (left = right)
  | .string left, .string right => decidable_of_iff (left = right) (by simp)
  | .scalar left, .scalar right => decidable_of_iff (left = right) (by simp)
  | .array left, .array right =>
      have := decEqItems left right
      decidable_of_iff (left = right) (by simp)
  | .table left, .table right =>
      have := decEqEntries left right
      decidable_of_iff (left = right) (by simp)
  | .string _, .scalar _ | .string _, .array _ | .string _, .table _
  | .scalar _, .string _ | .scalar _, .array _ | .scalar _, .table _
  | .array _, .string _ | .array _, .scalar _ | .array _, .table _
  | .table _, .string _ | .table _, .scalar _ | .table _, .array _ =>
      isFalse nofun

def decEqItems : (left right : List Value) → Decidable (left = right)
  | [], [] => isTrue rfl
  | left :: lefts, right :: rights =>
      have := left.decEq right
      have := decEqItems lefts rights
      decidable_of_iff (left = right ∧ lefts = rights) (by simp)
  | [], _ :: _ | _ :: _, [] => isFalse nofun

def decEqEntries :
    (left right : List (String × Value)) → Decidable (left = right)
  | [], [] => isTrue rfl
  | (key, left) :: lefts, (other, right) :: rights =>
      have := left.decEq right
      have := decEqEntries lefts rights
      decidable_of_iff ((key = other ∧ left = right) ∧ lefts = rights)
        (by simp)
  | [], _ :: _ | _ :: _, [] => isFalse nofun

end

instance : DecidableEq Value := Value.decEq

/-- How a table came to be, on which it depends who may add to it. -/
inductive Origin where
  /-- Named by a header, or an element of an array of tables. -/
  | defined
  /-- Passed on the way to the table of a header. -/
  | passed
  /-- Passed on the way to the last part of a dotted key. -/
  | dotted
  deriving DecidableEq, Repr

/-- A value, or a table that may still grow. -/
inductive Node where
  | value (value : Value)
  | table (origin : Origin) (entries : List (String × Node))
  /-- An array of tables, last one first. -/
  | tables (elements : List (List (String × Node)))

/-- A table that may still grow. -/
abbrev Entries := List (String × Node)

namespace Entries

/-- What is under a key. -/
def find? (entries : Entries) (key : String) : Option Node :=
  (List.find? (fun entry => entry.1 = key) entries).map Prod.snd

/-- Puts a node under a key, in place of the one that may be there. -/
def put (entries : Entries) (key : String) (node : Node) : Entries :=
  if (entries.find? key).isSome then
    entries.map fun entry => if entry.1 = key then (key, node) else entry
  else
    entries ++ [(key, node)]

/-- Works on the table that a path of keys leads to.  Tables that are missing
are made on the way. -/
def within (make : Origin) (passes : Origin → Bool)
    (work : Origin → Entries → Option Entries) :
    List String → Origin → Entries → Option Entries
  | [], origin, entries => work origin entries
  | key :: path, _, entries =>
      match entries.find? key with
      | none => do
          let inner ← within make passes work path make []
          return entries.put key (.table make inner)
      | some (.table origin inner) =>
          if passes origin then do
            let inner ← within make passes work path origin inner
            return entries.put key (.table origin inner)
          else
            none
      | some (.tables (last :: earlier)) => do
          let last ← within make passes work path .defined last
          return entries.put key (.tables (last :: earlier))
      | some (.tables []) => none
      | some (.value _) => none

/-- Adds a value under a dotted key, the last part apart. -/
def insert (path : List String) (key : String) (value : Value)
    (entries : Entries) : Option Entries :=
  within .dotted (· ≠ .defined)
    (fun origin entries =>
      let fits := path.isEmpty || origin = .dotted
      if fits && (entries.find? key).isNone then
        some (entries.put key (.value value))
      else
        none)
    path .defined entries

/-- Works on a table that a header named. -/
def withinHeader (work : Origin → Entries → Option Entries)
    (path : List String) (entries : Entries) : Option Entries :=
  within .passed (fun _ => true) work path .defined entries

/-- The header of a table. -/
def define (path : List String) (key : String) (entries : Entries) :
    Option Entries :=
  entries.withinHeader (fun _ entries =>
    match entries.find? key with
    | none => some (entries.put key (.table .defined []))
    | some (.table .passed inner) =>
        some (entries.put key (.table .defined inner))
    | _ => none) path

/-- The header of one more element of an array of tables. -/
def append (path : List String) (key : String) (entries : Entries) :
    Option Entries :=
  entries.withinHeader (fun _ entries =>
    match entries.find? key with
    | none => some (entries.put key (.tables [[]]))
    | some (.tables elements) =>
        some (entries.put key (.tables ([] :: elements)))
    | _ => none) path

end Entries

mutual

/-- The value that a node has become. -/
def Node.toValue : Node → Value
  | .value value => value
  | .table _ entries => .table (entryValues entries)
  | .tables elements => .array (elementValues elements).reverse

/-- The values that the entries have become. -/
def entryValues : List (String × Node) → List (String × Value)
  | [] => []
  | (key, node) :: rest => (key, node.toValue) :: entryValues rest

/-- The tables of an array, in the order of the list. -/
def elementValues : List (List (String × Node)) → List Value
  | [] => []
  | entries :: rest => .table (entryValues entries) :: elementValues rest

end

end RemovableMedia.Toml
