import RemovableMedia.Proofs.Import.Eligibility

/-!
# Folders of a volume

A folder is reached from the root of its volume by one name after another, and a name
may be any text: an empty one, or one with slashes of its own.  The names along the
path of the folder are then those along the texts, and where it is looked for, the
names of the volume come before them.  So every folder is looked for at or below its
volume, whatever it is called.  Plain names can be read off the path again.

As in all comparisons of paths, names are taken as they are written: one that leads up
is a name like any other.
-/

namespace RemovableMedia

namespace Path

/-! ## Paths put together -/

theorem names_append_slash (base rest : String) :
    names (base ++ "/" ++ rest) = names base ++ names rest := by
  have written : (base ++ "/" ++ rest).toList =
      base.toList ++ '/' :: rest.toList := by simp
  rw [names, written, split_append_slash, List.filter_append,
    List.map_append]
  rfl

/-- After a slash no other one is needed. -/
theorem names_append_of_getLast? {base : String}
    (closed : base.toList.getLast? = some '/') (rest : String) :
    names (base ++ rest) = names base ++ names rest := by
  obtain ⟨front, written⟩ := List.getLast?_eq_some_iff.mp closed
  obtain rfl : base = String.ofList front ++ "/" := by
    apply String.toList_injective
    simp [written]
  have slash : names (String.ofList front ++ "/") =
      names (String.ofList front) := by
    simpa [names, split] using names_append_slash (String.ofList front) ""
  rw [names_append_slash, slash]

theorem names_join (base relative : String) :
    names (join base relative) = names base ++ names relative := by
  unfold join
  split
  · next empty =>
      obtain rfl : base = "" := by simpa using empty
      rfl
  · next closed => exact names_append_of_getLast? closed relative
  · exact names_append_slash base relative

theorem isAbsolute_append_of_ne {base : String} (some : base ≠ "")
    (rest : String) : isAbsolute (base ++ rest) = isAbsolute base := by
  obtain ⟨c, letters, written⟩ :=
    List.exists_cons_of_ne_nil (mt String.toList_eq_nil_iff.mp some)
  simp [isAbsolute, written]

theorem isAbsolute_join {relative : String}
    (below : isAbsolute relative = false) (base : String) :
    isAbsolute (join base relative) = isAbsolute base := by
  by_cases empty : base = ""
  · subst empty
    exact below
  · unfold join
    split
    · next none => exact absurd (by simpa using none) empty
    · exact isAbsolute_append_of_ne empty relative
    · rw [String.append_assoc]
      exact isAbsolute_append_of_ne empty ("/" ++ relative)

theorem filter_split_dropWhile (letters : List Char) :
    (split (letters.dropWhile (· = '/'))).filter (· ≠ []) =
      (split letters).filter (· ≠ []) := by
  induction letters with
  | nil => rfl
  | cons c letters induction =>
      by_cases slash : c = '/'
      · subst slash
        exact induction
      · rw [List.dropWhile_cons_of_neg (by simpa using slash)]

theorem names_withoutLeadingSlashes (path : String) :
    names (withoutLeadingSlashes path) = names path := by
  rw [names, withoutLeadingSlashes, String.toList_ofList,
    filter_split_dropWhile]
  rfl

theorem isAbsolute_withoutLeadingSlashes (path : String) :
    isAbsolute (withoutLeadingSlashes path) = false := by
  rw [isAbsolute, withoutLeadingSlashes, String.toList_ofList,
    decide_eq_false_iff_not]
  intro slash
  have stopped := List.head?_dropWhile_not (· = '/') path.toList
  rw [slash] at stopped
  simp at stopped

/-- A path whose names start with those of another is at or below it, if both start
from the root or neither does. -/
theorem isAtOrBelow_of_names {base path : String} {more : List String}
    (same : isAbsolute path = isAbsolute base)
    (below : names path = names base ++ more) :
    isAtOrBelow base path = true := by
  rw [isAtOrBelow, List.isPrefixOf_iff_prefix]
  cases absolute : isAbsolute base with
  | true =>
      rw [components_of_isAbsolute absolute,
        components_of_isAbsolute (same.trans absolute), trail, trail, below,
        List.filter_append, List.cons_prefix_cons]
      exact ⟨rfl, List.prefix_append _ _⟩
  | false =>
      simp only [components, same, absolute, Bool.false_eq_true, if_false,
        below]
      cases names base with
      | nil => exact List.nil_prefix
      | cons first rest =>
          by_cases dot : first = "."
          · subst dot
            simp
          · simp [dot]

end Path

/-! ## Where folders are -/

namespace DirectoryHandle

/-- The folder reached by one name after another. -/
def reach (directory : DirectoryHandle) (names : List String) :
    DirectoryHandle :=
  names.foldl child directory

theorem getLast?_root (volumeId : String) :
    (root volumeId).fullPath.toList.getLast? = some '/' := by
  simp [root]

theorem isAbsolute_root (volumeId : String) :
    Path.isAbsolute (root volumeId).fullPath = true := by
  simp [root, Path.isAbsolute]

theorem names_root (volumeId : String) :
    Path.names (root volumeId).fullPath = [] := by
  simp [root, Path.names, Path.split]

theorem reach_append_singleton (directory : DirectoryHandle)
    (names : List String) (name : String) :
    directory.reach (names ++ [name]) = (directory.reach names).child name :=
  List.foldl_append

theorem fullPath_child_of_closed {directory : DirectoryHandle}
    (closed : directory.fullPath.toList.getLast? = some '/') (name : String) :
    (directory.child name).fullPath = directory.fullPath ++ name := by
  rw [child, if_pos closed]

theorem fullPath_child_of_open {directory : DirectoryHandle}
    (unclosed : directory.fullPath.toList.getLast? ≠ some '/')
    (name : String) :
    (directory.child name).fullPath = directory.fullPath ++ "/" ++ name := by
  rw [child, if_neg unclosed]

theorem names_child (directory : DirectoryHandle) (name : String) :
    Path.names (directory.child name).fullPath =
      Path.names directory.fullPath ++ Path.names name := by
  by_cases closed : directory.fullPath.toList.getLast? = some '/'
  · rw [fullPath_child_of_closed closed, Path.names_append_of_getLast? closed]
  · rw [fullPath_child_of_open closed, Path.names_append_slash]

theorem isAbsolute_child {directory : DirectoryHandle}
    (absolute : Path.isAbsolute directory.fullPath = true) (name : String) :
    Path.isAbsolute (directory.child name).fullPath = true := by
  by_cases closed : directory.fullPath.toList.getLast? = some '/'
  · rw [fullPath_child_of_closed closed]
    exact Path.isAbsolute_append absolute name
  · rw [fullPath_child_of_open closed, String.append_assoc]
    exact Path.isAbsolute_append absolute ("/" ++ name)

theorem volumeId_reach (directory : DirectoryHandle) (names : List String) :
    (directory.reach names).volumeId = directory.volumeId := by
  induction names generalizing directory with
  | nil => rfl
  | cons name names induction => exact induction (directory.child name)

theorem isAbsolute_reach {directory : DirectoryHandle}
    (absolute : Path.isAbsolute directory.fullPath = true)
    (names : List String) :
    Path.isAbsolute (directory.reach names).fullPath = true := by
  induction names generalizing directory with
  | nil => exact absolute
  | cons name names induction =>
      exact induction (isAbsolute_child absolute name)

theorem names_reach (directory : DirectoryHandle) (names : List String) :
    Path.names (directory.reach names).fullPath =
      Path.names directory.fullPath ++ names.flatMap Path.names := by
  induction names generalizing directory with
  | nil => exact (List.append_nil _).symm
  | cons name names induction =>
      have later := induction (directory.child name)
      rw [names_child, List.append_assoc] at later
      exact later

end DirectoryHandle

namespace FileSystem

theorem names_localPath (directory : DirectoryHandle) :
    Path.names (localPath directory) =
      Path.names directory.volumeId ++ Path.names directory.fullPath := by
  rw [localPath, Path.names_join, Path.names_withoutLeadingSlashes]

/-- Wherever a directory is on its volume, it is looked for at or below the
volume. -/
theorem isAtOrBelow_localPath (directory : DirectoryHandle) :
    Path.isAtOrBelow directory.volumeId (localPath directory) = true :=
  Path.isAtOrBelow_of_names
    (Path.isAbsolute_join (Path.isAbsolute_withoutLeadingSlashes _) _)
    (names_localPath directory)

/-- Two file systems that are alike at and below a path. -/
def AlikeBelow (base : String) (files other : FileSystem) : Prop :=
  ∀ path, Path.isAtOrBelow base path = true →
    files.kind path = other.kind path

/-- A probe of a folder asks for nothing outside the volume. -/
theorem subdirectory_eq_of_alikeBelow {files other : FileSystem}
    {parent : DirectoryHandle}
    (alike : AlikeBelow parent.volumeId files other) (name : String) :
    files.subdirectory parent name = other.subdirectory parent name := by
  have answer := alike _ (isAtOrBelow_localPath (parent.child name))
  simp only [subdirectory, requireDirectory, answer]

end FileSystem

/-! ## Plain names -/

namespace Path

/-- A name that is one part of a path, whatever it stands for. -/
def IsPlain (name : String) : Prop := name ≠ "" ∧ '/' ∉ name.toList

instance (name : String) : Decidable (IsPlain name) :=
  inferInstanceAs (Decidable (name ≠ "" ∧ '/' ∉ name.toList))

theorem names_of_isPlain {name : String} (plain : IsPlain name) :
    names name = [name] := by
  have whole : split (name.toList ++ []) = [name.toList ++ []] :=
    split_append_of_slash_free plain.2 rfl
  rw [List.append_nil] at whole
  simp [names, whole, plain.1]

theorem flatMap_names_of_isPlain {names : List String}
    (plain : ∀ name ∈ names, IsPlain name) :
    names.flatMap Path.names = names := by
  rw [List.flatMap_congr fun name member =>
    names_of_isPlain (plain name member)]
  exact List.flatMap_singleton' names

end Path

namespace DirectoryHandle

/-- The path of a folder with a plain name does not end with a slash. -/
theorem getLast?_child_of_isPlain (directory : DirectoryHandle)
    {name : String} (plain : Path.IsPlain name) :
    (directory.child name).fullPath.toList.getLast? ≠ some '/' := by
  intro slash
  have letters : name.toList ≠ [] := mt String.toList_eq_nil_iff.mp plain.1
  rw [child, String.toList_append, List.getLast?_append_of_ne_nil _ letters]
    at slash
  exact plain.2 (List.mem_of_getLast? slash)

theorem fullPath_reach_root_of_isPlain (volumeId : String)
    {names : List String} (plain : ∀ name ∈ names, Path.IsPlain name) :
    ((root volumeId).reach names).fullPath =
      "/" ++ "/".intercalate names := by
  induction names using List.reverseRecOn with
  | nil => rfl
  | append_singleton names name induction =>
      have earlier : ∀ name ∈ names, Path.IsPlain name :=
        fun name member => plain name (List.mem_append_left _ member)
      rw [reach_append_singleton]
      -- Of the folders on the way only the root has a path that ends with a slash.
      cases names using List.reverseRecOn with
      | nil => exact fullPath_child_of_closed (getLast?_root volumeId) name
      | append_singleton before last _ =>
          have led : before ++ [last] ≠ [] := by simp
          have unclosed : ((root volumeId).reach
              (before ++ [last])).fullPath.toList.getLast? ≠ some '/' := by
            rw [reach_append_singleton]
            exact getLast?_child_of_isPlain _ (earlier last (by simp))
          have longer : "/".intercalate (before ++ [last] ++ [name]) =
              "/".intercalate (before ++ [last]) ++ "/" ++ name := by
            rw [String.intercalate_append_of_ne_nil led (by simp),
              String.intercalate_singleton]
          rw [fullPath_child_of_open unclosed, induction earlier, longer]
          simp only [String.append_assoc]

/-- The names are read off the path again. -/
theorem names_reach_root_of_isPlain (volumeId : String)
    {names : List String} (plain : ∀ name ∈ names, Path.IsPlain name) :
    Path.names ((root volumeId).reach names).fullPath = names := by
  rw [names_reach, names_root, List.nil_append,
    Path.flatMap_names_of_isPlain plain]

theorem fullPath_reach_root_eq_iff {volumeId otherVolume : String}
    {names others : List String}
    (plain : ∀ name ∈ names, Path.IsPlain name)
    (otherPlain : ∀ name ∈ others, Path.IsPlain name) :
    ((root volumeId).reach names).fullPath =
      ((root otherVolume).reach others).fullPath ↔ names = others := by
  constructor
  · intro same
    have read := congrArg Path.names same
    rwa [names_reach_root_of_isPlain volumeId plain,
      names_reach_root_of_isPlain otherVolume otherPlain] at read
  · rintro rfl
    rw [fullPath_reach_root_of_isPlain volumeId plain,
      fullPath_reach_root_of_isPlain otherVolume plain]

end DirectoryHandle

/-- Folders stay on their volume, whatever the texts are by which they are reached.
The volume is kept, the path of a folder starts with a slash, and a folder is looked
for at or below its volume: the names of the volume come first, then those along the
texts, one text after another.  So file systems that are alike at and below the volume
answer every probe of a folder alike.  Plain names make up the path with one slash
before each, and no other plain names do. -/
theorem folders_stay_on_volume (volumeId : String) (names : List String) :
    let folder := (DirectoryHandle.root volumeId).reach names
    folder.volumeId = volumeId ∧
    Path.isAbsolute folder.fullPath = true ∧
    Path.isAtOrBelow volumeId (FileSystem.localPath folder) = true ∧
    Path.names (FileSystem.localPath folder) =
      Path.names volumeId ++ names.flatMap Path.names ∧
    (∀ files other : FileSystem, FileSystem.AlikeBelow volumeId files other →
      ∀ name, files.subdirectory folder name =
        other.subdirectory folder name) ∧
    ((∀ name ∈ names, Path.IsPlain name) →
      folder.fullPath = "/" ++ "/".intercalate names ∧
      ∀ otherVolume others, (∀ name ∈ others, Path.IsPlain name) →
        (folder.fullPath =
          ((DirectoryHandle.root otherVolume).reach others).fullPath ↔
            names = others)) := by
  intro folder
  have kept : folder.volumeId = volumeId :=
    DirectoryHandle.volumeId_reach (.root volumeId) names
  have rooted : Path.isAbsolute folder.fullPath = true :=
    DirectoryHandle.isAbsolute_reach
      (DirectoryHandle.isAbsolute_root volumeId) names
  have below := FileSystem.isAtOrBelow_localPath folder
  have looked := FileSystem.names_localPath folder
  rw [kept] at below looked
  rw [DirectoryHandle.names_reach, DirectoryHandle.names_root,
    List.nil_append] at looked
  refine ⟨kept, rooted, below, looked, ?_, ?_⟩
  · intro files other alike name
    rw [← kept] at alike
    exact FileSystem.subdirectory_eq_of_alikeBelow alike name
  · intro plain
    exact ⟨DirectoryHandle.fullPath_reach_root_of_isPlain volumeId plain,
      fun _ _ otherPlain =>
        DirectoryHandle.fullPath_reach_root_eq_iff plain otherPlain⟩

/-- A system on which every path leads to a directory. -/
def openFiles : FileSystem where
  kind _ := .ok .directory

/-- The same where only what is at or below one path may be looked at. -/
def fencedFiles (base : String) : FileSystem where
  kind path :=
    if Path.isAtOrBelow base path then .ok .directory else .error .denied

theorem alikeBelow_fencedFiles (base : String) :
    FileSystem.AlikeBelow base openFiles (fencedFiles base) := by
  intro path below
  exact (if_pos below).symm

/-- Names that start with slashes, one of them like another volume, and an empty name
lead to folders of the card, also where nothing else may be looked at.  Two plain names
lead to the photos, and not to the folder of the first name alone. -/
theorem folders_stay_on_volume_of_card :
    FileSystem.localPath ((DirectoryHandle.root "/media/CARD").reach
        ["/etc", "", "//media/CARD2"]) =
      "/media/CARD/etc///media/CARD2" ∧
    Path.isAtOrBelow "/media/CARD" "/media/CARD/etc///media/CARD2" = true ∧
    FileSystem.AlikeBelow "/media/CARD" openFiles
      (fencedFiles "/media/CARD") ∧
    (fencedFiles "/media/CARD").subdirectory
        ((DirectoryHandle.root "/media/CARD").reach ["/etc"]) "/passwd" =
      .ok ⟨"/media/CARD", "//etc//passwd"⟩ ∧
    (∀ name ∈ ["DCIM", "100CANON"], Path.IsPlain name) ∧
    ((DirectoryHandle.root "/media/CARD").reach
        ["DCIM", "100CANON"]).fullPath = "/DCIM/100CANON" ∧
    (∀ name ∈ ["DCIM"], Path.IsPlain name) ∧
    ((DirectoryHandle.root "/media/CARD").reach
        ["DCIM", "100CANON"]).fullPath ≠
      ((DirectoryHandle.root "/media/CARD").reach ["DCIM"]).fullPath := by
  have alike := alikeBelow_fencedFiles "/media/CARD"
  have hostile := folders_stay_on_volume "/media/CARD"
    ["/etc", "", "//media/CARD2"]
  have etc := folders_stay_on_volume "/media/CARD" ["/etc"]
  have photos := folders_stay_on_volume "/media/CARD" ["DCIM", "100CANON"]
  have looked : FileSystem.localPath ((DirectoryHandle.root
      "/media/CARD").reach ["/etc", "", "//media/CARD2"]) =
      "/media/CARD/etc///media/CARD2" := by decide
  have plain : ∀ name ∈ ["DCIM", "100CANON"], Path.IsPlain name := by decide
  have shorterPlain : ∀ name ∈ ["DCIM"], Path.IsPlain name := by decide
  obtain ⟨made, told⟩ := photos.2.2.2.2.2 plain
  refine ⟨looked, looked ▸ hostile.2.2.1, alike, ?_, plain, ?_,
    shorterPlain, ?_⟩
  · rw [← etc.2.2.2.2.1 openFiles _ alike "/passwd"]
    decide
  · rw [made]
    decide
  · intro same
    exact absurd ((told "/media/CARD" ["DCIM"] shorterPlain).mp same)
      (by decide)

end RemovableMedia
