import RemovableMedia.Proofs.Storage.Walk
import RemovableMedia.Storage.Volumes

/-!
# Probes of mounted volumes

A volume or a folder is found where its path leads to a directory.  Where the path
leads to nothing, or to something that is no directory, it is reported as not found.
A path may also break: a file stands in the way, links lead on too long, or the path
or one of its names is refused.  Then what is reported is an internal error.
-/

namespace RemovableMedia

namespace FileTree

variable {tree : FileTree} {path : String}

/-- Nothing is at the path, or something that is no directory. -/
def Lacks (tree : FileTree) (path : String) : Prop :=
  tree.LeadsTo path (.ok .other) ∨ tree.LeadsTo path (.error .missing)

/-- The faults of paths that do not come to a place at all. -/
def breaks : List PathFault := [.nul, .nameTooLong, .notADirectory, .tooManyLinks]

def Breaks (tree : FileTree) (path : String) : Prop :=
  ∃ fault ∈ breaks, tree.LeadsTo path (.error fault)

/-! ## What paths lead to -/

/-- An answer that a path of a tree may lead to. -/
inductive Usual : Except PathFault FileKind → Prop where
  | kind (kind : FileKind) : Usual (.ok kind)
  | missing : Usual (.error .missing)
  | broken {fault : PathFault} (member : fault ∈ breaks) : Usual (.error fault)

theorem Halts.usual {point : Waypoint} {answer : Except PathFault FileKind}
    (halts : tree.Halts point answer) : Usual answer := by
  cases halts with
  | arrived _ => exact .kind _
  | nowhere _ => exact .missing
  | absent _ _ => exact .missing
  | file _ _ => exact .kind _
  | blocked _ _ _ => exact .broken (by decide)
  | aimless _ _ => exact .missing
  | exhausted _ _ => exact .broken (by decide)
  | overlong _ => exact .broken (by decide)

theorem usual_of_checkPath {fault : PathFault}
    (refused : checkPath path = .error fault) : Usual (.error fault) := by
  unfold checkPath at refused
  split at refused
  · cases refused
    exact .broken (by decide)
  split at refused
  · cases refused
    exact .missing
  split at refused
  · cases refused
    exact .broken (by decide)
  · cases refused

theorem LeadsTo.usual {answer : Except PathFault FileKind}
    (leads : tree.LeadsTo path answer) : Usual answer := by
  unfold LeadsTo at leads
  split at leads
  · next fault refused =>
      rw [leads]
      exact usual_of_checkPath refused
  · obtain ⟨last, _, halts⟩ := leads
    exact halts.usual

/-- Every path leads to a directory, lacks one or breaks. -/
theorem directory_or_lacks_or_breaks (tree : FileTree) (path : String) :
    tree.LeadsTo path (.ok .directory) ∨ tree.Lacks path ∨ tree.Breaks path := by
  obtain ⟨answer, leads⟩ : ∃ answer, tree.LeadsTo path answer :=
    ⟨_, kind_eq_iff.mp rfl⟩
  cases leads.usual with
  | kind kind =>
      cases kind with
      | directory => exact .inl leads
      | other => exact .inr (.inl (.inl leads))
  | missing => exact .inr (.inl (.inr leads))
  | broken member => exact .inr (.inr ⟨_, member, leads⟩)

/-! ## What is reported -/

/-- A probe of a path reports the handle of a directory, or what is wrong. -/
structure Reports {α : Type} (tree : FileTree) (path : String) (handle : α)
    (result : Except HostError α) : Prop where
  found : ∀ other, result = .ok other ↔
    tree.LeadsTo path (.ok .directory) ∧ other = handle
  notFound : (∃ text, result = .error ⟨.notFound, text⟩) ↔ tree.Lacks path
  broken : (∃ text, result = .error ⟨.internal, text⟩) ↔ tree.Breaks path

theorem requireDirectory_of_leadsTo
    (leads : tree.LeadsTo path (.ok .directory)) :
    tree.files.requireDirectory path = .ok () := by
  rw [FileSystem.requireDirectory, kind_eq_iff.mpr leads]

theorem requireDirectory_of_lacks (lacks : tree.Lacks path) :
    ∃ text, tree.files.requireDirectory path = .error ⟨.notFound, text⟩ := by
  unfold FileSystem.requireDirectory
  rcases lacks with other | missing
  · rw [kind_eq_iff.mpr other]
    exact ⟨_, rfl⟩
  · rw [kind_eq_iff.mpr missing]
    exact ⟨_, rfl⟩

theorem requireDirectory_of_breaks (broken : tree.Breaks path) :
    ∃ text, tree.files.requireDirectory path = .error ⟨.internal, text⟩ := by
  obtain ⟨fault, member, leads⟩ := broken
  unfold FileSystem.requireDirectory
  rw [kind_eq_iff.mpr leads]
  simp only [breaks, List.mem_cons, List.not_mem_nil, or_false] at member
  rcases member with rfl | rfl | rfl | rfl <;> exact ⟨_, rfl⟩

/-- Where each of the three cases has a report of its own, the reports tell them
apart. -/
theorem reports_of_cases {α : Type} {handle : α}
    {result : Except HostError α}
    (onDirectory : tree.LeadsTo path (.ok .directory) → result = .ok handle)
    (onLack : tree.Lacks path → ∃ text, result = .error ⟨.notFound, text⟩)
    (onBreak : tree.Breaks path → ∃ text, result = .error ⟨.internal, text⟩) :
    Reports tree path handle result := by
  have known := tree.directory_or_lacks_or_breaks path
  constructor
  · intro other
    constructor
    · intro found
      rcases known with leads | lacks | broken
      · exact ⟨leads, Except.ok.inj (found.symm.trans (onDirectory leads))⟩
      · obtain ⟨text, refused⟩ := onLack lacks
        exact absurd (found.symm.trans refused) (by simp)
      · obtain ⟨text, refused⟩ := onBreak broken
        exact absurd (found.symm.trans refused) (by simp)
    · rintro ⟨leads, rfl⟩
      exact onDirectory leads
  · refine ⟨?_, onLack⟩
    rintro ⟨text, refused⟩
    rcases known with leads | lacks | broken
    · exact absurd (refused.symm.trans (onDirectory leads)) (by simp)
    · exact lacks
    · obtain ⟨reason, failed⟩ := onBreak broken
      exact absurd (refused.symm.trans failed) (by simp)
  · refine ⟨?_, onBreak⟩
    rintro ⟨text, failed⟩
    rcases known with leads | lacks | broken
    · exact absurd (failed.symm.trans (onDirectory leads)) (by simp)
    · obtain ⟨reason, refused⟩ := onLack lacks
      exact absurd (failed.symm.trans refused) (by simp)
    · exact broken

theorem reports_map {α : Type} (tree : FileTree) (path : String) (handle : α) :
    Reports tree path handle
      ((tree.files.requireDirectory path).map fun _ => handle) := by
  apply reports_of_cases
  · intro leads
    rw [requireDirectory_of_leadsTo leads]
    rfl
  · intro lacks
    obtain ⟨text, refused⟩ := requireDirectory_of_lacks lacks
    exact ⟨text, by rw [refused]; rfl⟩
  · intro broken
    obtain ⟨text, failed⟩ := requireDirectory_of_breaks broken
    exact ⟨text, by rw [failed]; rfl⟩

theorem reports_resolveVolume (tree : FileTree) {volumeId : String}
    (absolute : Path.isAbsolute volumeId = true) :
    Reports tree volumeId ⟨volumeId, volumeId⟩
      (tree.resolveVolume volumeId) := by
  have resolved : tree.resolveVolume volumeId =
      (tree.files.requireDirectory volumeId).map fun _ =>
        (⟨volumeId, volumeId⟩ : VolumeHandle) := by
    rw [resolveVolume, FileSystem.resolveVolume, absolute]
    rfl
  rw [resolved]
  exact tree.reports_map volumeId _

theorem reports_subdirectory (tree : FileTree) (parent : DirectoryHandle)
    (name : String) :
    Reports tree (FileSystem.localPath (parent.child name))
      (parent.child name) (tree.subdirectory parent name) :=
  tree.reports_map (FileSystem.localPath (parent.child name)) _

/-- What probes of volumes and folders report.  A directory that the path leads to is
found; a path that lacks one is reported as not found, and a path that breaks as an
internal error.  There is no other case, and a path that loops breaks. -/
theorem not_found_reported_unless_broken (tree : FileTree) :
    (∀ volumeId, Path.isAbsolute volumeId = true →
      Reports tree volumeId ⟨volumeId, volumeId⟩
        (tree.resolveVolume volumeId)) ∧
    (∀ parent name,
      Reports tree (FileSystem.localPath (parent.child name))
        (parent.child name) (tree.subdirectory parent name)) ∧
    (∀ path, tree.LeadsTo path (.ok .directory) ∨ tree.Lacks path ∨
      tree.Breaks path) ∧
    ∀ path, checkPath path = .ok () → tree.Loops path → tree.Breaks path := by
  refine ⟨fun volumeId absolute => tree.reports_resolveVolume absolute,
    tree.reports_subdirectory, tree.directory_or_lacks_or_breaks, ?_⟩
  intro path fine loops
  exact ⟨.tooManyLinks, by decide, leadsTo_of_loops fine loops⟩

/-! ## A card -/

/-- A card with a folder, a link to it, a link to nothing, a link to itself, and a
file where a folder of photos is looked for. -/
def cardTree : FileTree where
  root := .directory [("card", .directory [
    ("roll", .directory []),
    ("latest", .link "../card/./roll"),
    ("gone", .link "/nowhere"),
    ("loop", .link "loop"),
    ("DCIM", .file .empty)])]

theorem card_entered (links : Nat) (ahead : List String) :
    cardTree.Advances ⟨links, [], "card" :: ahead⟩
      ⟨links, ["card"], ahead⟩ :=
  .enter (by decide) rfl

/-- From the card the link leads up to the root and down again. -/
theorem leadsTo_latest :
    cardTree.LeadsTo "/card/latest" (.ok .directory) := by
  have followed : cardTree.Advances ⟨40, ["card"], ["latest"]⟩
      ⟨39, ["card"], ["..", "card", ".", "roll"]⟩ :=
    @Advances.follow _ 39 ["card"] [] "latest" "../card/./roll" (by decide) rfl
      (by decide)
  have entered : cardTree.Advances ⟨39, ["card"], ["roll"]⟩
      ⟨39, ["roll", "card"], []⟩ := .enter (by decide) rfl
  have arrived : cardTree.Halts ⟨39, ["roll", "card"], []⟩
      (.ok .directory) :=
    @Halts.arrived _ 39 ["roll", "card"] (.directory []) rfl
  have ends : cardTree.Ends ⟨39, ["card"], [".", "roll"]⟩ (.ok .directory) :=
    (arrived.ends.before entered).before .stay
  apply leadsTo_of_ends rfl
  exact (((ends.before (card_entered 39 _)).before .up).before
    followed).before (card_entered 40 _)

theorem lacks_gone : cardTree.Lacks "/card/gone" := by
  have followed : cardTree.Advances ⟨40, ["card"], ["gone"]⟩
      ⟨39, [], ["nowhere"]⟩ :=
    @Advances.follow _ 39 ["card"] [] "gone" "/nowhere" (by decide) rfl
      (by decide)
  have absent : cardTree.Halts ⟨39, [], ["nowhere"]⟩ (.error .missing) :=
    .absent (by decide) rfl
  right
  apply leadsTo_of_ends rfl
  exact (absent.ends.before followed).before (card_entered 40 _)

theorem loops_of_card : cardTree.Loops "/card/loop" := by
  have round : cardTree.Advances ⟨1, ["card"], ["loop"]⟩
      ⟨0, ["card"], ["loop"]⟩ :=
    @Advances.follow _ 0 ["card"] [] "loop" "loop" (by decide) rfl (by decide)
  exact ⟨1, _, _, [], .single (card_entered 1 _), .single round, by decide,
    rfl, rfl⟩

theorem blocked_of_card :
    cardTree.LeadsTo "/card/DCIM/100CANON" (.error .notADirectory) := by
  have blocked : cardTree.Halts ⟨40, ["card"], ["DCIM", "100CANON"]⟩
      (.error .notADirectory) := .blocked (by decide) rfl (by decide)
  apply leadsTo_of_ends rfl
  exact blocked.ends.before (card_entered 40 _)

/-- A linked folder is a volume, a link to nothing is not found, and a link that
loops is an error. -/
theorem not_found_reported_unless_broken_of_card :
    Path.isAbsolute "/card/latest" = true ∧
      cardTree.resolveVolume "/card/latest" =
        .ok ⟨"/card/latest", "/card/latest"⟩ ∧
      (∃ text, cardTree.subdirectory (.root "/card") "gone" =
        .error ⟨.notFound, text⟩) ∧
      ∃ text, cardTree.subdirectory (.root "/card") "loop" =
        .error ⟨.internal, text⟩ := by
  have absolute : Path.isAbsolute "/card/latest" = true := by decide
  obtain ⟨volumes, folders, _, loops⟩ :=
    not_found_reported_unless_broken cardTree
  have gone : cardTree.Lacks (FileSystem.localPath
      ((DirectoryHandle.root "/card").child "gone")) := lacks_gone
  have loop : cardTree.Breaks (FileSystem.localPath
      ((DirectoryHandle.root "/card").child "loop")) :=
    loops "/card/loop" rfl loops_of_card
  exact ⟨absolute,
    ((volumes "/card/latest" absolute).found _).mpr ⟨leadsTo_latest, rfl⟩,
    (folders (.root "/card") "gone").notFound.mpr gone,
    (folders (.root "/card") "loop").broken.mpr loop⟩

/-- A folder behind a file and a link that leads nowhere but to itself are no
directories, and neither is reported as not found. -/
theorem folder_behind_file_not_reported :
    (Path.isAbsolute "/card/DCIM/100CANON" = true ∧
      ¬ cardTree.LeadsTo "/card/DCIM/100CANON" (.ok .directory) ∧
      cardTree.resolveVolume "/card/DCIM/100CANON" =
        .error ⟨.internal,
          "/card/DCIM/100CANON: Not a directory (os error 20)"⟩) ∧
    ¬ cardTree.LeadsTo "/card/loop" (.ok .directory) ∧
      cardTree.subdirectory (.root "/card") "loop" =
        .error ⟨.internal,
          "/card/loop: Too many levels of symbolic links (os error 40)"⟩ := by
  have blocked : cardTree.files.kind "/card/DCIM/100CANON" =
      .error .notADirectory := by
    rw [kind_eq_iff]
    exact blocked_of_card
  have looping : cardTree.files.kind "/card/loop" = .error .tooManyLinks := by
    rw [kind_eq_iff]
    exact leadsTo_of_loops rfl loops_of_card
  have folder : FileSystem.localPath
      ((DirectoryHandle.root "/card").child "loop") = "/card/loop" := by decide
  refine ⟨⟨by decide, ?_, ?_⟩, ?_, ?_⟩
  · rw [← kind_eq_iff, blocked]
    simp
  · rw [resolveVolume, FileSystem.resolveVolume, FileSystem.requireDirectory,
      blocked]
    rfl
  · rw [← kind_eq_iff, looping]
    simp
  · rw [subdirectory, FileSystem.subdirectory, FileSystem.requireDirectory,
      folder, looping]
    rfl

end FileTree

end RemovableMedia
