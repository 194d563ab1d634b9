import RemovableMedia.Proofs.Import.MountedVolumes

/-!
# Volumes below the eligible roots

Whether a mount path lies below a root is decided on the names of the two paths,
one by one and as they are written.  Where nothing leads up, that is a question
about places: slashes and dots make no difference, and a longer name is another
name.  A name that leads up is compared like the others, though, so that a path
out of a root counts as below it, and one that comes back to a root does not.
-/

namespace RemovableMedia

namespace Path

/-! ## Places -/

/-- The names along a path, without those that lead nowhere. -/
def trail (path : String) : List String := (names path).filter (· ≠ ".")

/-- One more name from a place on.  Above the root there is only the root. -/
def advance (place : List String) (name : String) : List String :=
  if name = ".." then place.dropLast else place ++ [name]

/-- The place that an absolute path is a spelling of. -/
def place (path : String) : List String := (trail path).foldl advance []

example : place "//media/./a/..//CARD/" = ["media", "CARD"] := by decide

/-- Nothing along the path leads up. -/
def IsStraight (path : String) : Prop := ".." ∉ trail path

instance (path : String) : Decidable (IsStraight path) :=
  inferInstanceAs (Decidable (".." ∉ trail path))

theorem foldl_advance_of_straight {names : List String}
    (straight : ".." ∉ names) (start : List String) :
    names.foldl advance start = start ++ names := by
  induction names generalizing start with
  | nil => simp
  | cons name names induction =>
      have onward : name ≠ ".." := fun up => straight (by simp [up])
      rw [List.foldl_cons, advance, if_neg onward,
        induction fun member => straight (List.mem_cons_of_mem _ member)]
      simp

theorem place_of_isStraight {path : String} (straight : IsStraight path) :
    place path = trail path :=
  (foldl_advance_of_straight straight []).trans (List.nil_append _)

theorem components_of_isAbsolute {path : String}
    (absolute : isAbsolute path = true) :
    components path = "/" :: trail path := by
  rw [components, if_pos absolute]
  rfl

/-! ## Longer names -/

theorem split_cons_of_ne {c : Char} (other : c ≠ '/') {rest part : List Char}
    {parts : List (List Char)} (parted : split rest = part :: parts) :
    split (c :: rest) = (c :: part) :: parts := by
  rw [split.eq_def]
  split
  · contradiction
  · simp_all
  · simp_all

theorem exists_split (text : List Char) :
    ∃ part parts, split text = part :: parts := by
  induction text with
  | nil => exact ⟨[], [], rfl⟩
  | cons c rest induction =>
      obtain ⟨part, parts, parted⟩ := induction
      by_cases slash : c = '/'
      · subst slash
        exact ⟨[], split rest, rfl⟩
      · exact ⟨c :: part, parts, split_cons_of_ne slash parted⟩

/-- The parts on both sides of a slash have nothing to do with each other. -/
theorem split_append_slash (first second : List Char) :
    split (first ++ '/' :: second) = split first ++ split second := by
  induction first with
  | nil => rfl
  | cons c first induction =>
      by_cases slash : c = '/'
      · subst slash
        exact congrArg ([] :: ·) induction
      · obtain ⟨part, parts, parted⟩ := exists_split first
        rw [parted] at induction
        rw [split_cons_of_ne slash parted]
        exact split_cons_of_ne slash induction

/-- A name grows by what follows it up to the next slash. -/
theorem split_append_of_slash_free {name : List Char} (free : '/' ∉ name)
    {text part : List Char} {parts : List (List Char)}
    (parted : split text = part :: parts) :
    split (name ++ text) = (name ++ part) :: parts := by
  induction name with
  | nil => exact parted
  | cons c name induction =>
      have other : c ≠ '/' := fun slash => free (by simp [slash])
      exact split_cons_of_ne other
        (induction fun member => free (List.mem_cons_of_mem _ member))

/-- The parts of a path that are names leading somewhere. -/
def counted (parts : List (List Char)) : List String :=
  ((parts.filter (· ≠ [])).map String.ofList).filter (· ≠ ".")

theorem trail_eq (path : String) : trail path = counted (split path.toList) :=
  rfl

theorem counted_append (first second : List (List Char)) :
    counted (first ++ second) = counted first ++ counted second := by
  simp [counted]

theorem counted_cons_of_name {name : List Char} (some : name ≠ [])
    (visible : name ≠ ['.']) (parts : List (List Char)) :
    counted (name :: parts) = String.ofList name :: counted parts := by
  have other : String.ofList name ≠ "." := by
    intro dot
    have same := congrArg String.toList dot
    rw [String.toList_ofList] at same
    exact visible same
  simp [counted, some, other]

theorem isAbsolute_append {path : String} (absolute : isAbsolute path = true)
    (more : String) : isAbsolute (path ++ more) = true := by
  simp only [isAbsolute, decide_eq_true_eq] at absolute ⊢
  rw [String.toList_append, List.head?_append, absolute]
  rfl

/-- Text that starts with no slash starts with a name. -/
theorem exists_split_of_not_isAbsolute {text : String} (some : text ≠ "")
    (relative : isAbsolute text = false) :
    ∃ part parts, split text.toList = part :: parts ∧ part ≠ [] := by
  obtain ⟨c, rest, written⟩ :=
    List.exists_cons_of_ne_nil (mt String.toList_eq_nil_iff.mp some)
  have other : c ≠ '/' := by
    simpa [isAbsolute, written] using relative
  obtain ⟨part, parts, parted⟩ := exists_split rest
  refine ⟨c :: part, parts, ?_, List.cons_ne_nil c part⟩
  rw [written]
  exact split_cons_of_ne other parted

/-- The second path goes on from the first with more of its last name. -/
inductive Outgrows : String → String → Prop where
  | goOn {base name more : String} (free : '/' ∉ name.toList)
      (named : name ≠ "") (visible : name ≠ ".") (longer : more ≠ "")
      (unbroken : isAbsolute more = false) :
      Outgrows (base ++ "/" ++ name) (base ++ "/" ++ name ++ more)

/-- A longer name is another name. -/
theorem isAtOrBelow_of_outgrows {root path : String}
    (outgrows : Outgrows root path) (absolute : isAbsolute root = true) :
    isAtOrBelow root path = false := by
  obtain @⟨base, name, more, free, named, visible, longer, unbroken⟩ := outgrows
  obtain ⟨part, parts, parted, grown⟩ :=
    exists_split_of_not_isAbsolute longer unbroken
  have nonempty : name.toList ≠ [] := mt String.toList_eq_nil_iff.mp named
  have undotted : name.toList ≠ ['.'] := fun dot =>
    visible (String.toList_inj.mp dot)
  have whole : split (name.toList ++ []) = [name.toList ++ []] :=
    split_append_of_slash_free free rfl
  have short : trail (base ++ "/" ++ name) =
      counted (split base.toList) ++ [name] := by
    have written : (base ++ "/" ++ name).toList =
        base.toList ++ '/' :: name.toList := by simp
    rw [List.append_nil] at whole
    rw [trail_eq, written, split_append_slash, counted_append, whole,
      counted_cons_of_name nonempty undotted, String.ofList_toList]
    rfl
  have long : trail (base ++ "/" ++ name ++ more) =
      counted (split base.toList) ++
        String.ofList (name.toList ++ part) :: counted parts := by
    have written : (base ++ "/" ++ name ++ more).toList =
        base.toList ++ '/' :: (name.toList ++ more.toList) := by simp
    rw [trail_eq, written, split_append_slash, counted_append,
      split_append_of_slash_free free parted, counted_cons_of_name]
    · simp [nonempty]
    · simp [List.append_eq_singleton_iff, nonempty, grown]
  have differs : ¬ name = String.ofList (name.toList ++ part) := by
    intro same
    have letters := congrArg String.toList same
    rw [String.toList_ofList] at letters
    exact grown (List.self_eq_append_right.mp letters)
  rw [← Bool.not_eq_true, isAtOrBelow, components_of_isAbsolute absolute,
    components_of_isAbsolute (isAbsolute_append absolute more), short, long,
    List.isPrefixOf_iff_prefix, List.cons_prefix_cons, not_and]
  intro _ below
  rw [List.prefix_append_right_inj, List.cons_prefix_cons] at below
  exact differs below.1

end Path

/-! ## Eligibility -/

namespace ImportSettings

variable {settings : ImportSettings} {mountPath : String}

theorem isEligible_iff_trail
    (rooted : ∀ root ∈ settings.eligibleRoots, Path.isAbsolute root = true)
    (absolute : Path.isAbsolute mountPath = true) :
    settings.isEligible mountPath = true ↔
      ∃ root ∈ settings.eligibleRoots,
        Path.trail root <+: Path.trail mountPath := by
  rw [isEligible_iff]
  apply exists_congr
  intro root
  apply and_congr_right
  intro member
  rw [Path.components_of_isAbsolute (rooted root member),
    Path.components_of_isAbsolute absolute, List.cons_prefix_cons,
    and_iff_right rfl]

end ImportSettings

namespace Path

theorem IsStraight.of_trail_prefix {root path : String}
    (straight : IsStraight path) (below : trail root <+: trail path) :
    IsStraight root :=
  fun up => straight (below.subset up)

theorem trail_prefix_iff {root path : String} (straight : IsStraight path) :
    trail root <+: trail path ↔
      IsStraight root ∧ place root <+: place path := by
  constructor
  · intro below
    have rootStraight := straight.of_trail_prefix below
    rw [place_of_isStraight straight, place_of_isStraight rootStraight]
    exact ⟨rootStraight, below⟩
  · rintro ⟨rootStraight, below⟩
    rwa [place_of_isStraight straight, place_of_isStraight rootStraight]
      at below

end Path

/-- Which volumes are eligible where all paths are absolute.  The names of a
root must be those that the mount path starts with.  A mount path along which
nothing leads up is eligible exactly if its place is that of a root or below it
and nothing leads up along the root either; so where no root leads up, places
alone decide.  A root never stands for a longer name. -/
theorem isEligible_iff_below_root (settings : ImportSettings)
    (rooted : ∀ root ∈ settings.eligibleRoots, Path.isAbsolute root = true)
    {mountPath : String} (absolute : Path.isAbsolute mountPath = true) :
    (settings.isEligible mountPath = true ↔
      ∃ root ∈ settings.eligibleRoots,
        Path.trail root <+: Path.trail mountPath) ∧
    (Path.IsStraight mountPath →
      (settings.isEligible mountPath = true ↔
        ∃ root ∈ settings.eligibleRoots, Path.IsStraight root ∧
          Path.place root <+: Path.place mountPath)) ∧
    (Path.IsStraight mountPath →
      (∀ root ∈ settings.eligibleRoots, Path.IsStraight root) →
      (settings.isEligible mountPath = true ↔
        ∃ root ∈ settings.eligibleRoots,
          Path.place root <+: Path.place mountPath)) ∧
    ∀ root ∈ settings.eligibleRoots, Path.Outgrows root mountPath →
      Path.isAtOrBelow root mountPath = false := by
  have literally := ImportSettings.isEligible_iff_trail rooted absolute
  have straightly : Path.IsStraight mountPath →
      (settings.isEligible mountPath = true ↔
        ∃ root ∈ settings.eligibleRoots, Path.IsStraight root ∧
          Path.place root <+: Path.place mountPath) := by
    intro straight
    rw [literally]
    exact exists_congr fun root =>
      and_congr_right fun _ => Path.trail_prefix_iff straight
  refine ⟨literally, straightly, ?_, ?_⟩
  · intro straight straightRoots
    rw [straightly straight]
    exact exists_congr fun root => and_congr_right fun member =>
      and_iff_right (straightRoots root member)
  · intro root member outgrows
    exact Path.isAtOrBelow_of_outgrows outgrows (rooted root member)

/-- A card below the second root, and a store that only sounds like the
first. -/
theorem isEligible_iff_below_root_of_card :
    ({} : ImportSettings).isEligible "//run/./media/user//CARD/" = true ∧
      ({} : ImportSettings).isEligible "/mediastore/CARD" = false ∧
      Path.isAtOrBelow "/media" "/mediastore/CARD" = false := by
  have rooted : ∀ root ∈ ({} : ImportSettings).eligibleRoots,
      Path.isAbsolute root = true := by decide
  have straightRoots : ∀ root ∈ ({} : ImportSettings).eligibleRoots,
      Path.IsStraight root := by decide
  have cardRooted : Path.isAbsolute "//run/./media/user//CARD/" = true := by
    decide
  have storeRooted : Path.isAbsolute "/mediastore/CARD" = true := by decide
  have outgrows : Path.Outgrows "/media" "/mediastore/CARD" :=
    @Path.Outgrows.goOn "" "media" "store/CARD"
      (by decide) (by decide) (by decide) (by decide) (by decide)
  have card := isEligible_iff_below_root {} rooted cardRooted
  have store := isEligible_iff_below_root {} rooted storeRooted
  refine ⟨?_, ?_, store.2.2.2 "/media" (by decide) outgrows⟩
  · exact (card.2.2.1 (by decide) straightRoots).mpr (by decide)
  · rw [← Bool.not_eq_true, store.2.2.1 (by decide) straightRoots]
    decide

/-- A path that leads out of a root is eligible, and one that leads to a root by
way of another directory is not. -/
theorem eligible_out_of_root_and_not_below :
    ({} : ImportSettings).isEligible "/media/../mnt/backup" = true ∧
      (∀ root ∈ ({} : ImportSettings).eligibleRoots,
        ¬ Path.place root <+: Path.place "/media/../mnt/backup") ∧
      ({} : ImportSettings).isEligible "/mnt/../media/CARD" = false ∧
      ∃ root ∈ ({} : ImportSettings).eligibleRoots,
        Path.place root <+: Path.place "/mnt/../media/CARD" := by
  decide

end RemovableMedia
