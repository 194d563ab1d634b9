import Mathlib.Logic.Relation
import RemovableMedia.Storage.FileSystem

/-!
# Where paths lead

A walk along a path goes on one name at a time, with links followed wherever they
are met, until there is nothing more to walk or no way on.  What a path leads to is
what the walk ends with.  A walk that comes back to a place where it was, with all
that it had to walk there still to be walked, runs out of links.
-/

namespace RemovableMedia

open Relation

/-- How far a walk has come. -/
structure Waypoint where
  /-- So many links may still be followed. -/
  links : Nat
  /-- The directory that was reached, by its names from the last to the first. -/
  here : List String
  /-- What is still to be walked. -/
  ahead : List String

namespace FileTree

variable {tree : FileTree}

/-- A step that is taken for the name of an entry. -/
structure IsName (step : String) : Prop where
  notHere : step ≠ "."
  notUp : step ≠ ".."
  fits : step.utf8ByteSize ≤ longestName

instance (step : String) : Decidable (IsName step) :=
  decidable_of_iff
    (step ≠ "." ∧ step ≠ ".." ∧ step.utf8ByteSize ≤ longestName)
    ⟨fun ⟨notHere, notUp, fits⟩ => ⟨notHere, notUp, fits⟩,
      fun name => ⟨name.notHere, name.notUp, name.fits⟩⟩

/-- What has a name in a directory. -/
def entry? (tree : FileTree) (here : List String) (name : String) :
    Option Node :=
  tree.root.at? (here.reverse ++ [name])

/-- Where the target of a link is walked from. -/
def linkStart (here : List String) (target : String) : List String :=
  if Path.isAbsolute target then [] else here

/-- One step of a walk. -/
inductive Advances (tree : FileTree) : Waypoint → Waypoint → Prop where
  | stay {links : Nat} {here ahead : List String} :
      Advances tree ⟨links, here, "." :: ahead⟩ ⟨links, here, ahead⟩
  | up {links : Nat} {here ahead : List String} :
      Advances tree ⟨links, here, ".." :: ahead⟩ ⟨links, here.tail, ahead⟩
  | enter {links : Nat} {here ahead : List String} {step : String}
      {entries : List (String × Node)} (name : IsName step)
      (found : tree.entry? here step = some (.directory entries)) :
      Advances tree ⟨links, here, step :: ahead⟩ ⟨links, step :: here, ahead⟩
  | follow {links : Nat} {here ahead : List String} {step target : String}
      (name : IsName step)
      (found : tree.entry? here step = some (.link target))
      (aimed : target ≠ "") :
      Advances tree ⟨links + 1, here, step :: ahead⟩
        ⟨links, linkStart here target, Path.steps target ++ ahead⟩

/-- A walk ends at this point, with this answer. -/
inductive Halts (tree : FileTree) :
    Waypoint → Except PathFault FileKind → Prop where
  | arrived {links : Nat} {here : List String} {node : Node}
      (found : tree.root.at? here.reverse = some node) :
      Halts tree ⟨links, here, []⟩ (.ok node.kind)
  | nowhere {links : Nat} {here : List String}
      (absent : tree.root.at? here.reverse = none) :
      Halts tree ⟨links, here, []⟩ (.error .missing)
  | absent {links : Nat} {here ahead : List String} {step : String}
      (name : IsName step) (absent : tree.entry? here step = none) :
      Halts tree ⟨links, here, step :: ahead⟩ (.error .missing)
  | file {links : Nat} {here : List String} {step : String}
      {content : ByteArray} (name : IsName step)
      (found : tree.entry? here step = some (.file content)) :
      Halts tree ⟨links, here, [step]⟩ (.ok .other)
  | blocked {links : Nat} {here ahead : List String} {step : String}
      {content : ByteArray} (name : IsName step)
      (found : tree.entry? here step = some (.file content))
      (more : ahead ≠ []) :
      Halts tree ⟨links, here, step :: ahead⟩ (.error .notADirectory)
  | aimless {links : Nat} {here ahead : List String} {step : String}
      (name : IsName step)
      (found : tree.entry? here step = some (.link "")) :
      Halts tree ⟨links + 1, here, step :: ahead⟩ (.error .missing)
  | exhausted {here ahead : List String} {step target : String}
      (name : IsName step)
      (found : tree.entry? here step = some (.link target)) :
      Halts tree ⟨0, here, step :: ahead⟩ (.error .tooManyLinks)
  | overlong {links : Nat} {here ahead : List String} {step : String}
      (long : longestName < step.utf8ByteSize) :
      Halts tree ⟨links, here, step :: ahead⟩ (.error .nameTooLong)

/-- A walk from the first point ends with this answer. -/
def Ends (tree : FileTree) (first : Waypoint)
    (answer : Except PathFault FileKind) : Prop :=
  ∃ last, ReflTransGen tree.Advances first last ∧ tree.Halts last answer

theorem Halts.ends {point : Waypoint} {answer : Except PathFault FileKind}
    (halts : tree.Halts point answer) : tree.Ends point answer :=
  ⟨point, .refl, halts⟩

theorem Ends.before {point next : Waypoint}
    {answer : Except PathFault FileKind}
    (ends : tree.Ends next answer) (advances : tree.Advances point next) :
    tree.Ends point answer := by
  obtain ⟨last, walked, halts⟩ := ends
  exact ⟨last, .head advances walked, halts⟩

/-! ## Every walk ends, and in one way -/

/-- The answer of the spot where a walk ends. -/
def answerAt (spot : Spot) : Except PathFault FileKind :=
  match spot.node with
  | some node => .ok node.kind
  | none => .error .missing

/-- The answer of the rest of a walk. -/
def answer (tree : FileTree) (point : Waypoint) : Except PathFault FileKind :=
  (tree.walk point.links point.here point.ahead).bind answerAt

/-- The walk at a name depends on what has the name. -/
theorem walk_name {step : String} (name : IsName step) (links : Nat)
    (here ahead : List String) :
    tree.walk links here (step :: ahead) =
      match tree.entry? here step, links with
      | none, _ =>
          if ahead.isEmpty then .ok ⟨step :: here, none⟩ else .error .missing
      | some (.directory _), links => tree.walk links (step :: here) ahead
      | some (.file content), _ =>
          if ahead.isEmpty then .ok ⟨step :: here, some (.file content)⟩
          else .error .notADirectory
      | some (.link _), 0 => .error .tooManyLinks
      | some (.link target), links + 1 =>
          if target = "" then .error .missing
          else tree.walk links (linkStart here target)
            (Path.steps target ++ ahead) := by
  rw [walk, if_neg name.notHere, if_neg name.notUp,
    if_neg (Nat.not_lt.mpr name.fits)]
  unfold entry?
  cases tree.root.at? (here.reverse ++ [step]) with
  | none => rfl
  | some node => cases node <;> cases links <;> rfl

theorem answer_of_advances {point next : Waypoint}
    (advances : tree.Advances point next) :
    tree.answer point = tree.answer next := by
  unfold answer
  cases advances with
  | stay => rw [walk, if_pos rfl]
  | up => rw [walk, if_neg (by decide), if_pos rfl]
  | enter name found => rw [walk_name name, found]
  | follow name found aimed =>
      rw [walk_name name, found]
      exact congrArg (Except.bind · answerAt) (if_neg aimed)

theorem answer_of_halts {point : Waypoint} {answer : Except PathFault FileKind}
    (halts : tree.Halts point answer) : tree.answer point = answer := by
  unfold FileTree.answer
  cases halts with
  | arrived found =>
      rw [walk, found]
      rfl
  | nowhere absent =>
      rw [walk, absent]
      rfl
  | @absent _ _ ahead _ name absent =>
      rw [walk_name name, absent]
      cases ahead <;> rfl
  | file name found =>
      rw [walk_name name, found]
      rfl
  | blocked name found more =>
      have unfinished : ¬ List.isEmpty _ = true := mt List.isEmpty_iff.mp more
      rw [walk_name name, found]
      exact congrArg (Except.bind · answerAt) (if_neg unfinished)
  | aimless name found =>
      rw [walk_name name, found]
      rfl
  | exhausted name found =>
      rw [walk_name name, found]
      rfl
  | @overlong _ _ _ step long =>
      have notHere : step ≠ "." := by
        rintro rfl
        exact absurd long (by decide)
      have notUp : step ≠ ".." := by
        rintro rfl
        exact absurd long (by decide)
      rw [walk, if_neg notHere, if_neg notUp, if_pos long]
      rfl

/-- A walk goes on or ends. -/
theorem exists_advances_or_halts (tree : FileTree) (point : Waypoint) :
    (∃ next, tree.Advances point next) ∨ ∃ answer, tree.Halts point answer := by
  obtain ⟨links, here, ahead⟩ := point
  cases ahead with
  | nil =>
      right
      cases found : tree.root.at? here.reverse with
      | none => exact ⟨_, .nowhere found⟩
      | some node => exact ⟨_, .arrived found⟩
  | cons step ahead =>
      by_cases stays : step = "."
      · subst stays
        exact .inl ⟨_, .stay⟩
      by_cases ups : step = ".."
      · subst ups
        exact .inl ⟨_, .up⟩
      rcases Nat.lt_or_ge longestName step.utf8ByteSize with long | fits
      · exact .inr ⟨_, .overlong long⟩
      have name : IsName step := ⟨stays, ups, fits⟩
      rcases found : tree.entry? here step with _ | entries | content | target
      · exact .inr ⟨_, .absent name found⟩
      · exact .inl ⟨_, .enter name found⟩
      · by_cases last : ahead = []
        · subst last
          exact .inr ⟨_, .file name found⟩
        · exact .inr ⟨_, .blocked name found last⟩
      · cases links with
        | zero => exact .inr ⟨_, .exhausted name found⟩
        | succ links =>
            by_cases aimless : target = ""
            · subst aimless
              exact .inr ⟨_, .aimless name found⟩
            · exact .inl ⟨_, .follow name found aimless⟩

/-- Every step leaves fewer links, or fewer steps with as many links. -/
theorem lt_of_advances {point next : Waypoint}
    (advances : tree.Advances point next) :
    Prod.Lex (· < ·) (· < ·) (next.links, next.ahead.length)
      (point.links, point.ahead.length) := by
  cases advances with
  | stay => exact .right _ (Nat.lt_succ_self _)
  | up => exact .right _ (Nat.lt_succ_self _)
  | enter => exact .right _ (Nat.lt_succ_self _)
  | follow => exact .left _ _ (Nat.lt_succ_self _)

theorem exists_ends (tree : FileTree) (point : Waypoint) :
    ∃ answer, tree.Ends point answer := by
  have bounded := (Prod.lex Nat.lt_wfRel Nat.lt_wfRel).wf
  induction pace : (point.links, point.ahead.length)
    using bounded.induction generalizing point with
  | _ pace induction =>
      subst pace
      rcases tree.exists_advances_or_halts point with
        ⟨next, advances⟩ | ⟨answer, halts⟩
      · obtain ⟨answer, ends⟩ :=
          induction _ (lt_of_advances advances) next rfl
        exact ⟨answer, ends.before advances⟩
      · exact ⟨answer, halts.ends⟩

theorem answer_of_reaches {point last : Waypoint}
    (walked : ReflTransGen tree.Advances point last) :
    tree.answer point = tree.answer last := by
  induction walked with
  | refl => rfl
  | tail _ advances induction =>
      exact induction.trans (answer_of_advances advances)

theorem ends_iff {point : Waypoint} {answer : Except PathFault FileKind} :
    tree.Ends point answer ↔ tree.answer point = answer := by
  have sound {answer : Except PathFault FileKind}
      (ends : tree.Ends point answer) : tree.answer point = answer := by
    obtain ⟨last, walked, halts⟩ := ends
    exact (answer_of_reaches walked).trans (answer_of_halts halts)
  constructor
  · exact sound
  · rintro rfl
    obtain ⟨answer, ends⟩ := tree.exists_ends point
    rwa [sound ends]

/-! ## Loops -/

/-- Between two stages so many links are followed, with any number of links and
with anything that is to be walked afterwards. -/
structure Follows (tree : FileTree) (used : Nat) (first last : Waypoint) :
    Prop where
  links : first.links = last.links + used
  onward : ∀ (links : Nat) (more : List String),
    tree.answer ⟨links + used, first.here, first.ahead ++ more⟩ =
      tree.answer ⟨links, last.here, last.ahead ++ more⟩
  spent : ∀ (links : Nat) (more : List String), links < used →
    tree.answer ⟨links, first.here, first.ahead ++ more⟩ =
      .error .tooManyLinks

namespace Follows

variable {first middle last : Waypoint}

theorem refl (tree : FileTree) (point : Waypoint) : tree.Follows 0 point point :=
  ⟨rfl, fun _ _ => rfl, fun _ _ less => absurd less (Nat.not_lt_zero _)⟩

theorem trans {used more : Nat} (start : tree.Follows used first middle)
    (rest : tree.Follows more middle last) :
    tree.Follows (more + used) first last := by
  refine ⟨?_, fun links extra => ?_, fun links extra less => ?_⟩
  · rw [start.links, rest.links, Nat.add_assoc]
  · rw [← Nat.add_assoc, start.onward, rest.onward]
  · rcases Nat.lt_or_ge links used with short | enough
    · exact start.spent links extra short
    · obtain ⟨left, rfl⟩ := Nat.exists_eq_add_of_le' enough
      rw [start.onward]
      exact rest.spent left extra (Nat.lt_of_add_lt_add_right less)

/-- A step that takes no link. -/
theorem of_same_links {here ahead onward rest : List String}
    (advances : ∀ (links : Nat) (more : List String),
      tree.Advances ⟨links, here, ahead ++ more⟩ ⟨links, onward, rest ++ more⟩)
    (links : Nat) :
    tree.Follows 0 ⟨links, here, ahead⟩ ⟨links, onward, rest⟩ :=
  ⟨rfl, fun links more => answer_of_advances (advances links more),
    fun _ _ less => absurd less (Nat.not_lt_zero _)⟩

theorem of_advances (advances : tree.Advances first last) :
    ∃ used, tree.Follows used first last := by
  cases advances with
  | stay => exact ⟨0, of_same_links (fun _ _ => .stay) _⟩
  | up => exact ⟨0, of_same_links (fun _ _ => .up) _⟩
  | enter name found =>
      exact ⟨0, of_same_links (fun _ _ => .enter name found) _⟩
  | @follow links here ahead step target name found aimed =>
      refine ⟨1, rfl, fun links more => ?_, fun links more less => ?_⟩
      · rw [List.append_assoc]
        exact answer_of_advances (.follow name found aimed)
      · rw [Nat.lt_one_iff.mp less]
        exact answer_of_halts (.exhausted name found)

theorem of_reaches (walked : ReflTransGen tree.Advances first last) :
    ∃ used, tree.Follows used first last := by
  induction walked with
  | refl => exact ⟨0, refl tree first⟩
  | tail _ advances induction =>
      obtain ⟨used, start⟩ := induction
      obtain ⟨more, step⟩ := of_advances advances
      exact ⟨more + used, start.trans step⟩

/-- Round after round the links become fewer. -/
theorem answer_of_round {used : Nat} {more : List String}
    (round : tree.Follows used first last) (some : 0 < used)
    (back : last.here = first.here) (again : last.ahead = first.ahead ++ more)
    (links : Nat) (rest : List String) :
    tree.answer ⟨links, first.here, first.ahead ++ rest⟩ =
      .error .tooManyLinks := by
  induction links using Nat.strongRecOn generalizing rest with
  | _ links induction =>
      rcases Nat.lt_or_ge links used with short | enough
      · exact round.spent links rest short
      · obtain ⟨left, rfl⟩ := Nat.exists_eq_add_of_le' enough
        rw [round.onward, back, again, List.append_assoc]
        exact induction left (Nat.lt_add_of_pos_right some) (more ++ rest)

end Follows

/-! ## Paths -/

/-- A path leads to this answer: it is refused as it is, or the walk along it ends
so. -/
def LeadsTo (tree : FileTree) (path : String)
    (answer : Except PathFault FileKind) : Prop :=
  match checkPath path with
  | .error fault => answer = .error fault
  | .ok () =>
      tree.Ends ⟨mostLinks, tree.startOf path, Path.steps path⟩ answer

theorem leadsTo_of_ends {path : String}
    {answer : Except PathFault FileKind} (fine : checkPath path = .ok ())
    (ends : tree.Ends ⟨mostLinks, tree.startOf path, Path.steps path⟩ answer) :
    tree.LeadsTo path answer := by
  rw [LeadsTo, fine]
  exact ends

theorem kind_eq_iff {path : String} {answer : Except PathFault FileKind} :
    tree.files.kind path = answer ↔ tree.LeadsTo path answer := by
  have opened : tree.files.kind path = (checkPath path).bind fun _ =>
      tree.answer ⟨mostLinks, tree.startOf path, Path.steps path⟩ := by
    simp only [files, lookup, goTo, FileTree.answer, bind]
    cases checkPath path with
    | error fault => rfl
    | ok _ =>
        cases tree.walk mostLinks (tree.startOf path) (Path.steps path) with
        | error fault => rfl
        | ok spot =>
          obtain ⟨place, node⟩ := spot
          cases node <;> rfl
  rw [opened, LeadsTo]
  cases checkPath path with
  | error fault => exact eq_comm
  | ok _ => exact ends_iff.symm

/-- The walk along a path comes back to a directory where it was, after links were
followed, and has still to walk what it had to walk there. -/
def Loops (tree : FileTree) (path : String) : Prop :=
  ∃ (links : Nat) (first last : Waypoint) (more : List String),
    ReflTransGen tree.Advances
      ⟨links, tree.startOf path, Path.steps path⟩ first ∧
    ReflTransGen tree.Advances first last ∧ last.links < first.links ∧
    last.here = first.here ∧ last.ahead = first.ahead ++ more

theorem leadsTo_of_loops {path : String} (fine : checkPath path = .ok ())
    (loops : tree.Loops path) : tree.LeadsTo path (.error .tooManyLinks) := by
  obtain ⟨links, first, last, more, reached, round, fewer, back, again⟩ := loops
  obtain ⟨used, start⟩ := Follows.of_reaches reached
  obtain ⟨taken, around⟩ := Follows.of_reaches round
  have some : 0 < taken := by
    have total := around.links
    omega
  have lost := around.answer_of_round some back again
  apply leadsTo_of_ends fine
  apply ends_iff.mpr
  rcases Nat.lt_or_ge mostLinks used with short | enough
  · have ended := start.spent mostLinks [] short
    rwa [List.append_nil] at ended
  · obtain ⟨left, total⟩ := Nat.exists_eq_add_of_le' enough
    have onward := start.onward left []
    rw [List.append_nil, ← total] at onward
    exact onward.trans (lost left [])

end FileTree

end RemovableMedia
