import Mathlib.Data.List.Infix
import RemovableMedia.Config.Messages

/-!
# Labels in failure texts

A text is cut at the places that it has for a label, found one after another from
its start.  The pieces of a text are determined by it, and a failure is rendered by
putting the label between them.  So a label stands in the rendered text as it is,
whatever characters it is made of.
-/

namespace RemovableMedia

/-- What a text has in the place of a label. -/
def labelMark : List Char :=
  ['\u007b', 'l', 'a', 'b', 'e', 'l', '\u007d']

/-- A text and its pieces.  The mark after a piece is the first of the text: none
ends before it does. -/
inductive Cut : List Char → List (List Char) → Prop where
  | last {piece : List Char} (free : ¬ labelMark <:+: piece) :
      Cut piece [piece]
  | next {piece rest : List Char} {pieces : List (List Char)}
      (first : ¬ labelMark <:+: piece ++ labelMark.dropLast)
      (later : Cut rest pieces) :
      Cut (piece ++ (labelMark ++ rest)) (piece :: pieces)

/-! ## Marks do not overlap -/

/-- A mark starts with a character that it has nowhere else, so none starts before
another one and ends within it or after it. -/
theorem labelMark_prefix_of_append {piece rest : List Char} (some : piece ≠ [])
    (starts : labelMark <+: piece ++ (labelMark ++ rest)) :
    labelMark <+: piece := by
  rcases List.prefix_or_prefix_of_prefix starts (List.prefix_append piece _) with
    inside | ⟨tail, cut⟩
  · exact inside
  · cases tail with
    | nil => exact ⟨[], by rw [List.append_nil, ← cut, List.append_nil]⟩
    | cons next tail =>
        rw [← cut, List.prefix_append_right_inj, cut] at starts
        have opening : next = '\u007b' := (List.cons_prefix_cons.mp starts).1
        obtain ⟨first, piece, rfl⟩ := List.exists_cons_of_ne_nil some
        have member : next ∈ labelMark.tail := by
          rw [← cut]
          exact List.mem_append_right _ List.mem_cons_self
        rw [opening] at member
        exact absurd member (by decide)

/-- A mark ends with a character that it has nowhere else. -/
theorem labelMark_infix_append_dropLast_iff {piece : List Char} :
    labelMark <:+: piece ++ labelMark.dropLast ↔ labelMark <:+: piece := by
  constructor
  · rintro ⟨before, after, found⟩
    rcases List.append_eq_append_iff.mp found with
      ⟨tail, whole, _⟩ | ⟨tail, whole, cut⟩
    · exact ⟨before, tail, whole.symm⟩
    · rcases List.eq_nil_or_concat tail with rfl | ⟨tail, closing, rfl⟩
      · rw [List.append_nil] at whole
        exact ⟨before, [], by rw [List.append_nil, whole]⟩
      · have closes : closing = '\u007d' := by
          have last := congrArg List.getLast? whole
          simpa [labelMark] using last.symm
        have member : closing ∈ labelMark.dropLast := by
          rw [cut]
          simp
        rw [closes] at member
        exact absurd member (by decide)
  · intro inside
    exact inside.trans (List.prefix_append piece _).isInfix

theorem labelMark_inside (piece rest : List Char) :
    labelMark <:+: piece ++ (labelMark ++ rest) :=
  ⟨piece, rest, by rw [List.append_assoc]⟩

theorem eq_nil_of_labelMark_append {piece longer tail rest later : List Char}
    (free : ¬ labelMark <:+: longer) (grown : longer = piece ++ tail)
    (same : labelMark ++ rest = tail ++ (labelMark ++ later)) :
    tail = [] := by
  by_contra some
  have starts : labelMark <+: tail :=
    labelMark_prefix_of_append some ⟨rest, same⟩
  rw [grown] at free
  exact free (starts.isInfix.trans (List.suffix_append piece tail).isInfix)

/-- The text before a mark, if it has none itself, and the text after it. -/
theorem append_labelMark_inj {piece other rest later : List Char}
    (free : ¬ labelMark <:+: piece) (otherFree : ¬ labelMark <:+: other)
    (same : piece ++ (labelMark ++ rest) = other ++ (labelMark ++ later)) :
    piece = other ∧ rest = later := by
  have pieces : piece = other := by
    rcases List.append_eq_append_iff.mp same with
      ⟨tail, grown, marks⟩ | ⟨tail, grown, marks⟩
    · rw [grown, eq_nil_of_labelMark_append otherFree grown marks,
        List.append_nil]
    · rw [grown, eq_nil_of_labelMark_append free grown marks, List.append_nil]
  subst other
  exact ⟨rfl, List.append_cancel_left (List.append_cancel_left same)⟩

/-! ## Expansion -/

theorem expandLabel_mark (label rest : List Char) :
    expandLabel label (labelMark ++ rest) = label ++ expandLabel label rest :=
  rfl

theorem expandLabel_cons {label text : List Char} {c : Char}
    (plain : ¬ labelMark <+: c :: text) :
    expandLabel label (c :: text) = c :: expandLabel label text := by
  rw [expandLabel]
  rintro rest rfl rfl
  exact plain ⟨rest, rfl⟩

theorem expandLabel_of_free (label : List Char) {text : List Char}
    (free : ¬ labelMark <:+: text) : expandLabel label text = text := by
  induction text with
  | nil => rfl
  | cons c text induction =>
      have plain : ¬ labelMark <+: c :: text := fun starts =>
        free starts.isInfix
      have later : ¬ labelMark <:+: text := fun inside =>
        free (List.infix_cons inside)
      rw [expandLabel_cons plain, induction later]

/-- Expansion copies a text up to its first mark. -/
theorem expandLabel_append_mark (label rest : List Char) {piece : List Char}
    (free : ¬ labelMark <:+: piece) :
    expandLabel label (piece ++ (labelMark ++ rest)) =
      piece ++ (label ++ expandLabel label rest) := by
  induction piece with
  | nil => exact expandLabel_mark label rest
  | cons c piece induction =>
      have plain : ¬ labelMark <+: c :: (piece ++ (labelMark ++ rest)) :=
        fun starts => free
          (labelMark_prefix_of_append (List.cons_ne_nil c piece) starts).isInfix
      have later : ¬ labelMark <:+: piece := fun inside =>
        free (List.infix_cons inside)
      rw [List.cons_append, expandLabel_cons plain, induction later]
      rfl

/-! ## Pieces -/

namespace Cut

variable {text : List Char} {pieces : List (List Char)}

theorem free_of_first {piece : List Char}
    (first : ¬ labelMark <:+: piece ++ labelMark.dropLast) :
    ¬ labelMark <:+: piece :=
  mt labelMark_infix_append_dropLast_iff.mpr first

theorem ne_nil (cut : Cut text pieces) : pieces ≠ [] := by
  cases cut <;> exact List.cons_ne_nil _ _

/-- No piece has a place for a label. -/
theorem free (cut : Cut text pieces) {piece : List Char}
    (member : piece ∈ pieces) : ¬ labelMark <:+: piece := by
  induction cut with
  | last free => rwa [List.mem_singleton.mp member]
  | next first _ induction =>
      rcases List.mem_cons.mp member with rfl | later
      · exact free_of_first first
      · exact induction later

/-- A text is expanded by putting the label between its pieces. -/
theorem expandLabel_eq (cut : Cut text pieces) (label : List Char) :
    expandLabel label text = label.intercalate pieces := by
  induction cut with
  | last free => rw [expandLabel_of_free label free, List.intercalate_singleton]
  | next first later induction =>
      rw [expandLabel_append_mark label _ (free_of_first first), induction,
        List.intercalate_cons_of_ne_nil later.ne_nil, List.append_assoc]

/-- Marks between the pieces make up the text. -/
theorem intercalate_labelMark (cut : Cut text pieces) :
    labelMark.intercalate pieces = text := by
  induction cut with
  | last free => exact List.intercalate_singleton
  | next first later induction =>
      rw [List.intercalate_cons_of_ne_nil later.ne_nil, induction,
        List.append_assoc]

/-- A character in front that starts no mark belongs to the first piece. -/
theorem exists_cons {c : Char} (cut : Cut text pieces)
    (plain : ¬ labelMark <+: c :: text) : ∃ others, Cut (c :: text) others := by
  cases cut with
  | last free =>
      refine ⟨_, .last fun inside => ?_⟩
      rcases List.infix_cons_iff.mp inside with starts | later
      · exact plain starts
      · exact free later
  | @next piece rest pieces first later =>
      refine ⟨_, @next (c :: piece) rest pieces (fun inside => ?_) later⟩
      rcases List.infix_cons_iff.mp
        (labelMark_infix_append_dropLast_iff.mp inside) with starts | found
      · exact plain (starts.trans (List.prefix_append (c :: piece) _))
      · exact free_of_first first found

theorem exists_pieces (text : List Char) : ∃ pieces, Cut text pieces := by
  induction length : text.length using Nat.strong_induction_on
    generalizing text with
  | _ length induction =>
      subst length
      by_cases starts : labelMark <+: text
      · obtain ⟨rest, rfl⟩ := starts
        have shorter : rest.length < (labelMark ++ rest).length := by
          rw [List.length_append]
          exact Nat.lt_add_of_pos_left (by decide)
        obtain ⟨pieces, later⟩ := induction _ shorter rest rfl
        exact ⟨_, @next [] rest pieces (by decide) later⟩
      · cases text with
        | nil => exact ⟨[[]], last (by decide)⟩
        | cons c text =>
            have shorter : text.length < (c :: text).length := by simp
            obtain ⟨pieces, cut⟩ := induction _ shorter text rfl
            exact cut.exists_cons starts

/-- A text has one list of pieces. -/
theorem unique {others : List (List Char)} (cut : Cut text pieces)
    (other : Cut text others) : pieces = others := by
  induction cut generalizing others with
  | last free =>
      cases other with
      | last _ => rfl
      | next _ _ => exact absurd (labelMark_inside _ _) free
  | @next piece rest pieces first later induction =>
      generalize whole : piece ++ (labelMark ++ rest) = text at other
      cases other with
      | last free =>
          rw [← whole] at free
          exact absurd (labelMark_inside piece rest) free
      | next otherFirst otherLater =>
          obtain ⟨rfl, rfl⟩ := append_labelMark_inj (free_of_first first)
            (free_of_first otherFirst) whole
          rw [induction otherLater]

end Cut

/-! ## Rendering -/

/-- How failures are rendered.  The text of a failure that names a label has one list
of pieces, with the marks of the text between them and none within; the label takes
the place of every mark, and nothing else is changed.  So a text without a mark
stays as it is.  Without a label the other text of the failure is taken as it
is. -/
theorem labels_inserted_verbatim (catalog : MessageCatalog)
    (cause : FailureCause) :
    (∃ pieces, Cut (catalog.failureTexts cause).1.toList pieces ∧
      (∀ others, Cut (catalog.failureTexts cause).1.toList others →
        others = pieces) ∧
      labelMark.intercalate pieces =
        (catalog.failureTexts cause).1.toList ∧
      (∀ piece ∈ pieces, ¬ labelMark <:+: piece) ∧
      ∀ label : String, catalog.render ⟨cause, some label⟩ =
        String.ofList (label.toList.intercalate pieces)) ∧
    (¬ labelMark <:+: (catalog.failureTexts cause).1.toList →
      ∀ label : String, catalog.render ⟨cause, some label⟩ =
        (catalog.failureTexts cause).1) ∧
    catalog.render ⟨cause, none⟩ = (catalog.failureTexts cause).2 := by
  obtain ⟨pieces, cut⟩ := Cut.exists_pieces
    (catalog.failureTexts cause).1.toList
  refine ⟨⟨pieces, cut, fun others other => other.unique cut,
    cut.intercalate_labelMark, fun piece => cut.free, fun label => ?_⟩,
    fun free label => ?_, rfl⟩
  · exact congrArg String.ofList (cut.expandLabel_eq label.toList)
  · have unchanged := expandLabel_of_free label.toList free
    exact (congrArg String.ofList unchanged).trans String.ofList_toList

/-- A mark stands in the middle of what would be one without it. -/
def seamCatalog : MessageCatalog where
  deviceUnsupported := "\x7blab\x7blabel\x7del\x7d"
  deviceUnknown := "\x7bLabel\x7d"

theorem cut_seam : Cut seamCatalog.deviceUnsupported.toList
    ["\x7blab".toList, "el\x7d".toList] :=
  @Cut.next "\x7blab".toList "el\x7d".toList ["el\x7d".toList] (by decide)
    (.last (by decide))

/-- A mark that only an empty label brings about stays, and so does one that is the
label. -/
theorem labels_inserted_verbatim_at_seam :
    seamCatalog.render ⟨.unsupported, some ""⟩ = "\x7blabel\x7d" ∧
      seamCatalog.render ⟨.unsupported, some "\x7blabel\x7d"⟩ =
        "\x7blab\x7blabel\x7del\x7d" ∧
      seamCatalog.render ⟨.unknown, some "CARD"⟩ = "\x7bLabel\x7d" := by
  obtain ⟨⟨pieces, _, unique, _, _, rendered⟩, _, _⟩ :=
    labels_inserted_verbatim seamCatalog .unsupported
  obtain ⟨_, unmarked, _⟩ := labels_inserted_verbatim seamCatalog .unknown
  rw [← unique _ cut_seam] at rendered
  refine ⟨?_, ?_, unmarked (by decide) "CARD"⟩
  · rw [rendered]
    decide
  · rw [rendered]
    decide

end RemovableMedia
