import RemovableMedia.Proofs.Desktop.Exchange

/-!
# When the table keeps up with the daemon

The identities in the table are taken for those that are visible.  The table is
written when a call to create is over, and the watcher takes closed numbers out
of it as it hears of them, in whatever order the two come.  If the watcher hears
of a closing before the closed number is in the table, then the number goes into
the table afterwards and stays there.  If it hears of one only when the daemon
shows the notification again under the same number, then the number is taken out
although it is shown.

These are the only ways to go astray, and what went astray is put right when the
notification is closed or created again.
-/

namespace RemovableMedia

variable {δ : Type}

namespace Exchange

/-- The table has a number for the identity, and will still have it when the
watcher has heard of all closings. -/
def Lists (exchange : Exchange δ) (id : String) : Prop :=
  ∃ number ∈ exchange.table.find? id, number ∉ exchange.closings

/-- The daemon shows the notification that was created last for the identity. -/
def Displays (exchange : Exchange δ) (id : String) : Prop :=
  ∃ number ∈ exchange.latest.find? id, number ∈ exchange.shown

instance (exchange : Exchange δ) (id : String) :
    Decidable (exchange.Displays id) :=
  inferInstanceAs (Decidable (∃ number ∈ exchange.latest.find? id, _))

def Faithful (exchange : Exchange δ) (id : String) : Prop :=
  exchange.Lists id ↔ exchange.Displays id

/-- It is the time for the number to go into the table: either the daemon shows
it and no closing of it is still to be heard of, or it was closed and that is
still to be heard of. -/
def InTime (exchange : Exchange δ) (number : UInt32) : Prop :=
  number ∈ exchange.shown ↔ number ∉ exchange.closings

instance (exchange : Exchange δ) (number : UInt32) :
    Decidable (exchange.InTime number) :=
  inferInstanceAs (Decidable (_ ↔ _))

/-- Whether the table is faithful about the identity after the step, if the step
decides this. -/
def verdict? (exchange : Exchange δ) (id : String) : ExchangeStep → Option Bool
  | .note other =>
      match exchange.calls.find? other with
      | some (.answered number) =>
          if other = id then some (decide (exchange.InTime number)) else none
      | _ => none
  | .close other => if other = id then some true else none
  | .expire number =>
      if exchange.latest.find? id = some number then some true else none
  | _ => none

/-- The last verdict on the identity, or the one before if there is none. -/
def verdict (id : String) : Bool → List ExchangeStep → Exchange δ → Bool
  | before, [], _ => before
  | before, step :: steps, exchange =>
      match exchange.step step with
      | some next =>
          verdict id ((exchange.verdict? id step).getD before) steps next
      | none => before

/-! ## One step -/

section Step

variable {exchange next : Exchange δ} {id : String} {number : UInt32}

theorem mem_shown_dismiss {other : UInt32} :
    other ∈ (exchange.dismiss number).shown ↔
      other ∈ exchange.shown ∧ other ≠ number := by
  simp [dismiss]

theorem mem_closings_dismiss {other : UInt32} :
    other ∈ (exchange.dismiss number).closings ↔
      other ∈ exchange.closings ∨
        other = number ∧ number ∈ exchange.shown := by
  by_cases shown : number ∈ exchange.shown
  · simp [dismiss, shown]
  · simp [dismiss, shown]

/-- Nothing changes about an identity if neither its numbers change nor whether
the latest of them is shown or a closing of it is to be heard of. -/
theorem faithful_congr (sound : exchange.Sound)
    (idle : exchange.calls.find? id = none)
    (table : next.table.find? id = exchange.table.find? id)
    (latest : next.latest.find? id = exchange.latest.find? id)
    (same : ∀ number, exchange.latest.find? id = some number →
      (number ∈ next.shown ↔ number ∈ exchange.shown) ∧
        (number ∈ next.closings ↔ number ∈ exchange.closings)) :
    next.Faithful id ↔ exchange.Faithful id := by
  have lists : next.Lists id ↔ exchange.Lists id := by
    simp only [Lists, table]
    refine exists_congr fun number => and_congr_right fun found => ?_
    have heard := (same number (sound.latest_of_idle idle found)).2
    rw [heard]
  have displays : next.Displays id ↔ exchange.Displays id := by
    simp only [Displays, latest]
    exact exists_congr fun number =>
      and_congr_right fun found => (same number found).1
  rw [Faithful, Faithful, lists, displays]

theorem not_displays_dismiss
    (latest : exchange.latest.find? id = some number) :
    ¬ (exchange.dismiss number).Displays id := by
  rintro ⟨displayed, found, visible⟩
  have same : some displayed = some number := found.symm.trans latest
  exact (mem_shown_dismiss.mp visible).2 (Option.some.inj same)

/-- A number that is closed is neither listed in the end nor displayed. -/
theorem faithful_dismiss (sound : exchange.Sound)
    (idle : exchange.calls.find? id = none)
    (latest : exchange.latest.find? id = some number)
    (shown : number ∈ exchange.shown) :
    (exchange.dismiss number).Faithful id := by
  refine iff_of_false ?_ (not_displays_dismiss latest)
  rintro ⟨listed, found, unheard⟩
  have same := (sound.latest_of_idle idle found).symm.trans latest
  obtain rfl := Option.some.inj same
  exact unheard (mem_closings_dismiss.mpr (.inr ⟨rfl, shown⟩))

/-- What was cleared is neither listed nor displayed. -/
theorem faithful_close (sound : exchange.Sound)
    (taken : exchange.calls.find? id = some (.taken number)) :
    (exchange.close id number).Faithful id := by
  obtain ⟨latest, forgotten⟩ := sound.of_taken taken
  refine iff_of_false ?_ (not_displays_dismiss latest)
  rintro ⟨listed, found, -⟩
  exact Option.some_ne_none listed (found.symm.trans forgotten)

theorem faithful_dismiss_of_ne (sound : exchange.Sound)
    (idle : exchange.calls.find? id = none)
    (other : exchange.latest.find? id ≠ some number) :
    (exchange.dismiss number).Faithful id ↔ exchange.Faithful id := by
  refine faithful_congr sound idle rfl rfl fun latest found => ?_
  have different : latest ≠ number := fun same => other (same ▸ found)
  simp [mem_shown_dismiss, mem_closings_dismiss, different]

theorem faithful_hear (sound : exchange.Sound)
    (told : number ∈ exchange.closings) :
    (exchange.hear number).Faithful id ↔ exchange.Faithful id := by
  -- A number whose closing is to be heard of did not count as listed before.
  have lists : (exchange.hear number).Lists id ↔ exchange.Lists id := by
    simp only [Lists, find?_table_hear _ _ _ sound.attentive,
      Option.mem_def, Option.filter_eq_some_iff, decide_eq_true_eq, and_assoc]
    refine exists_congr fun listed => and_congr_right fun _ => ?_
    constructor
    · rintro ⟨different, unheard⟩ closed
      exact unheard ((List.mem_erase_of_ne different).mpr closed)
    · intro unheard
      have different : listed ≠ number := fun same => unheard (same ▸ told)
      exact ⟨different, fun closed => unheard (List.mem_of_mem_erase closed)⟩
  rw [Faithful, lists]
  rfl

/-- An identity is listed faithfully if its number goes into the table in
time. -/
theorem faithful_note (sound : exchange.Sound)
    (answered : exchange.calls.find? id = some (.answered number)) :
    (exchange.note id number).Faithful id ↔ exchange.InTime number := by
  have latest : (exchange.note id number).latest.find? id = some number :=
    sound.latest_of_answered answered
  have lists : (exchange.note id number).Lists id ↔
      number ∉ exchange.closings := by
    simp only [Lists, find?_table_note, if_true, Option.mem_def,
      Option.some.injEq, exists_eq_left']
    rfl
  have displays : (exchange.note id number).Displays id ↔
      number ∈ exchange.shown := by
    simp only [Displays, latest, Option.mem_def, Option.some.injEq,
      exists_eq_left']
    rfl
  rw [Faithful, lists, displays]
  exact iff_comm

/-! ### Steps of other calls -/

section Others

variable {other : String} (different : other ≠ id)

include different

theorem faithful_answer_of_ne (sound : exchange.Sound)
    (idle : exchange.calls.find? id = none) {notice : Notice}
    (asked : exchange.calls.find? other = some (.asked notice))
    (may : exchange.MayGive notice number) :
    (exchange.answer other number).Faithful id ↔ exchange.Faithful id := by
  refine faithful_congr sound idle rfl
    (exchange.latest.find?_insert_of_ne number (Ne.symm different)) ?_
  intro latest found
  have others := sound.latest_ne asked may different
  have fresh : latest ≠ number := fun same => others (same ▸ found)
  exact ⟨by simp [answer, fresh], .rfl⟩

theorem faithful_note_of_ne (sound : exchange.Sound)
    (idle : exchange.calls.find? id = none) :
    (exchange.note other number).Faithful id ↔ exchange.Faithful id := by
  refine faithful_congr sound idle ?_ rfl fun _ _ => ⟨.rfl, .rfl⟩
  rw [find?_table_note, if_neg different]

theorem faithful_take_of_ne (sound : exchange.Sound)
    (idle : exchange.calls.find? id = none) :
    (exchange.take other number).Faithful id ↔ exchange.Faithful id := by
  refine faithful_congr sound idle ?_ rfl fun _ _ => ⟨.rfl, .rfl⟩
  exact (exchange.find?_table_forget other id).trans (if_neg different)

theorem faithful_close_of_ne (sound : exchange.Sound)
    (idle : exchange.calls.find? id = none)
    (taken : exchange.calls.find? other = some (.taken number)) :
    (exchange.close other number).Faithful id ↔ exchange.Faithful id := by
  apply faithful_dismiss_of_ne sound idle
  intro own
  exact different (sound.own other id number (sound.of_taken taken).1 own)

end Others

theorem faithful_miss (sound : exchange.Sound)
    (idle : exchange.calls.find? id = none) {other : String}
    (missing : exchange.table.find? other = none) :
    (exchange.forget other).Faithful id ↔ exchange.Faithful id := by
  refine faithful_congr sound idle ?_ rfl fun _ _ => ⟨.rfl, .rfl⟩
  rw [find?_table_forget]
  split
  · next same => exact (same ▸ missing).symm
  · rfl

/-- After a step the table is as faithful as the verdict says, or as it was if
there is none. -/
theorem faithful_step (sound : exchange.Sound) {step : ExchangeStep}
    (moves : Moves exchange step next) {before : Bool}
    (earlier : exchange.calls.find? id = none →
      (exchange.Faithful id ↔ before = true))
    (idle : next.calls.find? id = none) :
    next.Faithful id ↔ (exchange.verdict? id step).getD before = true := by
  cases moves with
  | ask content free =>
      obtain ⟨-, idle⟩ := exchange.calls.find?_insert_eq_none_iff.mp idle
      exact earlier idle
  | answer asked may =>
      obtain ⟨different, idle⟩ :=
        exchange.calls.find?_insert_eq_none_iff.mp idle
      exact (faithful_answer_of_ne different sound idle asked may).trans
        (earlier idle)
  | @note other number answered =>
      by_cases same : other = id
      · subst other
        simpa [verdict?, answered] using faithful_note sound answered
      · have idle : exchange.calls.find? id = none :=
          (exchange.calls.find?_erase_of_ne (Ne.symm same)).symm.trans idle
        simpa [verdict?, answered, same] using
          (faithful_note_of_ne same sound idle).trans (earlier idle)
  | miss free missing =>
      exact (faithful_miss sound idle missing).trans (earlier idle)
  | take free found =>
      obtain ⟨different, idle⟩ :=
        exchange.calls.find?_insert_eq_none_iff.mp idle
      exact (faithful_take_of_ne different sound idle).trans (earlier idle)
  | @close other number taken =>
      by_cases same : other = id
      · subst other
        simpa [verdict?] using faithful_close sound taken
      · have idle : exchange.calls.find? id = none :=
          (exchange.calls.find?_erase_of_ne (Ne.symm same)).symm.trans idle
        simpa [verdict?, same] using
          (faithful_close_of_ne same sound idle taken).trans (earlier idle)
  | @expire number shown =>
      by_cases own : exchange.latest.find? id = some number
      · simpa [verdict?, own] using faithful_dismiss sound idle own shown
      · simpa [verdict?, own] using
          (faithful_dismiss_of_ne sound idle own).trans (earlier idle)
  | hear told => exact (faithful_hear sound told).trans (earlier idle)

end Step

/-! ## Whole runs -/

/-- The last verdict of a run holds wherever no call is under way.  Nothing needs
to be known of an identity while a call about it is: each call to create ends with
a verdict, and so does each call to clear that found a number. -/
theorem faithful_run {exchange final : Exchange δ} {id : String} {before : Bool}
    (sound : exchange.Sound)
    (earlier : exchange.calls.find? id = none →
      (exchange.Faithful id ↔ before = true))
    {steps : List ExchangeStep} (ran : exchange.run steps = some final)
    (idle : final.calls.find? id = none) :
    final.Faithful id ↔ verdict id before steps exchange = true := by
  induction steps generalizing exchange before with
  | nil =>
      obtain rfl := Option.some.inj ran
      exact earlier idle
  | cons step steps induction =>
      obtain ⟨next, stepped, ran⟩ := Option.bind_eq_some_iff.mp ran
      have moves := moves_of_step stepped
      simp only [verdict, stepped]
      exact induction (sound.step moves) (faithful_step sound moves earlier) ran

/-- No call is under way, and the watcher has heard of all closings. -/
def Settled (exchange : Exchange δ) : Prop :=
  exchange.calls.keys = [] ∧ exchange.closings = []

instance (exchange : Exchange δ) : Decidable exchange.Settled :=
  inferInstanceAs (Decidable (_ ∧ _))

theorem Settled.lists_iff {exchange : Exchange δ} (settled : exchange.Settled)
    (id : String) : exchange.Lists id ↔ id ∈ exchange.table.keys := by
  rw [Registry.mem_keys_iff, Option.ne_none_iff_exists']
  simp [Lists, settled.2]

theorem Settled.idle {exchange : Exchange δ} (settled : exchange.Settled)
    (id : String) : exchange.calls.find? id = none := by
  by_contra busy
  have member := (exchange.calls.mem_keys_iff id).mpr busy
  rw [settled.1] at member
  exact List.not_mem_nil member

/-- Once every call is over and every closing was heard of, a watched desktop is
right to list an identity, or not to list it, exactly if the last verdict on it
was good: the number of the notification that was created last for it went into
the table in time, or the notification was closed later, or there was none.  The
steps are those of the calls that the host gets: by `run_create` and `run_clear`
they come to the same as a whole call when nothing comes between them. -/
theorem visible_iff_displayed_iff_verdict [NotificationDaemon δ]
    {desktop : Desktop δ} {watched : WatchedDesktop δ}
    (watches : WatchedDesktop.watch desktop true = .ok watched)
    (empty : desktop.table = .empty) {steps : List ExchangeStep}
    {final : Exchange δ} (ran : run { watched } steps = some final)
    (settled : final.Settled) :
    ∃ ids, (NotificationHost.visibleIds final.watched).1 = .done ids ∧
      ∀ id, (id ∈ ids ↔ final.Displays id) ↔
        verdict id true steps { watched } = true := by
  refine ⟨final.table.keys, rfl, fun id => ?_⟩
  have fresh : watched.desktop.table = .empty :=
    (WatchedDesktop.table_watch watches).trans empty
  have start : Faithful { watched } id := by
    simp [Faithful, Lists, Displays, table, fresh]
  rw [← settled.lists_iff id]
  exact faithful_run (.opened watches empty) (fun _ => by simpa using start)
    ran (settled.idle id)

/-- Two notifications are created at the same time.  The second is closed before
its number is in the table, and the first is created once more. -/
def closedInTime (content : NotificationContent) : List ExchangeStep :=
  [.ask "mount:/dev/sdb" content, .ask "mount:/dev/sdc" content,
    .answer "mount:/dev/sdb" 1, .answer "mount:/dev/sdc" 2, .expire 2,
    .note "mount:/dev/sdc", .note "mount:/dev/sdb", .hear 2,
    .ask "mount:/dev/sdb" content, .answer "mount:/dev/sdb" 1,
    .note "mount:/dev/sdb"]

theorem visible_iff_displayed_iff_verdict_closedInTime :
    let watched : WatchedDesktop ScriptedDaemon :=
      { desktop := { appName := "cards", daemon := {} }, forwards := true
        forgets := true, log := [.watching] }
    let steps := closedInTime { title := "", message := "", icon := "" }
    WatchedDesktop.watch watched.desktop true = .ok watched ∧
      ∃ final, run { watched } steps = some final ∧ final.Settled ∧
        ∃ ids, (NotificationHost.visibleIds final.watched).1 = .done ids ∧
          ("mount:/dev/sdb" ∈ ids ↔ final.Displays "mount:/dev/sdb") ∧
          ("mount:/dev/sdc" ∈ ids ↔ final.Displays "mount:/dev/sdc") := by
  intro watched steps
  have watches : WatchedDesktop.watch watched.desktop true = .ok watched := rfl
  refine ⟨watches, ?_⟩
  obtain ⟨final, ran⟩ := Option.isSome_iff_exists.mp
    (show (run { watched } steps).isSome by decide)
  have settled : ∀ final ∈ run { watched } steps, final.Settled := by decide
  obtain ⟨ids, visible, right⟩ :=
    visible_iff_displayed_iff_verdict watches rfl ran (settled final ran)
  refine ⟨final, ran, settled final ran, ids, visible, ?_, ?_⟩
  · exact (right "mount:/dev/sdb").mpr (by decide)
  · exact (right "mount:/dev/sdc").mpr (by decide)

/-- The watcher hears of the closing before the number is in the table. -/
def heardTooEarly (content : NotificationContent) : List ExchangeStep :=
  [.ask "mount:/dev/sdb" content, .answer "mount:/dev/sdb" 1, .expire 1,
    .hear 1, .note "mount:/dev/sdb"]

/-- The watcher hears of the closing when the number is shown again. -/
def heardTooLate (content : NotificationContent) : List ExchangeStep :=
  [.ask "mount:/dev/sdb" content, .answer "mount:/dev/sdb" 1,
    .note "mount:/dev/sdb", .expire 1, .ask "mount:/dev/sdb" content,
    .answer "mount:/dev/sdb" 1, .note "mount:/dev/sdb", .hear 1]

/-- A notification may be listed that is gone, and one may be shown that is not
listed, although all is over and nothing failed. -/
theorem table_goes_stale :
    let watched : WatchedDesktop ScriptedDaemon :=
      { desktop := { appName := "cards", daemon := {} }, forwards := true
        forgets := true, log := [.watching] }
    let content : NotificationContent :=
      { title := "", message := "", icon := "" }
    (∃ final ∈ run { watched } (heardTooEarly content), final.Settled ∧
      (NotificationHost.visibleIds final.watched).1 =
        .done ["mount:/dev/sdb"] ∧
      ¬ final.Displays "mount:/dev/sdb") ∧
    ∃ final ∈ run { watched } (heardTooLate content), final.Settled ∧
      (NotificationHost.visibleIds final.watched).1 = .done [] ∧
      final.Displays "mount:/dev/sdb" := by
  decide

end Exchange

end RemovableMedia
