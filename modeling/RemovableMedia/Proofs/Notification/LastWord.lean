import RemovableMedia.Proofs.Notification.Prompt

/-!
# The last word about a notification

A host gets the content that a notification is shown with, whatever the host
makes of it: once the orders are carried out, the last call about the identity
is the one that was ordered last.
-/

namespace RemovableMedia

open HostCall RecordingHost

/-! ## What stays as it is -/

section Unchanged

variable {σ : Type} [NotificationHost σ]

theorem Center.headed_turns {center : Center} (headed : center.Headed)
    (desk : Desk σ) (families : List Family) :
    (center.turns desk families).1.Headed := by
  induction families generalizing center desk with
  | nil => exact headed
  | cons family families induction =>
      exact induction (headed_turn headed family desk) _

namespace Office

theorem headed_step {office : Office σ} (headed : office.center.Headed)
    (step : CenterStep) : (office.step step).center.Headed := by
  cases step with
  | call call =>
      change (office.center.accept call).Headed
      rw [Center.accept_eq_submit]
      exact Center.headed_submit headed (call.headingOf_order _)
  | turn family => exact Center.headed_turn headed family office.desk

/-- The queues of an office hold orders of their own families, and contents are
those of its configuration. -/
theorem headed_run (config : HandlerConfig) (host : σ)
    (steps : List CenterStep) :
    ((opened config host).run steps).center.Headed ∧
      ((opened config host).run steps).center.content =
        (Center.ofConfig config).content := by
  induction steps using List.reverseRecOn with
  | nil => exact ⟨Center.headed_ofConfig config, rfl⟩
  | append_singleton steps step induction =>
      rw [run_concat]
      exact ⟨headed_step induction.1 step,
        (content_step _ step).trans induction.2⟩

theorem run_append (office : Office σ) (first second : List CenterStep) :
    office.run (first ++ second) = (office.run first).run second :=
  List.foldl_append

theorem run_turns (office : Office σ) (families : List Family) :
    (office.run (families.map .turn)).center =
        (office.center.turns office.desk families).1 ∧
      (office.run (families.map .turn)).desk =
        (office.center.turns office.desk families).2 := by
  induction families generalizing office with
  | nil => exact ⟨rfl, rfl⟩
  | cons family families induction =>
      exact induction (office.step (.turn family))

end Office

end Unchanged

/-! ## The last call -/

variable {σ : Type} [NotificationHost σ] [RecordingHost σ]

/-- The order to create the notification is the last entry, or there are no
entries left and its call was the last one about the identity. -/
def LastWord (id : String) (content : NotificationContent)
    (entries : List (Entry Order)) (host : σ) : Prop :=
  (∃ earlier, entries = earlier ++ [.job (.create id content)]) ∨
    entries = [] ∧ lastAbout? id (calls host) = some (.create id content)

namespace Queue

/-- A turn makes calls under the heading of the queue alone. -/
theorem exists_calls_turn {heading : String} {queue : Queue Order}
    (under : Under heading queue.entries) (desk : Desk σ) :
    ∃ made, calls (queue.turn desk).2.2.host = calls desk.host ++ made ∧
      ∀ call ∈ made, headingOf call.id = heading := by
  rcases entries : queue.entries with _ | ⟨order | waiter, behind⟩
  · rw [turn_of_nil entries]
    exact ⟨[], (List.append_nil _).symm, by simp⟩
  · refine ⟨order.call?.toList, ?_, ?_⟩
    · rw [(turn_of_order entries desk).2, order.calls_afterCall]
    · intro call member
      rw [Order.id_of_call (Option.mem_toList.mp member)]
      exact under order (by simp [entries])
  · rw [turn_of_mark entries]
    exact ⟨[], (List.append_nil _).symm, by simp⟩

theorem lastWord_turn {id : String} {content : NotificationContent}
    {queue : Queue Order} {desk : Desk σ}
    (last : LastWord id content queue.entries desk.host) :
    LastWord id content (queue.turn desk).2.1.entries
      (queue.turn desk).2.2.host := by
  -- A turn takes its entry from the front, so the last entry stays where it is
  -- until it is the only one.
  rcases last with ⟨earlier, ending⟩ | ⟨empty, said⟩
  · rcases earlier with _ | ⟨order | waiter, earlier⟩
    · obtain ⟨next, host⟩ := turn_of_order ending desk
      rw [next, host]
      refine .inr ⟨rfl, ?_⟩
      rw [Order.calls_afterCall]
      exact (lastAbout?_concat id _ _).trans (if_pos rfl)
    · rw [turn_of_job ending]
      exact .inl ⟨_ ++ earlier, (List.append_assoc _ _ _).symm⟩
    · rw [turn_of_mark ending]
      exact .inl ⟨earlier, rfl⟩
  · rw [turn_of_nil empty]
    exact .inr ⟨empty, said⟩

end Queue

theorem LastWord.of_elsewhere {id : String} {content : NotificationContent}
    {entries : List (Entry Order)} {host next : σ} {made : List HostCall}
    (last : LastWord id content entries host)
    (called : calls next = calls host ++ made)
    (elsewhere : ∀ call ∈ made, call.id ≠ id) :
    LastWord id content entries next := by
  refine last.imp_right fun ⟨empty, said⟩ => ⟨empty, ?_⟩
  rw [called, lastAbout?_append, lastAbout?, about_of_none elsewhere]
  exact said

namespace Center

variable {center : Center} {desk : Desk σ} {id : String}
  {content : NotificationContent} {family : Family}

theorem lastWord_turn (headed : center.Headed)
    (own : headingOf id = family.heading)
    (last : LastWord id content (center.queues.get family).entries desk.host)
    (other : Family) :
    LastWord id content
      ((center.turn other desk).1.queues.get family).entries
      (center.turn other desk).2.host := by
  rw [center_turn, host_turn]
  by_cases same : family = other
  · subst other
    rw [get_withQueue_self]
    exact Queue.lastWord_turn last
  · obtain ⟨made, called, headings⟩ :=
      Queue.exists_calls_turn (headed other) desk
    rw [get_withQueue_of_ne _ _ same]
    apply last.of_elsewhere called
    rintro call member rfl
    rw [headings call member] at own
    exact same (Family.heading_injective own).symm

theorem lastWord_turns (headed : center.Headed)
    (own : headingOf id = family.heading)
    (last : LastWord id content (center.queues.get family).entries desk.host)
    (families : List Family) :
    LastWord id content
      ((center.turns desk families).1.queues.get family).entries
      (center.turns desk families).2.host := by
  induction families generalizing center desk with
  | nil => exact last
  | cons other families induction =>
      exact induction (headed_turn headed other desk)
        (lastWord_turn headed own last other)

theorem lastAbout?_flush (headed : center.Headed)
    (own : headingOf id = family.heading)
    (last : LastWord id content (center.queues.get family).entries desk.host) :
    lastAbout? id (calls (center.flush desk).2.host) =
      some (.create id content) := by
  -- The flush leaves no entries, so of the two cases only the call is left.
  obtain ⟨families, sameCenter, sameHost⟩ := center.exists_turns_flush desk
  have ended := lastWord_turns headed own last families
  rw [sameCenter, sameHost, entries_flush] at ended
  rcases ended with ⟨earlier, ending⟩ | ⟨_, said⟩
  · exact absurd ending (by simp)
  · exact said

end Center

namespace Office

/-- Whatever was asked before, a notification that is shown is the last that the
host hears about it, with the content that it was shown with.  Workers may have
turns before the flush. -/
theorem lastAbout?_show (config : HandlerConfig) (host : σ)
    (steps : List CenterStep) (kind : NotificationKind) (path : String)
    (message : Option String) (turned : List Family) :
    let office := (opened config host).run
      (steps ++ .call (.show kind path message) :: turned.map .turn)
    lastAbout? (kind.idFor path).text
        (calls (office.center.flush office.desk).2.host) =
      some (.create (kind.idFor path).text
        ((Center.ofConfig config).content kind message)) := by
  let before := (opened config host).run steps
  let asked := before.step (.call (.show kind path message))
  obtain ⟨headed, contents⟩ := headed_run config host steps
  have own : headingOf (kind.idFor path).text = kind.family.heading :=
    headingOf_identity kind.family path
  have last : LastWord (kind.idFor path).text
      (before.center.content kind message)
      (asked.center.queues.get kind.family).entries asked.desk.host := by
    refine .inl ⟨(before.center.queues.get kind.family).entries, ?_⟩
    exact (before.center.entries_submit kind.family kind.family _).trans
      (if_pos rfl)
  have askedHeaded : asked.center.Headed := headed_step headed _
  have ended := Center.lastWord_turns askedHeaded own last turned
  have turnedHeaded := Center.headed_turns askedHeaded asked.desk turned
  intro office
  have same : office = asked.run (turned.map .turn) := run_append _ _ _
  have turns := asked.run_turns turned
  rw [same, turns.1, turns.2, ← contents]
  exact Center.lastAbout?_flush turnedHeaded own ended

end Office

end RemovableMedia
