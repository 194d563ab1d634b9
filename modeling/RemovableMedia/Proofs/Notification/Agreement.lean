import RemovableMedia.Proofs.Notification.Lane

/-!
# Orders carried out later come to the same

A call to a center returns before its order is carried out, and the workers of
several queues take turns at one host.  On a screen this makes no difference to
carrying out each call at once: under the heading of a family, what is shown and
what is yet to come of the queue of that family tell together what carrying out
at once has shown already.
-/

namespace RemovableMedia

open Screen

namespace CenterCall

variable {σ : Type} [NotificationHost σ]

/-- Carries out each call to its end before the next. -/
def carryOutAll (contents : Contents) (calls : List CenterCall)
    (desk : Desk σ) : Desk σ :=
  calls.foldl (fun desk call => (Routine.finish (call.order contents) desk).2)
    desk

end CenterCall

namespace Center

/-- What is shown, with the orders in the queues still to come, against a screen
on which all orders are carried out. -/
structure Follows (contents : Contents) (center : Center)
    (screen atOnce : Screen) : Prop where
  content : center.content = contents
  headed : center.Headed
  lanes : ∀ family : Family, AgreeUnder family.heading
    (hostAfter (center.queues.get family).entries screen) atOnce
  elsewhere : ∀ heading, (∀ family : Family, family.heading ≠ heading) →
    AgreeUnder heading screen atOnce

theorem follows_ofConfig (config : HandlerConfig) (screen : Screen) :
    Follows (ofConfig config).content (ofConfig config) screen screen := by
  refine ⟨rfl, headed_ofConfig config, ?_, ?_⟩
  · intro family
    rw [entries_ofConfig]
    exact AgreeUnder.refl family.heading screen
  · intro heading _
    exact AgreeUnder.refl heading screen

section Follows

variable {contents : Contents} {center : Center} {screen atOnce : Screen}

theorem follows_submit (follows : Follows contents center screen atOnce)
    {family : Family} {order : Order}
    (own : headingOf order.id = family.heading) :
    Follows contents (center.submit family order) screen
      (order.carryOut atOnce) := by
  refine ⟨follows.content, headed_submit follows.headed own, ?_, ?_⟩
  · intro other
    have lane := follows.lanes other
    rw [entries_submit]
    split
    · next same =>
        subst other
        rw [hostAfter, List.foldl_append]
        exact Order.carryOut_agree own lane
    · next different =>
        -- Only the screen on which all is carried out moves, elsewhere.
        have apart : headingOf order.id ≠ other.heading := by
          rw [own]
          exact fun same => different (Family.heading_injective same).symm
        exact lane.trans (Order.carryOut_of_ne apart atOnce).symm
  · intro heading foreign
    have apart : headingOf order.id ≠ heading := own ▸ foreign family
    exact (follows.elsewhere heading foreign).trans
      (Order.carryOut_of_ne apart atOnce).symm

theorem follows_of_queue (follows : Follows contents center screen atOnce)
    {family : Family} {queue : Queue Order} {nextScreen : Screen}
    (continues : Queue.Continues family.heading (center.queues.get family)
      queue screen nextScreen) :
    Follows contents
      { center with queues := center.queues.set family queue }
      nextScreen atOnce := by
  refine ⟨follows.content, headed_set follows.headed continues.under, ?_, ?_⟩
  · intro other
    have lane := follows.lanes other
    by_cases same : other = family
    · subst other
      rw [PerFamily.get_set_self, continues.settled]
      exact lane
    · -- The orders of this queue are still to come, on a screen that differs
      -- from the one before under another heading only.
      have apart : family.heading ≠ other.heading :=
        fun equal => same (Family.heading_injective equal).symm
      have kept := continues.apart other.heading apart
      rw [PerFamily.get_set_of_ne _ _ same]
      exact (hostAfter_agree (follows.headed other) kept).trans lane
  · intro heading foreign
    have kept := continues.apart heading (foreign family)
    exact kept.trans (follows.elsewhere heading foreign)

theorem follows_turn {desk : Desk Screen}
    (follows : Follows contents center desk.host atOnce) (family : Family) :
    Follows contents (center.turn family desk).1
      (center.turn family desk).2.host atOnce := by
  have host : (center.turn family desk).2.host =
      ((center.queues.get family).turn desk).2.2.host :=
    Desk.host_elim_record _ _
  rw [host]
  exact follows_of_queue follows
    (Queue.continues_turn (follows.headed family) desk)

theorem follows_flushFamily {desk : Desk Screen}
    (follows : Follows contents center desk.host atOnce) (family : Family) :
    Follows contents (center.flushFamily desk family).1
      (center.flushFamily desk family).2.host atOnce := by
  have host : (center.flushFamily desk family).2.host =
      ((center.queues.get family).flush desk).2.2.host :=
    Desk.host_foldl_record _ _
  rw [host]
  exact follows_of_queue follows
    (Queue.continues_flush (follows.headed family) desk)

theorem follows_flushFamilies (families : List Family) {desk : Desk Screen}
    (follows : Follows contents center desk.host atOnce) :
    Follows contents (center.flushFamilies desk families).1
      (center.flushFamilies desk families).2.host atOnce := by
  induction families generalizing center desk with
  | nil => exact follows
  | cons family families induction =>
      exact induction (follows_flushFamily follows family)

/-- Once the queues are empty there is nothing left to come. -/
theorem agree_of_follows (follows : Follows contents center screen atOnce)
    (empty : ∀ family, (center.queues.get family).entries = []) :
    Agree screen atOnce := by
  apply agree_of_headings
  intro heading
  by_cases own : ∃ family : Family, family.heading = heading
  · obtain ⟨family, rfl⟩ := own
    have lane := follows.lanes family
    rw [empty] at lane
    exact lane
  · exact follows.elsewhere heading (not_exists.mp own)

end Follows

theorem entries_of_isIdle {center : Center} (idle : center.isIdle = true)
    (family : Family) : (center.queues.get family).entries = [] := by
  have queueIdle : (center.queues.get family).isIdle = true :=
    List.all_eq_true.mp idle family family.mem_all
  simp_all [Queue.isIdle, Queue.entries]

end Center

namespace Office

variable {contents : Contents}

theorem follows_step {office : Office Screen} {atOnce : Desk Screen}
    (follows : Center.Follows contents office.center office.desk.host
      atOnce.host) (step : CenterStep) :
    Center.Follows contents (office.step step).center
      (office.step step).desk.host
      (CenterCall.carryOutAll contents step.call?.toList atOnce).host := by
  cases step with
  | call call =>
      have own := call.headingOf_order contents
      have submitted := Center.follows_submit follows own
      rw [← Order.host_finish] at submitted
      change Center.Follows contents (office.center.accept call) _ _
      rw [Center.accept_eq_submit, follows.content]
      exact submitted
  | turn family => exact Center.follows_turn follows family

theorem follows_run {office : Office Screen} {atOnce : Desk Screen}
    (follows : Center.Follows contents office.center office.desk.host
      atOnce.host) (steps : List CenterStep) :
    Center.Follows contents (office.run steps).center
      (office.run steps).desk.host
      (CenterCall.carryOutAll contents (steps.filterMap CenterStep.call?)
        atOnce).host := by
  induction steps generalizing office atOnce with
  | nil => exact follows
  | cons step steps induction =>
      have later := induction (follows_step follows step)
      cases step with
      | call call => exact later
      | turn family => exact later

/-- Whatever calls are made and however the workers of the queues take turns in
between, a flush leaves the screen as it is when each call is carried out as soon
as it is made.  Where the workers are done, no flush is needed. -/
theorem queued_agrees_with_immediate (config : HandlerConfig)
    (screen : Screen) (steps : List CenterStep) :
    let office := (opened config screen).run steps
    let calls := steps.filterMap CenterStep.call?
    let immediate := CenterCall.carryOutAll (Center.ofConfig config).content
      calls { host := screen }
    Agree (office.center.flush office.desk).2.host immediate.host ∧
      (office.center.isIdle = true →
        Agree office.desk.host immediate.host) := by
  intro office calls immediate
  have follows : Center.Follows (Center.ofConfig config).content office.center
      office.desk.host immediate.host :=
    follows_run (Center.follows_ofConfig config screen) steps
  constructor
  · have flushed := Center.follows_flushFamilies Family.all follows
    exact Center.agree_of_follows flushed
      (office.center.entries_flush office.desk)
  · intro idle
    exact Center.agree_of_follows follows (Center.entries_of_isIdle idle)

end Office

end RemovableMedia
