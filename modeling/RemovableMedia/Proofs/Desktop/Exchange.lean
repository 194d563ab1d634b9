import RemovableMedia.Proofs.Desktop.Run

/-!
# Calls and closings under way

A call to a desktop takes its time.  To create a notification the daemon is
asked to show it, the daemon answers with a number, and the number goes into the
table; to clear one the table forgets its number, and the daemon closes it.
Calls about one identity come one after another, but between the steps of a call
others may go on, the daemon may close what it shows, and the watcher may hear of
earlier closings.

The daemon fails at nothing here.  The number that it gives is one that it never
gave before, or the one that it was asked to replace.
-/

namespace RemovableMedia

variable {δ : Type}

theorem WatchedDesktop.Attentive.withDesktop {watched : WatchedDesktop δ}
    (attentive : watched.Attentive) (desktop : Desktop δ) :
    { watched with desktop }.Attentive :=
  ⟨attentive.forwards, attentive.forgets, attentive.presses⟩

/-- How far a call about an identity has come. -/
inductive DesktopCall where
  /-- The daemon was asked to show this. -/
  | asked (notice : Notice)
  /-- The daemon gave this number, which the table does not have yet. -/
  | answered (number : UInt32)
  /-- The table forgot this number, which the daemon did not close yet. -/
  | taken (number : UInt32)
  deriving DecidableEq, Repr

/-- A watched desktop, the calls to it that are under way, and its daemon. -/
structure Exchange (δ : Type) where
  watched : WatchedDesktop δ
  calls : Registry String DesktopCall := .empty
  /-- The number that the daemon gave last for an identity. -/
  latest : Registry String UInt32 := .empty
  /-- The numbers that the daemon gave so far. -/
  given : List UInt32 := []
  /-- The numbers that the daemon shows. -/
  shown : List UInt32 := []
  /-- The closed numbers that the watcher has yet to hear of. -/
  closings : List UInt32 := []

inductive ExchangeStep where
  /-- Someone wants a notification, and the daemon is asked to show it. -/
  | ask (id : String) (content : NotificationContent)
  /-- The daemon shows what it was asked to show, under this number. -/
  | answer (id : String) (number : UInt32)
  /-- The number of an answer goes into the table. -/
  | note (id : String)
  /-- Someone wants to be rid of a notification, and the table forgets it. -/
  | take (id : String)
  /-- The daemon closes what the table forgot. -/
  | close (id : String)
  /-- The daemon closes a number of its own accord. -/
  | expire (number : UInt32)
  /-- The watcher hears that a number was closed. -/
  | hear (number : UInt32)
  deriving DecidableEq, Repr

namespace Exchange

/-! ## Steps -/

def table (exchange : Exchange δ) : Registry String UInt32 :=
  exchange.watched.desktop.table

def ask (exchange : Exchange δ) (id : String)
    (content : NotificationContent) : Exchange δ :=
  let notice := exchange.watched.desktop.notice id content
  { exchange with calls := exchange.calls.insert id (.asked notice) }

/-- The daemon may give this number to who asked for the notice. -/
def MayGive (exchange : Exchange δ) (notice : Notice) (number : UInt32) :
    Prop :=
  notice.replacesId ≠ 0 ∧ number = notice.replacesId ∨
    number ∉ exchange.given

instance (exchange : Exchange δ) (notice : Notice) (number : UInt32) :
    Decidable (exchange.MayGive notice number) :=
  inferInstanceAs (Decidable (_ ∨ _))

def answer (exchange : Exchange δ) (id : String) (number : UInt32) :
    Exchange δ :=
  { exchange with
    calls := exchange.calls.insert id (.answered number)
    latest := exchange.latest.insert id number
    given := number :: exchange.given
    shown := number :: exchange.shown }

def note (exchange : Exchange δ) (id : String) (number : UInt32) : Exchange δ :=
  { exchange with
    watched := (exchange.watched.call (Desktop.noteAnswer id (.ok number))).2
    calls := exchange.calls.erase id }

def forget (exchange : Exchange δ) (id : String) : Exchange δ :=
  let desktop := (exchange.watched.desktop.takeNumber id).2
  { exchange with watched := { exchange.watched with desktop } }

/-- The table forgets an identity, and the daemon is to close the number. -/
def take (exchange : Exchange δ) (id : String) (number : UInt32) : Exchange δ :=
  { exchange.forget id with
    calls := exchange.calls.insert id (.taken number) }

/-- The daemon shows a number no more, and tells so if it did. -/
def dismiss (exchange : Exchange δ) (number : UInt32) : Exchange δ :=
  { exchange with
    shown := exchange.shown.filter (· ≠ number)
    closings :=
      if number ∈ exchange.shown then exchange.closings ++ [number]
      else exchange.closings }

def close (exchange : Exchange δ) (id : String) (number : UInt32) : Exchange δ :=
  { exchange.dismiss number with calls := exchange.calls.erase id }

def hear (exchange : Exchange δ) (number : UInt32) : Exchange δ :=
  { exchange with
    watched := exchange.watched.receive (.notificationClosed number)
    closings := exchange.closings.erase number }

/-- What comes of a step, if it is one that can be taken. -/
def step (exchange : Exchange δ) : ExchangeStep → Option (Exchange δ)
  | .ask id content =>
      match exchange.calls.find? id with
      | none => some (exchange.ask id content)
      | some _ => none
  | .answer id number =>
      match exchange.calls.find? id with
      | some (.asked notice) =>
          if exchange.MayGive notice number then
            some (exchange.answer id number)
          else none
      | _ => none
  | .note id =>
      match exchange.calls.find? id with
      | some (.answered number) => some (exchange.note id number)
      | _ => none
  | .take id =>
      match exchange.calls.find? id, exchange.table.find? id with
      | none, none => some (exchange.forget id)
      | none, some number => some (exchange.take id number)
      | some _, _ => none
  | .close id =>
      match exchange.calls.find? id with
      | some (.taken number) => some (exchange.close id number)
      | _ => none
  | .expire number =>
      if number ∈ exchange.shown then some (exchange.dismiss number) else none
  | .hear number =>
      if number ∈ exchange.closings then some (exchange.hear number) else none

def run (exchange : Exchange δ) : List ExchangeStep → Option (Exchange δ)
  | [] => some exchange
  | step :: steps => (exchange.step step).bind fun next => next.run steps

/-- What the steps come to. -/
inductive Moves (exchange : Exchange δ) : ExchangeStep → Exchange δ → Prop where
  | ask {id : String} (content : NotificationContent) :
      exchange.calls.find? id = none →
      Moves exchange (.ask id content) (exchange.ask id content)
  | answer {id : String} {notice : Notice} {number : UInt32} :
      exchange.calls.find? id = some (.asked notice) →
      exchange.MayGive notice number →
      Moves exchange (.answer id number) (exchange.answer id number)
  | note {id : String} {number : UInt32} :
      exchange.calls.find? id = some (.answered number) →
      Moves exchange (.note id) (exchange.note id number)
  | miss {id : String} : exchange.calls.find? id = none →
      exchange.table.find? id = none →
      Moves exchange (.take id) (exchange.forget id)
  | take {id : String} {number : UInt32} :
      exchange.calls.find? id = none →
      exchange.table.find? id = some number →
      Moves exchange (.take id) (exchange.take id number)
  | close {id : String} {number : UInt32} :
      exchange.calls.find? id = some (.taken number) →
      Moves exchange (.close id) (exchange.close id number)
  | expire {number : UInt32} : number ∈ exchange.shown →
      Moves exchange (.expire number) (exchange.dismiss number)
  | hear {number : UInt32} : number ∈ exchange.closings →
      Moves exchange (.hear number) (exchange.hear number)

theorem moves_of_step {exchange next : Exchange δ} {step : ExchangeStep}
    (stepped : exchange.step step = some next) :
    Moves exchange step next := by
  cases step with
  | ask id content =>
      simp only [Exchange.step] at stepped
      split at stepped
      · next idle =>
          obtain rfl := Option.some.inj stepped
          exact .ask content idle
      · contradiction
  | answer id number =>
      simp only [Exchange.step] at stepped
      split at stepped
      · next notice asked =>
          obtain ⟨may, stepped⟩ := Option.ite_none_right_eq_some.mp stepped
          obtain rfl := Option.some.inj stepped
          exact .answer asked may
      · contradiction
  | note id =>
      simp only [Exchange.step] at stepped
      split at stepped
      · next number answered =>
          obtain rfl := Option.some.inj stepped
          exact .note answered
      · contradiction
  | take id =>
      simp only [Exchange.step] at stepped
      split at stepped
      · next idle missing =>
          obtain rfl := Option.some.inj stepped
          exact .miss idle missing
      · next number idle found =>
          obtain rfl := Option.some.inj stepped
          exact .take idle found
      · contradiction
  | close id =>
      simp only [Exchange.step] at stepped
      split at stepped
      · next number taken =>
          obtain rfl := Option.some.inj stepped
          exact .close taken
      · contradiction
  | expire number =>
      obtain ⟨shown, stepped⟩ := Option.ite_none_right_eq_some.mp stepped
      obtain rfl := Option.some.inj stepped
      exact .expire shown
  | hear number =>
      obtain ⟨told, stepped⟩ := Option.ite_none_right_eq_some.mp stepped
      obtain rfl := Option.some.inj stepped
      exact .hear told

/-! ## The table after a step -/

section Table

variable (exchange : Exchange δ) (id other : String) (number : UInt32)

theorem find?_table_note :
    (exchange.note id number).table.find? other =
      if id = other then some number else exchange.table.find? other :=
  exchange.table.find?_insert id other number

theorem find?_table_forget :
    (exchange.forget id).table.find? other =
      if id = other then none else exchange.table.find? other :=
  exchange.table.find?_erase id other

theorem find?_table_hear (attentive : exchange.watched.Attentive) :
    (exchange.hear number).table.find? other =
      (exchange.table.find? other).filter (· ≠ number) := by
  rw [hear, table, WatchedDesktop.receive_notificationClosed attentive]
  exact exchange.table.find?_filterValues _ other

end Table

/-! ## Calls nothing comes between -/

/-- If nothing comes between its steps, a call to create does what it does in
one go. -/
theorem run_create [NotificationDaemon δ] {exchange : Exchange δ}
    {id : String} {content : NotificationContent} {number : UInt32}
    (idle : exchange.calls.find? id = none)
    (answered : (NotificationDaemon.notify
      (exchange.watched.desktop.notice id content)
      exchange.watched.desktop.daemon).1 = .ok number)
    (may : exchange.MayGive (exchange.watched.desktop.notice id content)
      number) :
    ∃ next, exchange.run [.ask id content, .answer id number, .note id] =
        some next ∧
      next.calls.find? id = none ∧
      next.table = (NotificationHost.create id content
        exchange.watched).2.desktop.table := by
  have may : (exchange.ask id content).MayGive
      (exchange.watched.desktop.notice id content) number := may
  have asked : (exchange.ask id content).calls.find? id =
      some (.asked (exchange.watched.desktop.notice id content)) :=
    exchange.calls.find?_insert_self id _
  have given : ((exchange.ask id content).answer id number).calls.find? id =
      some (.answered number) :=
    (exchange.ask id content).calls.find?_insert_self id _
  refine ⟨((exchange.ask id content).answer id number).note id number, ?_,
    Registry.find?_erase_self _ id, ?_⟩
  · simp [run, step, idle, asked, may, given]
  · simp [NotificationHost.create, WatchedDesktop.call, Desktop.create,
      Desktop.sendNotice, answered, Desktop.noteAnswer, table, note, answer,
      ask]

/-- If nothing comes between its steps, a call to clear leaves the table as it
does in one go, and the daemon shows the number no more. -/
theorem run_clear [NotificationDaemon δ] {exchange : Exchange δ}
    {id : String} {number : UInt32}
    (idle : exchange.calls.find? id = none)
    (found : exchange.table.find? id = some number) :
    ∃ next, exchange.run [.take id, .close id] = some next ∧
      next.calls.find? id = none ∧ number ∉ next.shown ∧
      next.table =
        (NotificationHost.clear id exchange.watched).2.desktop.table := by
  have taken : (exchange.take id number).calls.find? id =
      some (.taken number) :=
    exchange.calls.find?_insert_self id _
  refine ⟨(exchange.take id number).close id number, ?_,
    Registry.find?_erase_self _ id, ?_, ?_⟩
  · simp [run, step, idle, found, taken]
  · simp [close, dismiss]
  · have listed : exchange.watched.desktop.table.find? id = some number :=
      found
    simp [NotificationHost.clear, WatchedDesktop.call, Desktop.clear,
      Desktop.takeNumber, listed, Desktop.closeNumber, table, close, dismiss,
      take, forget]

/-! ## Soundness -/

/-- What a call, or that there is none, says about the number that the daemon
gave last for the identity and the one that the table has for it. -/
def Fits (latest listed : Option UInt32) : Option DesktopCall → Prop
  | none => ∀ number, listed = some number → latest = some number
  | some (.asked notice) =>
      notice.replacesId ≠ 0 → latest = some notice.replacesId
  | some (.answered number) => latest = some number
  | some (.taken number) => latest = some number ∧ listed = none

/-- The watchers are at work, each number was given for one identity only, and
where no call is under way the table has no number but the latest. -/
structure Sound (exchange : Exchange δ) : Prop where
  attentive : exchange.watched.Attentive
  given : ∀ id number, exchange.latest.find? id = some number →
    number ∈ exchange.given
  own : ∀ id other number, exchange.latest.find? id = some number →
    exchange.latest.find? other = some number → id = other
  fits : ∀ id, Fits (exchange.latest.find? id) (exchange.table.find? id)
    (exchange.calls.find? id)

/-- What the table forgets fits as well as what it had. -/
theorem Fits.filter {latest listed : Option UInt32}
    {call : Option DesktopCall} (fits : Fits latest listed call)
    (keep : UInt32 → Bool) : Fits latest (listed.filter keep) call := by
  rcases call with _ | notice | number | number
  · intro number kept
    exact fits number (Option.filter_eq_some_iff.mp kept).1
  · exact fits
  · exact fits
  · exact ⟨fits.1, by simp [fits.2]⟩

namespace Sound

variable {exchange next : Exchange δ} {id : String} {number : UInt32}

theorem opened {desktop : Desktop δ} {watched : WatchedDesktop δ}
    (watches : WatchedDesktop.watch desktop true = .ok watched)
    (empty : desktop.table = .empty) : Sound { watched } where
  attentive := WatchedDesktop.attentive_watch watches
  given := by simp
  own := by simp
  fits id := by
    have fresh : watched.desktop.table = .empty :=
      (WatchedDesktop.table_watch watches).trans empty
    simp [Fits, table, fresh]

/-- Where no call is under way, the number in the table is the latest. -/
theorem latest_of_idle (sound : exchange.Sound)
    (idle : exchange.calls.find? id = none)
    (found : exchange.table.find? id = some number) :
    exchange.latest.find? id = some number := by
  have fits := sound.fits id
  rw [idle] at fits
  exact fits number found

theorem latest_of_answered (sound : exchange.Sound)
    (answered : exchange.calls.find? id = some (.answered number)) :
    exchange.latest.find? id = some number := by
  have fits := sound.fits id
  rw [answered] at fits
  exact fits

theorem of_taken (sound : exchange.Sound)
    (taken : exchange.calls.find? id = some (.taken number)) :
    exchange.latest.find? id = some number ∧
      exchange.table.find? id = none := by
  have fits := sound.fits id
  rw [taken] at fits
  exact fits

/-- The daemon gives nobody the latest number of another identity. -/
theorem latest_ne (sound : exchange.Sound) {notice : Notice}
    (asked : exchange.calls.find? id = some (.asked notice))
    (may : exchange.MayGive notice number) {other : String}
    (different : id ≠ other) :
    exchange.latest.find? other ≠ some number := by
  intro others
  rcases may with ⟨replaces, rfl⟩ | fresh
  · have fits := sound.fits id
    rw [asked] at fits
    exact different (sound.own id other _ (fits replaces) others)
  · exact fresh (sound.given other number others)

/-- Where the daemon gives no number and other identities are left alone, one
identity has to fit. -/
theorem of_own (sound : exchange.Sound) (id : String)
    (attentive : next.watched.Attentive)
    (latest : next.latest = exchange.latest)
    (given : next.given = exchange.given)
    (others : ∀ other, other ≠ id →
      next.table.find? other = exchange.table.find? other ∧
        next.calls.find? other = exchange.calls.find? other)
    (own : Fits (exchange.latest.find? id) (next.table.find? id)
      (next.calls.find? id)) : next.Sound := by
  refine ⟨attentive, ?_, ?_, fun other => ?_⟩
  · rw [latest, given]
    exact sound.given
  · rw [latest]
    exact sound.own
  · rw [latest]
    by_cases same : other = id
    · exact same ▸ own
    · obtain ⟨table, calls⟩ := others other same
      rw [table, calls]
      exact sound.fits other

theorem ask (sound : exchange.Sound) (content : NotificationContent)
    (idle : exchange.calls.find? id = none) :
    (exchange.ask id content).Sound := by
  refine sound.of_own id sound.attentive rfl rfl ?_ ?_
  · intro other different
    exact ⟨rfl, exchange.calls.find?_insert_of_ne _ different⟩
  · rw [Exchange.ask, Registry.find?_insert_self]
    intro replaces
    -- A number to replace can only come from the table.
    cases found : exchange.watched.desktop.table.find? id with
    | none => simp [Desktop.notice, found] at replaces
    | some number =>
        simpa [Desktop.notice, found] using sound.latest_of_idle idle found

theorem answer (sound : exchange.Sound) {notice : Notice}
    (asked : exchange.calls.find? id = some (.asked notice))
    (may : exchange.MayGive notice number) :
    (exchange.answer id number).Sound := by
  refine ⟨sound.attentive, ?_, ?_, fun other => ?_⟩
  · intro other latest found
    simp only [Exchange.answer, Registry.find?_insert] at found
    split at found
    · obtain rfl := Option.some.inj found
      exact List.mem_cons_self
    · exact List.mem_cons_of_mem _ (sound.given other latest found)
  · intro one other latest oneFound otherFound
    simp only [Exchange.answer, Registry.find?_insert] at oneFound otherFound
    split at oneFound <;> split at otherFound
    · next sameOne sameOther => exact sameOne.symm.trans sameOther
    · next _ different =>
        obtain rfl := Option.some.inj oneFound
        exact absurd otherFound (sound.latest_ne asked may different)
    · next different _ =>
        obtain rfl := Option.some.inj otherFound
        exact absurd oneFound (sound.latest_ne asked may different)
    · exact sound.own one other latest oneFound otherFound
  · simp only [Exchange.answer, Registry.find?_insert]
    split
    · rfl
    · exact sound.fits other

theorem note (sound : exchange.Sound)
    (answered : exchange.calls.find? id = some (.answered number)) :
    (exchange.note id number).Sound := by
  refine sound.of_own id (sound.attentive.withDesktop _) rfl rfl ?_ ?_
  · intro other different
    exact ⟨exchange.table.find?_insert_of_ne number different,
      exchange.calls.find?_erase_of_ne different⟩
  · rw [find?_table_note, if_pos rfl, Exchange.note,
      Registry.find?_erase_self]
    intro listed found
    exact (sound.latest_of_answered answered).trans found

theorem forget (sound : exchange.Sound)
    (idle : exchange.calls.find? id = none) : (exchange.forget id).Sound := by
  refine sound.of_own id (sound.attentive.withDesktop _) rfl rfl ?_ ?_
  · intro other different
    exact ⟨exchange.table.find?_erase_of_ne different, rfl⟩
  · rw [find?_table_forget, if_pos rfl, Exchange.forget, idle]
    exact nofun

theorem take (sound : exchange.Sound)
    (idle : exchange.calls.find? id = none)
    (found : exchange.table.find? id = some number) :
    (exchange.take id number).Sound := by
  refine sound.of_own id (sound.attentive.withDesktop _) rfl rfl ?_ ?_
  · intro other different
    exact ⟨exchange.table.find?_erase_of_ne different,
      exchange.calls.find?_insert_of_ne _ different⟩
  · rw [Exchange.take, Registry.find?_insert_self]
    exact ⟨sound.latest_of_idle idle found,
      exchange.table.find?_erase_self id⟩

theorem dismiss (sound : exchange.Sound) (number : UInt32) :
    (exchange.dismiss number).Sound :=
  ⟨sound.attentive, sound.given, sound.own, sound.fits⟩

theorem close (sound : exchange.Sound)
    (taken : exchange.calls.find? id = some (.taken number)) :
    (exchange.close id number).Sound := by
  refine sound.of_own id sound.attentive rfl rfl ?_ ?_
  · intro other different
    exact ⟨rfl, exchange.calls.find?_erase_of_ne different⟩
  · have forgotten : (exchange.close id number).table.find? id = none :=
      (sound.of_taken taken).2
    rw [forgotten, Exchange.close, Registry.find?_erase_self]
    exact nofun

theorem hear (sound : exchange.Sound) (number : UInt32) :
    (exchange.hear number).Sound := by
  refine ⟨?_, sound.given, sound.own, fun id => ?_⟩
  · rw [Exchange.hear,
      WatchedDesktop.receive_notificationClosed sound.attentive]
    exact sound.attentive.withDesktop _
  · rw [find?_table_hear _ _ _ sound.attentive]
    exact (sound.fits id).filter _

theorem step (sound : exchange.Sound) {step : ExchangeStep}
    (moves : Moves exchange step next) : next.Sound := by
  cases moves with
  | ask content idle => exact sound.ask content idle
  | answer asked may => exact sound.answer asked may
  | note answered => exact sound.note answered
  | miss idle missing => exact sound.forget idle
  | take idle found => exact sound.take idle found
  | close taken => exact sound.close taken
  | expire shown => exact sound.dismiss _
  | hear told => exact sound.hear _

end Sound

end Exchange

end RemovableMedia
