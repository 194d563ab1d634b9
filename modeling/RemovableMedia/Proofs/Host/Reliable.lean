import RemovableMedia.Host.Screen
import RemovableMedia.Proofs.Registry

/-!
# Reliable hosts

A host that works carries out every call: what is created is visible under its
identity from then on, what is cleared is not, and nothing else changes.  A
screen works as long as it is told of no faults.
-/

namespace RemovableMedia

/-- A host of which one knows what is visible, and when its calls do not
fail. -/
class ReliableHost (σ : Type) [NotificationHost σ] where
  /-- What is visible under the text of an identity. -/
  shown : σ → String → Option NotificationContent
  Works : σ → Prop
  create_done : ∀ {host : σ}, Works host → ∀ id content,
    (NotificationHost.create id content host).1 = .done ()
  works_create : ∀ {host : σ}, Works host → ∀ id content,
    Works (NotificationHost.create id content host).2
  shown_create : ∀ {host : σ}, Works host → ∀ id content other,
    shown (NotificationHost.create id content host).2 other =
      if id = other then some content else shown host other
  clear_done : ∀ {host : σ}, Works host → ∀ id,
    (NotificationHost.clear id host).1 = .done (shown host id).isSome
  works_clear : ∀ {host : σ}, Works host → ∀ id,
    Works (NotificationHost.clear id host).2
  shown_clear : ∀ {host : σ}, Works host → ∀ id other,
    shown (NotificationHost.clear id host).2 other =
      if id = other then none else shown host other
  visibleIds_done : ∀ {host : σ}, Works host → ∃ visible,
    (NotificationHost.visibleIds host).1 = .done visible ∧
      ∀ id, id ∈ visible ↔ shown host id ≠ none
  works_visibleIds : ∀ {host : σ}, Works host →
    Works (NotificationHost.visibleIds host).2
  shown_visibleIds : ∀ {host : σ}, Works host →
    shown (NotificationHost.visibleIds host).2 = shown host

namespace Screen

theorem create_of_faultless {screen : Screen} (faultless : screen.faults = {})
    (id : String) (content : NotificationContent) :
    screen.create id content =
      (.done (), { screen with
        shown := screen.shown.insert id content
        calls := screen.calls ++ [.create id content] }) := by
  simp [create, faultless]

theorem clear_of_faultless {screen : Screen} (faultless : screen.faults = {})
    (id : String) :
    screen.clear id =
      (.done (screen.shown.contains id), { screen with
        shown := screen.shown.erase id
        calls := screen.calls ++ [.clear id] }) := by
  simp [clear, faultless]

theorem visibleIds_of_faultless {screen : Screen}
    (faultless : screen.faults = {}) :
    screen.visibleIds =
      (.done screen.shown.keys,
        { screen with visibleQueries := screen.visibleQueries + 1 }) := by
  simp [visibleIds, faultless]

instance : ReliableHost Screen where
  shown screen id := screen.shown.find? id
  Works screen := screen.faults = {}
  create_done faultless id content := by
    change (create id content _).1 = _
    rw [create_of_faultless faultless]
  works_create faultless id content := by
    change (create id content _).2.faults = _
    rw [create_of_faultless faultless]
    exact faultless
  shown_create faultless id content other := by
    change (create id content _).2.shown.find? other = _
    rw [create_of_faultless faultless, Registry.find?_insert]
  clear_done faultless id := by
    change (clear id _).1 = _
    rw [clear_of_faultless faultless]
    rfl
  works_clear faultless id := by
    change (clear id _).2.faults = _
    rw [clear_of_faultless faultless]
    exact faultless
  shown_clear faultless id other := by
    change (clear id _).2.shown.find? other = _
    rw [clear_of_faultless faultless, Registry.find?_erase]
  visibleIds_done {screen} faultless := by
    refine ⟨screen.shown.keys, ?_, Registry.mem_keys_iff _⟩
    change (visibleIds screen).1 = _
    rw [visibleIds_of_faultless faultless]
  works_visibleIds {screen} faultless := by
    change (visibleIds screen).2.faults = _
    rw [visibleIds_of_faultless faultless]
    exact faultless
  shown_visibleIds {screen} faultless := by
    change (fun id => (visibleIds screen).2.shown.find? id) = _
    rw [visibleIds_of_faultless faultless]

end Screen

end RemovableMedia
