import Mathlib.Logic.Basic

/-!
Owns the accounting of resources that are held by owners: what is live is owned,
by one owner only, and what is owned is live. The rules follow what can happen
to the books: a resource is acquired, one is released, or an owner keeps what it
has. It names no particular resource.
-/

namespace MediasoupClientSwift.Library

variable {Owner Resource : Type*}

/-- The live resources are exactly the owned ones, and no two owners share one. -/
structure Accounted (Live : Resource → Prop) (Owns : Owner → Resource → Prop) : Prop where
  live_iff : ∀ resource, Live resource ↔ ∃ owner, Owns owner resource
  unshared : ∀ {first second resource}, Owns first resource → Owns second resource →
    first = second

namespace Accounted

variable {Live Live' : Resource → Prop} {Owns Owns' : Owner → Resource → Prop}

theorem live (accounted : Accounted Live Owns) {owner : Owner} {resource : Resource}
    (owns : Owns owner resource) : Live resource :=
  (accounted.live_iff resource).mpr ⟨owner, owns⟩

/-- Books that say the same are in order together. -/
theorem congr (accounted : Accounted Live Owns) (sameLive : ∀ resource, Live' resource ↔ Live resource)
    (sameOwns : ∀ owner resource, Owns' owner resource ↔ Owns owner resource) :
    Accounted Live' Owns' := by
  constructor
  case live_iff =>
    intro resource
    rw [sameLive, accounted.live_iff]
    exact exists_congr fun owner => (sameOwns owner resource).symm
  case unshared =>
    intro first second resource firstOwns secondOwns
    exact accounted.unshared ((sameOwns first resource).mp firstOwns)
      ((sameOwns second resource).mp secondOwns)

/-- An owner acquires a resource that nobody owned. -/
theorem acquire (accounted : Accounted Live Owns) (holder : Owner) {acquired : Resource}
    (new : ¬ Live acquired)
    (lives : ∀ resource, Live' resource ↔ Live resource ∨ resource = acquired)
    (owned : ∀ owner resource, Owns' owner resource ↔
      Owns owner resource ∨ owner = holder ∧ resource = acquired) :
    Accounted Live' Owns' := by
  constructor
  case live_iff =>
    intro resource
    rw [lives, accounted.live_iff]
    constructor
    · rintro (⟨owner, owns⟩ | rfl)
      · exact ⟨owner, (owned owner resource).mpr (Or.inl owns)⟩
      · exact ⟨holder, (owned holder resource).mpr (Or.inr ⟨rfl, rfl⟩)⟩
    · rintro ⟨owner, owns⟩
      rcases (owned owner resource).mp owns with old | ⟨-, rfl⟩
      · exact Or.inl ⟨owner, old⟩
      · exact Or.inr rfl
  case unshared =>
    intro first second resource firstOwns secondOwns
    rcases (owned first resource).mp firstOwns with firstOld | ⟨rfl, rfl⟩ <;>
      rcases (owned second resource).mp secondOwns with secondOld | ⟨rfl, same⟩
    · exact accounted.unshared firstOld secondOld
    · exact absurd (accounted.live firstOld) (same ▸ new)
    · exact absurd (accounted.live secondOld) new
    · rfl

/-- An owner releases a resource that was its own. -/
theorem release (accounted : Accounted Live Owns) {holder : Owner} {released : Resource}
    (own : Owns holder released)
    (lives : ∀ resource, Live' resource ↔ Live resource ∧ resource ≠ released)
    (owned : ∀ owner resource, Owns' owner resource ↔
      Owns owner resource ∧ ¬ (owner = holder ∧ resource = released)) :
    Accounted Live' Owns' := by
  constructor
  case live_iff =>
    intro resource
    rw [lives, accounted.live_iff]
    constructor
    · rintro ⟨⟨owner, owns⟩, other⟩
      exact ⟨owner, (owned owner resource).mpr ⟨owns, fun same => other same.2⟩⟩
    · rintro ⟨owner, owns⟩
      obtain ⟨old, others⟩ := (owned owner resource).mp owns
      refine ⟨⟨owner, old⟩, ?_⟩
      rintro rfl
      exact others ⟨accounted.unshared old own, rfl⟩
  case unshared =>
    intro first second resource firstOwns secondOwns
    exact accounted.unshared ((owned first resource).mp firstOwns).1
      ((owned second resource).mp secondOwns).1

/-- Where nobody owns anything, nothing is live. -/
theorem not_live (accounted : Accounted Live Owns) (unowned : ∀ owner resource, ¬ Owns owner resource)
    (resource : Resource) : ¬ Live resource := by
  intro isLive
  obtain ⟨owner, owns⟩ := (accounted.live_iff resource).mp isLive
  exact unowned owner resource owns

end Accounted

end MediasoupClientSwift.Library
