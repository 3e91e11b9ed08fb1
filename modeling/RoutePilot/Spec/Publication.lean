/-
  Publication, abstractly: the Trips with their pointers, and the Artifact
  versions with their statuses.

  The invariant (`PublicationOk`): a set pointer targets a published version of
  its own Trip, and every published `TripSnapshot` of a Trip is the target of
  its pointer.  The stores reach it by different rules (they supersede
  different sets), so each rule a store uses is one lemma here.
-/
import Mathlib.Logic.Function.Basic
import RoutePilot.Model.Entities

namespace RoutePilot

/-- The Trips of a store. -/
abbrev TripTable := String → Option TripView

/-- The Artifact versions of a store, by identifier and version. -/
abbrev ArtifactTable := String → ℕ → Option ArtifactView

/-- The Trip points to this version. -/
def TripView.PointsTo (t : TripView) (id : String) (v : ℕ) : Prop :=
  t.currentArtifactId = some id ∧ t.currentArtifactVersion = some v

/-- The publication invariant over the stored versions `S`. -/
structure Published (T : TripTable) (S : ArtifactView → Prop) : Prop where
  target : ∀ k t id, T k = some t → t.currentArtifactId = some id →
    ∃ a, S a ∧ t.PointsTo a.artifactId a.version ∧ a.artifactId = id ∧ a.tripId = k ∧
      a.status = .published
  only : ∀ k t a, T k = some t → S a → a.tripId = k → a.artifactType = "TripSnapshot" →
    a.status = .published → t.PointsTo a.artifactId a.version

/-- The publication invariant, with what keeps it: every row is stored under its own key, and every
    version belongs to a stored Trip. -/
structure PublicationOk (T : TripTable) (A : ArtifactTable) : Prop where
  tripKey : ∀ k t, T k = some t → t.tripId = k
  key : ∀ id v a, A id v = some a → a.artifactId = id ∧ a.version = v
  trip : ∀ id v a, A id v = some a → ∃ t, T a.tripId = some t
  target : ∀ k t id, T k = some t → t.currentArtifactId = some id →
    ∃ v a, t.currentArtifactVersion = some v ∧ A id v = some a ∧ a.tripId = k ∧ a.status = .published
  only : ∀ k t id v a, T k = some t → A id v = some a → a.tripId = k →
    a.artifactType = "TripSnapshot" → a.status = .published → t.PointsTo id v

/-- Empty tables. -/
theorem PublicationOk.of_empty {T : TripTable} {A : ArtifactTable} (hT : ∀ k, T k = none) (hA : ∀ id v, A id v = none) :
    PublicationOk T A := by
  have htrip : ∀ {k t}, T k ≠ some t := by
    intro k t h
    rw [hT] at h
    cases h
  have hversion : ∀ {id v a}, A id v ≠ some a := by
    intro id v a h
    rw [hA] at h
    cases h
  constructor
  · exact fun _ _ h => absurd h htrip
  · exact fun _ _ _ h => absurd h hversion
  · exact fun _ _ _ h => absurd h hversion
  · exact fun _ _ _ h => absurd h htrip
  · exact fun _ _ _ _ _ h => absurd h htrip

/-- The versions with new statuses. -/
def restatus (f : ArtifactView → ArtifactStatus) (A : ArtifactTable) : ArtifactTable :=
  fun id v => (A id v).map fun a => { a with status := f a }

theorem restatus_eq_some {f : ArtifactView → ArtifactStatus} {A : ArtifactTable} {id : String} {v : ℕ}
    {b : ArtifactView} :
    restatus f A id v = some b ↔ ∃ a, A id v = some a ∧ { a with status := f a } = b :=
  Option.map_eq_some_iff

namespace PublicationOk
variable {T : TripTable} {A : ArtifactTable} (h : PublicationOk T A)
include h

theorem published {S : ArtifactView → Prop}
    (hS : ∀ a, S a ↔ A a.artifactId a.version = some a) : Published T S where
  target k t id ht hid := by
    obtain ⟨v, a, hv, ha, htrip, hpub⟩ := h.target k t id ht hid
    obtain ⟨rfl, rfl⟩ := h.key id v a ha
    exact ⟨a, (hS a).2 ha, ⟨hid, hv⟩, rfl, htrip, hpub⟩
  only k t a ht ha htrip htype hpub :=
    h.only k t a.artifactId a.version a ht ((hS a).1 ha) htrip htype hpub

/-- A new Trip. -/
theorem newTrip {t : TripView} (hfresh : T t.tripId = none)
    (hid : t.currentArtifactId = none) : PublicationOk (Function.update T t.tripId (some t)) A := by
  have hno : ∀ id v a, A id v = some a → a.tripId ≠ t.tripId := by
    intro id v a ha heq
    obtain ⟨t', ht'⟩ := h.trip id v a ha
    rw [heq, hfresh] at ht'; cases ht'
  refine ⟨fun k t' ht' => ?_, h.key, fun id v a ha => ?_, fun k t' id ht' hcur => ?_,
    fun k t' id v a ht' ha htrip => ?_⟩
  · rw [Function.update_apply] at ht'
    split at ht'
    · next hk => cases ht'; exact hk.symm
    · exact h.tripKey k t' ht'
  · rw [Function.update_of_ne (hno id v a ha)]; exact h.trip id v a ha
  · rw [Function.update_apply] at ht'
    split at ht'
    · cases ht'; rw [hid] at hcur; cases hcur
    · exact h.target k t' id ht' hcur
  · rw [Function.update_apply] at ht'
    split at ht'
    · next hk => exact absurd (htrip.trans hk) (hno id v a ha)
    · exact h.only k t' id v a ht' ha htrip

/-- A Trip with the same pointer. -/
theorem editTrip {t t' : TripView} (ht : T t.tripId = some t) (hid : t'.tripId = t.tripId)
    (hcur : t'.currentArtifactId = t.currentArtifactId)
    (hver : t'.currentArtifactVersion = t.currentArtifactVersion) :
    PublicationOk (Function.update T t.tripId (some t')) A := by
  have hget : ∀ k u, Function.update T t.tripId (some t') k = some u →
      ∃ u₀, T k = some u₀ ∧ u.tripId = u₀.tripId ∧ u.currentArtifactId = u₀.currentArtifactId ∧
        u.currentArtifactVersion = u₀.currentArtifactVersion := by
    intro k u hu
    rw [Function.update_apply] at hu
    split at hu
    · next hk => cases hu; exact ⟨t, hk ▸ ht, hid, hcur, hver⟩
    · exact ⟨u, hu, rfl, rfl, rfl⟩
  refine ⟨fun k u hu => ?_, h.key, fun id v a ha => ?_, fun k u id hu hc => ?_,
    fun k u id v a hu ha htrip htype hpub => ?_⟩
  · obtain ⟨u₀, hu₀, h₁, -⟩ := hget k u hu
    exact h₁.trans (h.tripKey k u₀ hu₀)
  · obtain ⟨u, hu⟩ := h.trip id v a ha
    rw [Function.update_apply]
    split
    · exact ⟨t', rfl⟩
    · exact ⟨u, hu⟩
  · obtain ⟨u₀, hu₀, -, h₂, h₃⟩ := hget k u hu
    rw [h₃]
    exact h.target k u₀ id hu₀ (h₂ ▸ hc)
  · obtain ⟨u₀, hu₀, -, h₂, h₃⟩ := hget k u hu
    rw [TripView.PointsTo, h₂, h₃]
    exact h.only k u₀ id v a hu₀ ha htrip htype hpub

/-- A new version that is not published. -/
theorem newVersion {A' : ArtifactTable} {b : ArtifactView}
    (hA : ∀ id v, A' id v = if id = b.artifactId ∧ v = b.version then some b else A id v)
    (hfresh : A b.artifactId b.version = none) (htrip : ∃ t, T b.tripId = some t)
    (hpub : b.status ≠ .published) : PublicationOk T A' := by
  have hget : ∀ id v a, A' id v = some a → A id v = some a ∨
      a = b ∧ id = b.artifactId ∧ v = b.version := by
    intro id v a ha
    rw [hA] at ha
    split at ha
    · next hk => cases ha; exact .inr ⟨rfl, hk⟩
    · exact .inl ha
  refine ⟨h.tripKey, fun id v a ha => ?_, fun id v a ha => ?_, fun k t id ht hcur => ?_,
    fun k t id v a ht ha hk htype hp => ?_⟩
  · obtain ha | ⟨rfl, rfl, rfl⟩ := hget id v a ha
    · exact h.key id v a ha
    · exact ⟨rfl, rfl⟩
  · obtain ha | ⟨rfl, -⟩ := hget id v a ha
    · exact h.trip id v a ha
    · exact htrip
  · obtain ⟨v, a, hv, ha, hk, hp⟩ := h.target k t id ht hcur
    refine ⟨v, a, hv, ?_, hk, hp⟩
    rw [hA, if_neg]
    · exact ha
    · rintro ⟨rfl, rfl⟩
      rw [hfresh] at ha; cases ha
  · obtain ha | ⟨rfl, -⟩ := hget id v a ha
    · exact h.only k t id v a ht ha hk htype hp
    · exact absurd hp hpub

/-- Changes of statuses only keep keys and Trips. -/
theorem restatus_keys (f : ArtifactView → ArtifactStatus) :
    (∀ id v a, restatus f A id v = some a → a.artifactId = id ∧ a.version = v) ∧
      ∀ id v a, restatus f A id v = some a → ∃ t, T a.tripId = some t := by
  constructor
  all_goals
    intro id v a ha
    obtain ⟨a₀, ha₀, rfl⟩ := restatus_eq_some.1 ha
  · exact h.key id v a₀ ha₀
  · exact h.trip id v a₀ ha₀

/-- New statuses under the same pointers: published targets stay published, and no snapshot
    becomes published. -/
theorem restatused {f : ArtifactView → ArtifactStatus}
    (htarget : ∀ k t id v a, T k = some t → t.PointsTo id v → A id v = some a → a.tripId = k →
      a.status = .published → f a = .published)
    (honly : ∀ id v a, A id v = some a → a.artifactType = "TripSnapshot" → f a = .published →
      a.status = .published) : PublicationOk T (restatus f A) := by
  obtain ⟨hkey, htrip⟩ := h.restatus_keys f
  refine ⟨h.tripKey, hkey, htrip, fun k t id ht hcur => ?_, fun k t id v a ht ha hk htype hp => ?_⟩
  · obtain ⟨v, a, hv, ha, hk, hp⟩ := h.target k t id ht hcur
    exact ⟨v, _, hv, restatus_eq_some.2 ⟨a, ha, rfl⟩, hk, htarget k t id v a ht ⟨hcur, hv⟩ ha hk hp⟩
  · obtain ⟨a₀, ha₀, rfl⟩ := restatus_eq_some.1 ha
    exact h.only k t id v a₀ ht ha₀ hk htype (honly id v a₀ ha₀ htype hp)

/-- **Publication**: the version is published, the Trip points to it, and no other snapshot of the
    Trip stays published; the versions of other Trips keep their statuses. -/
theorem publish {f : ArtifactView → ArtifactStatus} {t t' : TripView} {a : ArtifactView}
    (ha : A a.artifactId a.version = some a) (hk : a.tripId = t.tripId)
    (hid : t'.tripId = t.tripId) (hpoint : t'.PointsTo a.artifactId a.version)
    (hthis : f a = .published)
    (hsame : ∀ id v b, A id v = some b → b.tripId ≠ t.tripId → f b = b.status)
    (hothers : ∀ id v b, A id v = some b → b.tripId = t.tripId → b.artifactType = "TripSnapshot" →
      f b = .published → id = a.artifactId ∧ v = a.version) :
    PublicationOk (Function.update T t.tripId (some t')) (restatus f A) := by
  obtain ⟨hkey, htrip⟩ := h.restatus_keys f
  refine ⟨fun k u hu => ?_, hkey, fun id v b hb => ?_, fun k u id hu hcur => ?_,
    fun k u id v b hu hb hbk htype hp => ?_⟩
  · rw [Function.update_apply] at hu
    split at hu
    · next hk' => cases hu; exact hid.trans hk'.symm
    · exact h.tripKey k u hu
  · rw [Function.update_apply]
    split
    · exact ⟨t', rfl⟩
    · exact htrip id v b hb
  · rw [Function.update_apply] at hu
    split at hu
    · next hk' =>
      cases hu
      rw [hpoint.1] at hcur; cases hcur
      exact ⟨a.version, _, hpoint.2, restatus_eq_some.2 ⟨a, ha, rfl⟩, hk.trans hk'.symm, hthis⟩
    · next hk' =>
      obtain ⟨v, b, hv, hb, hbk, hp⟩ := h.target k u id hu hcur
      refine ⟨v, _, hv, restatus_eq_some.2 ⟨b, hb, rfl⟩, hbk, ?_⟩
      exact (hsame id v b hb (by rw [hbk]; exact hk')).trans hp
  · obtain ⟨b₀, hb₀, rfl⟩ := restatus_eq_some.1 hb
    rw [Function.update_apply] at hu
    split at hu
    · next hk' =>
      cases hu
      obtain ⟨rfl, rfl⟩ := hothers id v b₀ hb₀ (hbk.trans hk') htype hp
      exact hpoint
    · next hk' =>
      have hne : b₀.tripId ≠ t.tripId := by rw [show b₀.tripId = k from hbk]; exact hk'
      exact h.only k u id v b₀ hu hb₀ hbk htype ((hsame id v b₀ hb₀ hne).symm.trans hp)

/-- **Revocation** of the version a Trip points to clears the pointer. -/
theorem revokeCurrent {f : ArtifactView → ArtifactStatus} {t t' : TripView} {a : ArtifactView}
    (ht : T t.tripId = some t) (hid : t'.tripId = t.tripId) (hnone : t'.currentArtifactId = none)
    (hpoint : t.PointsTo a.artifactId a.version)
    (hthis : f a ≠ .published) (ha : A a.artifactId a.version = some a)
    (hsame : ∀ id v b, A id v = some b → ¬ (id = a.artifactId ∧ v = a.version) → f b = b.status) :
    PublicationOk (Function.update T t.tripId (some t')) (restatus f A) := by
  obtain ⟨hkey, htrip⟩ := h.restatus_keys f
  -- the pointer of another Trip targets another version
  have hother : ∀ k u id v b, T k = some u → k ≠ t.tripId → A id v = some b → b.tripId = k →
      ¬ (id = a.artifactId ∧ v = a.version) := by
    rintro k u id v b hu hk hb hbk ⟨rfl, rfl⟩
    obtain ⟨w, c, hw, hc, hck, -⟩ := h.target _ t a.artifactId ht hpoint.1
    rw [hpoint.2] at hw; cases hw
    rw [hc] at hb; cases hb
    exact hk (hbk.symm.trans hck)
  refine ⟨fun k u hu => ?_, hkey, fun id v b hb => ?_, fun k u id hu hcur => ?_,
    fun k u id v b hu hb hbk htype hp => ?_⟩
  · rw [Function.update_apply] at hu
    split at hu
    · next hk' => cases hu; exact hid.trans hk'.symm
    · exact h.tripKey k u hu
  · rw [Function.update_apply]
    split
    · exact ⟨t', rfl⟩
    · exact htrip id v b hb
  · rw [Function.update_apply] at hu
    split at hu
    · cases hu; rw [hnone] at hcur; cases hcur
    · next hk' =>
      obtain ⟨v, b, hv, hb, hbk, hp⟩ := h.target k u id hu hcur
      refine ⟨v, _, hv, restatus_eq_some.2 ⟨b, hb, rfl⟩, hbk, ?_⟩
      exact (hsame id v b hb (hother k u id v b hu hk' hb hbk)).trans hp
  · obtain ⟨b₀, hb₀, rfl⟩ := restatus_eq_some.1 hb
    rw [Function.update_apply] at hu
    by_cases hthat : id = a.artifactId ∧ v = a.version
    · obtain ⟨rfl, rfl⟩ := hthat
      rw [ha] at hb₀; cases hb₀
      exact absurd hp hthis
    · have hst := (hsame id v b₀ hb₀ hthat).symm.trans hp
      split at hu
      · next hk' =>
        obtain ⟨h₁, h₂⟩ := h.only _ t id v b₀ ht hb₀ (hbk.trans hk') htype hst
        rw [hpoint.1] at h₁; rw [hpoint.2] at h₂
        exact absurd ⟨(Option.some.inj h₁).symm, (Option.some.inj h₂).symm⟩ hthat
      · exact h.only k u id v b₀ hu hb₀ hbk htype hst

end PublicationOk
end RoutePilot
