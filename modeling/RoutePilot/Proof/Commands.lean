/-
  The commands of a page, and the store that gets them.

  A page that shows what the store has offers an action on an Artifact: the store accepts
  it if the principal may write the Trip, and what the page then makes of its own state is
  what the store would answer (`offered_actions_accepted`).  A submission whose answer was
  lost is sent again under its key, and makes no second Run (`resubmission_creates_once`).
-/
import Mathlib.Data.List.Nodup
import RoutePilot.Proof.Atomicity
import RoutePilot.Proof.Idempotency
import RoutePilot.Store.Readers
import RoutePilot.Web.Commands

namespace RoutePilot

open Lib Lts Web

/-! ## What the store lists -/

/-- The versions that `list_artifacts` returns. -/
def Store.listed (p : Principal) (tripId : String) (st : Store) : List ArtifactView :=
  st.artifacts.values.flatten.filter fun a => a.tripId = tripId ∧ a.tenantId = p.tenantId

section
variable {st st' : Store} {p : Principal} {tripId : String} {a : ArtifactView}

theorem listArtifacts_ok {items : List ArtifactView} :
    (listArtifacts p tripId).run st = .ok items st' ↔
      (∃ trip, tripLocked p tripId false st = .ok trip) ∧ items = st.listed p tripId ∧ st' = st := by
  simp only [listArtifacts, bind_ok, ask_ok, EStateM.run_get, EStateM.run_pure, EStateM.Result.ok.injEq,
    existsAndEq, true_and, and_assoc, exists_and_right]
  constructor
  · rintro ⟨htrip, rfl, rfl⟩
    exact ⟨htrip, rfl, rfl⟩
  · rintro ⟨htrip, rfl, rfl⟩
    exact ⟨htrip, rfl, rfl⟩

theorem mem_listed (h : st.Tidy) :
    a ∈ st.listed p tripId ↔ a ∈ st.artifacts.getD a.artifactId [] ∧ a.tripId = tripId ∧ a.tenantId = p.tenantId := by
  simp only [Store.listed, List.mem_filter, List.mem_flatten, decide_eq_true_eq]
  refine and_congr_left fun _ => ?_
  constructor
  · rintro ⟨versions, hversions, ha⟩
    obtain ⟨id, hid⟩ := Dict.exists_get?_of_mem_values hversions
    have hmem : a ∈ st.artifacts.getD id [] := by simpa [Dict.getD, hid] using ha
    rwa [(h.versions id).key a hmem]
  · intro ha
    cases hid : st.artifacts.get? a.artifactId with
    | none => simp [Dict.getD, hid] at ha
    | some versions => exact ⟨versions, Dict.mem_values_of_get? hid, by simpa [Dict.getD, hid] using ha⟩

/-- No version is listed twice. -/
theorem listed_distinct (h : st.Tidy) : ((st.listed p tripId).map fun b => (b.artifactId, b.version)).Nodup := by
  refine List.pairwise_map.2 (List.Pairwise.sublist List.filter_sublist (List.pairwise_flatten.2 ⟨?_, ?_⟩))
  · intro versions hversions
    obtain ⟨id, hid⟩ := Dict.exists_get?_of_mem_values hversions
    have hdistinct := (h.versions id).distinct
    rw [Dict.getD, hid] at hdistinct
    refine hdistinct.imp fun hne heq => ?_
    exact hne (Prod.mk.inj heq).2
  · rw [Dict.values_eq h.keys, List.pairwise_map]
    have hkeys : st.artifacts.entries.Pairwise fun e e' => e.1 ≠ e'.1 := List.pairwise_map.1 h.keys
    have hkey : ∀ e ∈ st.artifacts.entries, ∀ a ∈ e.2, a.artifactId = e.1 := by
      intro e he a ha
      refine (h.versions e.1).key a ?_
      rwa [Dict.getD, Dict.get?_of_mem h.keys he]
    refine hkeys.imp_of_mem fun he he' hne a ha b hb heq => ?_
    have hids := (Prod.mk.inj heq).1
    rw [hkey _ he a ha, hkey _ he' b hb] at hids
    exact hne hids

/-- The versions with other statuses are listed in the same places. -/
theorem listed_mapValues (h : st.artifacts.DistinctKeys) {g : ArtifactView → ArtifactView}
    (hg : ∀ a, (g a).tripId = a.tripId ∧ (g a).tenantId = a.tenantId)
    (hst : st'.artifacts = st.artifacts.mapValues (List.map g)) :
    st'.listed p tripId = (st.listed p tripId).map g := by
  have hvalues : st'.artifacts.values = st.artifacts.values.map (List.map g) := by
    rw [hst, Dict.values_eq (h.mapValues _), Dict.values_eq h, Dict.mapValues, List.map_map, List.map_map]
    rfl
  unfold Store.listed
  rw [hvalues, ← List.map_flatten, List.filter_map]
  congr 2
  funext a
  simp [hg a]

theorem withStatus_artifacts (h : st.Tidy) (ha : a ∈ st.artifacts.getD a.artifactId []) (s : ArtifactStatus) :
    (withStatus a.artifactId a s st).artifacts =
      st.artifacts.mapValues (List.map fun b => if sameVersion a b then { b with status := s } else b) := by
  obtain ⟨versions, hversions⟩ : ∃ versions, st.artifacts.get? a.artifactId = some versions := by
    cases hid : st.artifacts.get? a.artifactId with
    | none => simp [Dict.getD, hid] at ha
    | some versions => exact ⟨versions, rfl⟩
  unfold withStatus
  dsimp only
  rw [Dict.set, if_pos (by simp [hversions]), Dict.mapValues]
  congr 1
  refine List.map_congr_left fun e he => ?_
  have hget := Dict.get?_of_mem h.keys he
  have hkey : ∀ b ∈ e.2, b.artifactId = e.1 := by
    intro b hb
    refine (h.versions e.1).key b ?_
    rwa [Dict.getD, hget]
  by_cases hid : e.1 = a.artifactId
  · rw [if_pos hid, Dict.getD, ← hid, hget, replaceVersion]
    congr 1
    refine List.map_congr_left fun b hb => ?_
    by_cases hv : b.version = a.version
    · have hb' : b ∈ st.artifacts.getD a.artifactId [] := by rwa [Dict.getD, ← hid, hget]
      have hfound := (findVersion_eq_some (h.versions a.artifactId)).2 ⟨hb', hv⟩
      rw [(findVersion_eq_some (h.versions a.artifactId)).2 ⟨ha, rfl⟩] at hfound
      cases hfound
      simp [sameVersion, hid]
    · simp [sameVersion, hv]
  · rw [if_neg hid]
    obtain ⟨id, versions⟩ := e
    congr 1
    refine (List.map_id _).symm.trans (List.map_congr_left fun b hb => ?_)
    have hne : ¬ b.artifactId = a.artifactId := by
      rw [hkey b hb]
      exact hid
    simp [sameVersion, hne]

end

/-! ## What the page makes of it -/

namespace Web
variable {a b updated : ArtifactView} {items : List ArtifactView}

theorem sameVersion_iff : sameVersion a b = true ↔ b.artifactId = a.artifactId ∧ b.version = a.version := by
  simp [sameVersion]

/-- A version that is shown takes its place. -/
theorem placeArtifact_eq (hdistinct : (items.map fun b => (b.artifactId, b.version)).Nodup)
    (h : ∃ b ∈ items, sameVersion updated b = true) :
    placeArtifact updated items = items.map fun b => if sameVersion updated b then updated else b := by
  induction items with
  | nil => simp at h
  | cons c items ih =>
    rw [List.map_cons, List.nodup_cons] at hdistinct
    by_cases hc : sameVersion updated c = true
    · have hrest : ∀ b ∈ items, ¬ sameVersion updated b = true := by
        intro b hb hsame
        rw [sameVersion_iff] at hc hsame
        refine hdistinct.1 (List.mem_map.2 ⟨b, hb, ?_⟩)
        rw [hsame.1, hsame.2, hc.1, hc.2]
      have hsame : (items.map fun b => if sameVersion updated b then updated else b) = items := by
        refine (List.map_congr_left fun b hb => ?_).trans (List.map_id _)
        simp [hrest b hb]
      simp [placeArtifact, List.findIdx?_cons, hc, hsame]
    · obtain ⟨b, hb, hsame⟩ := h
      have hmem : b ∈ items := by
        rcases List.mem_cons.1 hb with rfl | hb
        · exact absurd hsame hc
        · exact hb
      have ih := ih hdistinct.2 ⟨b, hmem, hsame⟩
      unfold placeArtifact at ih ⊢
      rw [List.findIdx?_cons, List.map_cons, if_neg hc, ← ih]
      cases hfind : items.findIdx? (sameVersion updated) with
      | none =>
        have := List.findIdx?_eq_none_iff.1 hfind b hmem
        rw [hsame] at this
        cases this
      | some index => simp [hc]

/-- What the page has after a command on a version that it shows. -/
theorem reconcileArtifacts_eq {command : ArtifactCommand}
    (hdistinct : (items.map fun b => (b.artifactId, b.version)).Nodup)
    (h : ∃ b ∈ items, sameVersion updated b = true) :
    reconcileArtifacts command updated items = items.map fun b =>
      if sameVersion updated b then updated
      else if command = .publish ∧ b.status = .published then { b with status := .superseded }
      else b := by
  unfold reconcileArtifacts
  split
  · next hpublish =>
    obtain ⟨c, hc, hsame⟩ := h
    have hkey : ∀ b : ArtifactView, sameVersion updated
        (if b.status = .published ∧ ¬ sameVersion updated b then { b with status := .superseded } else b) =
        sameVersion updated b := by
      intro b
      split <;> rfl
    rw [placeArtifact_eq, List.map_map]
    · refine List.map_congr_left fun b _ => ?_
      simp only [Function.comp_apply, hkey, hpublish, true_and]
      by_cases hb : sameVersion updated b = true
      · rw [if_pos hb, if_pos hb]
      · simp only [hb, if_false, Bool.false_eq_true, not_false_eq_true, and_true]
    · rw [List.map_map]
      have hplaces : (fun b : ArtifactView => (b.artifactId, b.version)) ∘ (fun b : ArtifactView =>
          if b.status = .published ∧ ¬ sameVersion updated b then { b with status := .superseded } else b) =
          fun b => (b.artifactId, b.version) := by
        funext b
        dsimp only [Function.comp_apply]
        split <;> rfl
      rw [hplaces]
      exact hdistinct
    · exact ⟨_, List.mem_map_of_mem hc, (hkey c).trans hsame⟩
  · next hpublish =>
    rw [placeArtifact_eq hdistinct h]
    refine List.map_congr_left fun b _ => ?_
    simp [hpublish]

theorem version_le_latest (h : b ∈ items) (hid : b.artifactId = a.artifactId) :
    b.version ≤ latestArtifactVersion a items := by
  refine List.le_max?_getD_of_mem (List.mem_map_of_mem (List.mem_filter.2 ⟨h, ?_⟩))
  simpa using hid

/-- What an action is offered for. -/
theorem availableArtifactAction_some {context : ArtifactLifecycleContext} {action : ArtifactLifecycleAction}
    (h : availableArtifactAction a items context = some action) :
    a.version = latestArtifactVersion a items ∧ a.status = action.type.transition.1 ∧
      (action.type = .revoke →
        some a.artifactId = context.currentArtifactId ∧ some a.version = context.currentArtifactVersion) := by
  unfold availableArtifactAction at h
  split_ifs at h with _ hlatest hselect hpublish hrevoke
  · cases h
    refine ⟨not_not.1 hlatest, hselect.2.1, fun hne => ?_⟩
    cases hne
  · cases h
    refine ⟨not_not.1 hlatest, hpublish.2.1, fun hne => ?_⟩
    cases hne
  · cases h
    exact ⟨not_not.1 hlatest, hrevoke.2.1, fun _ => hrevoke.2.2.1⟩

end Web

/-! ## Commands -/

section
variable {env : Env} {st st' : Store} {p : Principal} {a : ArtifactView} {trip : TripView}
  {tripId key requestHash : String}

/-- The newest version of a listing is the newest one. -/
theorem latestVersion_listed (hl : st.Lineages) (h : st.Tidy) (ha : a ∈ st.listed p tripId)
    (hlatest : ∀ b ∈ st.listed p tripId, b.artifactId = a.artifactId → b.version ≤ a.version) :
    latestVersion (st.artifacts.getD a.artifactId []) = some a := by
  obtain ⟨hmem, rfl, htenant⟩ := (mem_listed h).1 ha
  refine latestVersion_of_greatest (h.versions a.artifactId) hmem fun b hb => ?_
  have hid := (hl a.artifactId).key b hb
  have hidentity := (hl a.artifactId).identity b hb a hmem
  simp only [ArtifactView.identity, Prod.mk.injEq] at hidentity
  refine hlatest b ?_ hid
  rw [mem_listed h, hid]
  exact ⟨hb, hidentity.1, hidentity.2.1.trans htenant⟩

/-- A command is about the newest version. -/
theorem artifactLocked_listed (h : st.Tidy) (ha : a ∈ st.listed p tripId)
    (hlast : latestVersion (st.artifacts.getD a.artifactId []) = some a)
    (htrip : tripLocked p tripId true st = .ok trip) : artifactLocked p a.artifactId none true st = .ok a := by
  obtain ⟨-, rfl, htenant⟩ := (mem_listed h).1 ha
  unfold artifactLocked
  rw [hlast]
  dsimp only
  rw [if_neg (not_not.2 htenant.symm), htrip]
  rfl

/-- Who may read or write a Trip depends on its owner, its tenant and its members. -/
theorem tripLocked_replaced {w : Bool} {trip' : TripView} (h : tripLocked p tripId w st = .ok trip)
    (hget : st'.trips.get? tripId = some trip') (htenant : trip'.tenantId = trip.tenantId)
    (howner : trip'.ownerId = trip.ownerId) (hmembers : st'.members = st.members) :
    tripLocked p tripId w st' = .ok trip' := by
  have htrip := (tripLocked_ok h).1
  unfold tripLocked at h ⊢
  rw [htrip] at h
  rw [hget]
  dsimp only at h ⊢
  rw [htenant, howner, hmembers]
  split_ifs at h ⊢ with h₁ h₂
  · rfl
  · cases hm : st.members.get? (tripId, p.userId) with
    | none =>
      rw [hm] at h
      cases h
    | some member =>
      rw [hm] at h
      dsimp only at h ⊢
      split_ifs at h ⊢
      rfl

end

/-! ## The page of a Trip -/

/-- The page shows a Trip and its versions as the store has them, the Trip's version and time apart. -/
structure Web.TripPage.Shows (page : TripPage) (p : Principal) (tripId : String) (st : Store) : Prop where
  trip : ∃ trip version updatedAt, (getTrip p tripId).run st = .ok trip st ∧
    page.trip = { trip with version := version, updatedAt := updatedAt }
  artifacts : ∃ items, (listArtifacts p tripId).run st = .ok items st ∧ page.artifacts.Perm items

/-- A listed version, after a command on the version `a`. -/
def ArtifactCommand.relisted (command : ArtifactCommand) (a b : ArtifactView) : ArtifactView :=
  if sameVersion a b then { b with status := command.transition.2 }
  else if command = .publish ∧ b.status = .published then { b with status := .superseded }
  else b

section
variable {env : Env} {st st' : Store} {p : Principal} {a : ArtifactView} {trip : TripView} {tripId : String}
  {command : ArtifactCommand} {page : TripPage}

/-- What a command leaves to list. -/
theorem Commanded.listed (h : st.Tidy) (ha : a ∈ st.listed p tripId)
    (hc : Commanded env a.artifactId a trip st st' command) :
    st'.listed p tripId = (st.listed p tripId).map (command.relisted a) := by
  obtain ⟨hmem, htrip, htenant⟩ := (mem_listed h).1 ha
  have hplaced : ∀ s, (withStatus a.artifactId a s st).listed p tripId =
      (st.listed p tripId).map fun b => if sameVersion a b then { b with status := s } else b := by
    intro s
    refine listed_mapValues h.keys (fun b => ?_) (withStatus_artifacts h hmem s)
    split <;> exact ⟨rfl, rfl⟩
  cases hc with
  | select _ _ hst =>
    have hlisted : st'.listed p tripId = (withStatus a.artifactId a .selected st).listed p tripId := by
      rw [Store.listed, hst, Store.listed]
    rw [hlisted, hplaced]
    refine List.map_congr_left fun b _ => ?_
    simp [ArtifactCommand.relisted, ArtifactCommand.transition]
  | publish _ _ hst =>
    have hsuperseded : st'.artifacts = (withStatus a.artifactId a .published st).artifacts.mapValues
        (List.map fun b => if b.status = .published ∧ otherVersions a b then { b with status := .superseded } else b) :=
      hst
    have hkept : ∀ b : ArtifactView,
        (if b.status = .published ∧ otherVersions a b then { b with status := .superseded } else b).tripId = b.tripId ∧
        (if b.status = .published ∧ otherVersions a b then { b with status := .superseded } else b).tenantId =
          b.tenantId := by
      intro b
      split <;> exact ⟨rfl, rfl⟩
    rw [listed_mapValues (h.withStatus hmem .published).keys hkept hsuperseded, hplaced, List.map_map]
    refine List.map_congr_left fun b hb => ?_
    have htrip' : b.tripId = a.tripId := by
      rw [htrip]
      exact ((mem_listed h).1 hb).2.1
    by_cases hsame : sameVersion a b = true
    · obtain ⟨hid, hversion⟩ := sameVersion_iff.1 hsame
      simp [ArtifactCommand.relisted, ArtifactCommand.transition, hsame, otherVersions, hid, hversion]
    · have hother : otherVersions a b = true := by
        rw [sameVersion_iff] at hsame
        simp only [otherVersions, decide_eq_true_eq]
        exact ⟨htrip', hsame⟩
      simp [ArtifactCommand.relisted, hsame, hother]
  | revoke _ _ hst =>
    have hlisted : st'.listed p tripId = (withStatus a.artifactId a .revoked st).listed p tripId := by
      rw [Store.listed, hst, Store.listed]
    rw [hlisted, hplaced]
    refine List.map_congr_left fun b _ => ?_
    simp [ArtifactCommand.relisted, ArtifactCommand.transition]

/-- The page makes the same of its list. -/
theorem reconcileArtifacts_relisted {items : List ArtifactView}
    (hdistinct : (items.map fun b => (b.artifactId, b.version)).Nodup) (ha : a ∈ items) :
    reconcileArtifacts command { a with status := command.transition.2 } items = items.map (command.relisted a) := by
  have hshown : ∃ b ∈ items, sameVersion { a with status := command.transition.2 } b = true :=
    ⟨a, ha, sameVersion_iff.2 ⟨rfl, rfl⟩⟩
  rw [reconcileArtifacts_eq hdistinct hshown]
  refine List.map_congr_left fun b hb => ?_
  have hsame : sameVersion { a with status := command.transition.2 } b = sameVersion a b := rfl
  rw [hsame, ArtifactCommand.relisted]
  by_cases hab : sameVersion a b = true
  · obtain ⟨hid, hversion⟩ := sameVersion_iff.1 hab
    have hba : b = a := List.inj_on_of_nodup_map hdistinct hb ha (by rw [hid, hversion])
    rw [if_pos hab, if_pos hab, hba]
  · rw [if_neg hab, if_neg hab]

end

theorem memoryStore_tripsKeyed {st : Store} (h : memoryStore.Reach anyStep st) : st.TripsKeyed := by
  refine h.invariant (I := Store.TripsKeyed) ?_ ?_
  · rintro st rfl id trip hget
    cases hget
  · rintro st c st' - hok - rfl
    exact StoreCall.tripsKeyed hok

section
variable {env : Env} {st st' : Store} {p : Principal} {a : ArtifactView} {tripId key requestHash : String}
  {page : TripPage} {action : ArtifactLifecycleAction} {busy : Bool}

/-- The Trip of the page after a command. -/
theorem Commanded.trip {trip : TripView} {command : ArtifactCommand} {updated : ArtifactView} (hkeyed : st.TripsKeyed)
    (hread : tripLocked p tripId false st = .ok trip) (hmembers : st'.members = st.members)
    (hcurrent : command = .revoke →
      trip.currentArtifactId = some a.artifactId ∧ trip.currentArtifactVersion = some a.version)
    (hc : Commanded env a.artifactId a trip st st' command) (hsame : sameVersion a updated = true)
    (version : ℕ) (updatedAt : Time) :
    ∃ trip', tripLocked p tripId false st' = .ok trip' ∧
      reconcileTrip command updated { trip with version := version, updatedAt := updatedAt } =
        { trip' with version := version, updatedAt := updatedAt } := by
  obtain ⟨hget, -⟩ := tripLocked_ok hread
  have hid := hkeyed _ _ hget
  obtain ⟨hsameId, hsameVersion⟩ := sameVersion_iff.1 hsame
  cases hc with
  | select _ htrips _ =>
    refine ⟨trip, tripLocked_replaced hread ?_ rfl rfl hmembers, rfl⟩
    rw [htrips, hget]
  | publish _ htrips _ =>
    refine ⟨pointTrip env trip (some a.artifactId) (some a.version),
      tripLocked_replaced hread ?_ rfl rfl hmembers, ?_⟩
    · rw [htrips, hid, Dict.get?_set_self]
    · simp [reconcileTrip, pointTrip, hsameId, hsameVersion]
  | revoke _ htrips _ =>
    rw [if_pos (hcurrent rfl)] at htrips
    refine ⟨pointTrip env trip none none, tripLocked_replaced hread ?_ rfl rfl hmembers, ?_⟩
    · rw [htrips, hid, Dict.get?_set_self]
    · simp [reconcileTrip, pointTrip, hsameId, hsameVersion, hcurrent]

/-- **Step lemma.** -/
theorem Web.TripPage.Shows.commanded (h : memoryStore.Reach KeepsHeader st) (hpage : page.Shows p tripId st)
    (ha : a ∈ page.artifacts) (haction : availableArtifactAction a page.artifacts (page.context busy) = some action)
    (hkey : st.artifactIdempotency.get? (p.tenantId, p.userId, a.artifactId, key) = none) :
    ((∃ x st', (commandArtifact env p a.artifactId ⟨action.type, a.version⟩ key requestHash).run st = .ok x st') ↔
      (∃ trip, tripLocked p tripId true st = .ok trip) ∧ a.contract ∈ contractModels) ∧
    ∀ x st', (commandArtifact env p a.artifactId ⟨action.type, a.version⟩ key requestHash).run st = .ok x st' →
      x = ⟨{ a with status := action.type.transition.2 }, false⟩ ∧
        (page.reconcile action.type x.artifact).Shows p tripId st' := by
  have hany : memoryStore.Reach anyStep st := h.mono fun _ _ _ => trivial
  have hl := memoryStore_lineages h
  have htidy := memoryStore_tidy hany
  have hkeyed := memoryStore_tripsKeyed hany
  obtain ⟨⟨trip, version, updatedAt, htrip, hshown⟩, items, hlist, hperm⟩ := hpage
  obtain ⟨-, rfl, -⟩ := listArtifacts_ok.1 hlist
  obtain ⟨hread, -⟩ := ask_ok.1 htrip
  obtain ⟨hversion, hstatus, hcurrent⟩ := availableArtifactAction_some haction
  have hlisted : a ∈ st.listed p tripId := hperm.mem_iff.1 ha
  have hlast : latestVersion (st.artifacts.getD a.artifactId []) = some a := by
    refine latestVersion_listed hl htidy hlisted fun b hb hid => ?_
    rw [hversion]
    exact version_le_latest (hperm.mem_iff.2 hb) hid
  have hneeds : ∀ x st',
      (commandArtifact env p a.artifactId ⟨action.type, a.version⟩ key requestHash).run st = .ok x st' →
      (∃ trip, tripLocked p tripId true st = .ok trip) ∧ a.contract ∈ contractModels := by
    intro x st' hx
    simp only [commandArtifact, bind_ok, ask_ok, existsAndEq, true_and, and_assoc] at hx
    obtain ⟨current, hcurrentRead, _, hmutable, -⟩ := hx
    obtain ⟨hlast', htrip'⟩ := artifactLocked_latest hcurrentRead
    rw [hlast] at hlast'
    cases hlast'
    rw [← ((mem_listed htidy).1 hlisted).2.1]
    refine ⟨htrip', ?_⟩
    by_contra hno
    rw [ensureArtifactMutable, if_neg hno] at hmutable
    cases hmutable
  have haccepts : (∃ trip, tripLocked p tripId true st = .ok trip) ∧ a.contract ∈ contractModels →
      ∃ st', (commandArtifact env p a.artifactId ⟨action.type, a.version⟩ key requestHash).run st =
        .ok ⟨{ a with status := action.type.transition.2 }, false⟩ st' := by
    rintro ⟨⟨_, hwrite⟩, hcontract⟩
    exact commandArtifact_accepted (artifactLocked_listed htidy hlisted hlast hwrite) ⟨if_pos hcontract, rfl, hstatus⟩
      hkey
  refine ⟨⟨?_, fun h => ?_⟩, fun x st' hx => ?_⟩
  · rintro ⟨x, st', hx⟩
    exact hneeds x st' hx
  · obtain ⟨st', hx⟩ := haccepts h
    exact ⟨_, st', hx⟩
  · obtain ⟨_, hx'⟩ := haccepts (hneeds x st' hx)
    rw [hx'] at hx
    cases hx
    refine ⟨rfl, ?_⟩
    rcases commandArtifact_ok hx' with ⟨-, hreplayed⟩ | ⟨current, trip', hcurrentRead, hwrite, hc⟩
    · cases hreplayed
    · obtain ⟨hlast', -⟩ := artifactLocked_latest hcurrentRead
      rw [hlast] at hlast'
      cases hlast'
      have hsameTrip : trip' = trip := by
        have hget := (tripLocked_ok hwrite).1
        rw [((mem_listed htidy).1 hlisted).2.1, (tripLocked_ok hread).1] at hget
        exact (Option.some.inj hget).symm
      subst hsameTrip
      have hpointed : action.type = .revoke →
          trip'.currentArtifactId = some a.artifactId ∧ trip'.currentArtifactVersion = some a.version := by
        intro hrevoke
        have hpointer := hcurrent hrevoke
        simp only [TripPage.context, hshown] at hpointer
        exact ⟨hpointer.1.symm, hpointer.2.symm⟩
      have hsame : sameVersion a { a with status := action.type.transition.2 } = true := sameVersion_iff.2 ⟨rfl, rfl⟩
      obtain ⟨trip'', hread', htrip'⟩ :=
        hc.trip hkeyed hread (commandArtifact_members hx') hpointed hsame version updatedAt
      have hdistinct := (hperm.map fun b => (b.artifactId, b.version)).nodup_iff.2 (listed_distinct htidy)
      constructor
      · refine ⟨trip'', version, updatedAt, ask_ok.2 ⟨hread', rfl⟩, ?_⟩
        rw [← htrip', ← hshown]
        rfl
      · refine ⟨_, listArtifacts_ok.2 ⟨⟨trip'', hread'⟩, rfl, rfl⟩, ?_⟩
        rw [hc.listed htidy hlisted, TripPage.reconcile, reconcileArtifacts_relisted hdistinct ha]
        exact hperm.map _

end

/-! ## A session -/

/-- A page that shows a Trip, and what its commands make of it and of the store. -/
inductive Web.TripPage.Session (p : Principal) (tripId : String) : TripPage → Store → Prop
  | opened {page : TripPage} {st : Store} (h : memoryStore.Reach KeepsHeader st) (hpage : page.Shows p tripId st) :
      Session p tripId page st
  | commanded {page : TripPage} {st st' : Store} {env : Env} {artifact : ArtifactView}
      {action : ArtifactLifecycleAction} {busy : Bool} {key requestHash : String} {x : IdempotentArtifactResult}
      (h : Session p tripId page st)
      (hartifact : artifact ∈ page.artifacts)
      (haction : availableArtifactAction artifact page.artifacts (page.context busy) = some action)
      (hkey : st.artifactIdempotency.get? (p.tenantId, p.userId, artifact.artifactId, key) = none)
      (hx : (commandArtifact env p artifact.artifactId ⟨action.type, artifact.version⟩ key requestHash).run st =
        .ok x st') :
      Session p tripId (page.reconcile action.type x.artifact) st'

section
variable {env : Env} {st : Store} {p : Principal} {tripId key requestHash : String} {page : TripPage}
  {artifact : ArtifactView} {action : ArtifactLifecycleAction} {busy : Bool}

/-- **Run lemma.** -/
theorem Web.TripPage.Session.shows (h : page.Session p tripId st) :
    memoryStore.Reach KeepsHeader st ∧ page.Shows p tripId st := by
  induction h with
  | opened h hpage => exact ⟨h, hpage⟩
  | @commanded page st st' env artifact action busy key requestHash x _ hartifact haction hkey hx ih =>
    obtain ⟨hreach, hpage⟩ := ih
    refine ⟨?_, ((hpage.commanded hreach hartifact haction hkey).2 x st' hx).2⟩
    let call : StoreCall :=
      ⟨env, .commandArtifact p artifact.artifactId ⟨action.type, artifact.version⟩ key requestHash⟩
    have hkeeps : KeepsHeader st call := by
      intro _ _ _ hop
      cases hop
    exact hreach.step hkeeps (congrArg final hx).symm

end

/-! ## A published plan -/

namespace Published

/-- A Trip and a validated plan of it. -/
def calls : List StoreCall :=
  [⟨Patched.env 1, .createTrip Patched.owner { title := "Kyoto" }⟩,
    ⟨Patched.env 2, .createArtifact Patched.owner
      { tripId := "trip_1", artifactId := some "plan", artifactType := "TripSnapshot", schemaVersion := 1
        content := [("artifact_id", .str "plan"), ("artifact_type", .str "TripSnapshot"), ("schema_version", .int 1),
          ("version", .int 1)]
        status := .validated }⟩]

def store : Store := Store.after {} calls

theorem store_reachable : memoryStore.Reach KeepsHeader store := by
  refine memoryStore_after (fun c hc st => ?_) (.init rfl)
  simp only [calls, List.mem_cons, List.not_mem_nil, or_false] at hc
  obtain rfl | rfl := hc <;> exact Patched.keepsHeader st _ _

def page : TripPage := ⟨(store.trips.get? "trip_1").getD default, store.listed Patched.owner "trip_1"⟩

def plan : ArtifactView := page.artifacts.headD default

theorem opened : page.Session Patched.owner "trip_1" store := by
  refine .opened store_reachable ⟨⟨page.trip, page.trip.version, page.trip.updatedAt, ?_, rfl⟩, _, ?_, .rfl⟩
  · rfl
  · rfl

/-- The action that the page offers on a version. -/
def offered (page : TripPage) (artifact : ArtifactView) : ArtifactLifecycleAction :=
  (availableArtifactAction artifact page.artifacts (page.context false)).getD ⟨.select, "", none⟩

/-- The command of a click. -/
def click (n : ℕ) (page : TripPage) (artifact : ArtifactView) : StoreM IdempotentArtifactResult :=
  commandArtifact (Patched.env n) Patched.owner artifact.artifactId ⟨(offered page artifact).type, artifact.version⟩
    (toString n) ""

/-- The plan, once it is published. -/
def publication : ArtifactView := { plan with status := .published }

theorem published :
    (page.reconcile .publish publication).Session Patched.owner "trip_1" (final ((click 3 page plan).run store)) := by
  have haction : availableArtifactAction plan page.artifacts (page.context false) = some (offered page plan) := rfl
  have hx : (click 3 page plan).run store = .ok ⟨publication, false⟩ (final ((click 3 page plan).run store)) := rfl
  exact .commanded opened List.mem_cons_self haction rfl hx

end Published

namespace Web
variable {tripId tripId' fingerprint newKey createdAt key : String} {takes : Bool} {target : KeyValueStorage}
  {pending : PendingRunSubmission}

theorem pendingKey_inj (h : pendingKey tripId' = pendingKey tripId) : tripId' = tripId := by
  unfold pendingKey at h
  exact String.append_right_inj _ |>.1 h

theorem readRunSubmission_set (h : pending.tripId = tripId) :
    readRunSubmission tripId (Function.update target (pendingKey tripId) (some pending.value)) = some pending := by
  obtain ⟨storedId, fingerprint, idempotencyKey, createdAt⟩ := pending
  cases h
  simp [readRunSubmission, PendingRunSubmission.value, record?, property, string?, Obj.get?, List.lookup_cons]

/-- The entries of the other Trips. -/
theorem readRunSubmission_other {value : Option Json} (h : tripId' ≠ tripId) :
    readRunSubmission tripId (Function.update target (pendingKey tripId') value) = readRunSubmission tripId target := by
  have hne : pendingKey tripId ≠ pendingKey tripId' := fun heq => h (pendingKey_inj heq.symm)
  unfold readRunSubmission
  rw [Function.update_of_ne hne]

/-- What was submitted before is submitted again. -/
theorem reserveRunSubmission_found (hread : readRunSubmission tripId target = some pending)
    (hsame : pending.fingerprint = fingerprint) :
    reserveRunSubmission tripId fingerprint newKey createdAt takes target = (pending, target) := by
  have hfound : (some pending).filter (·.fingerprint = fingerprint) = some pending := by
    simp [Option.filter, hsame]
  unfold reserveRunSubmission
  rw [hread, hfound]

/-- A submission that the storage takes can be read. -/
theorem reserveRunSubmission_stored (tripId fingerprint newKey createdAt : String) (target : KeyValueStorage) :
    (reserveRunSubmission tripId fingerprint newKey createdAt true target).1.fingerprint = fingerprint ∧
      readRunSubmission tripId (reserveRunSubmission tripId fingerprint newKey createdAt true target).2 =
        some (reserveRunSubmission tripId fingerprint newKey createdAt true target).1 := by
  cases hread : (readRunSubmission tripId target).filter (·.fingerprint = fingerprint) with
  | some pending =>
    obtain ⟨hread, hsame⟩ := Option.filter_eq_some_iff.1 hread
    rw [reserveRunSubmission_found hread (by simpa using hsame)]
    exact ⟨by simpa using hsame, hread⟩
  | none =>
    unfold reserveRunSubmission
    rw [hread]
    exact ⟨rfl, readRunSubmission_set rfl⟩

/-- The submissions of the other Trips. -/
theorem reserveRunSubmission_other (h : tripId' ≠ tripId) :
    readRunSubmission tripId (reserveRunSubmission tripId' fingerprint newKey createdAt takes target).2 =
      readRunSubmission tripId target := by
  unfold reserveRunSubmission
  dsimp only
  split
  · rfl
  · dsimp only
    split
    · exact readRunSubmission_other h
    · rfl

theorem clearRunSubmission_other (h : tripId' ≠ tripId) :
    readRunSubmission tripId (clearRunSubmission tripId' key target) = readRunSubmission tripId target := by
  unfold clearRunSubmission
  split
  · exact readRunSubmission_other h
  · rfl

end Web

/-- A browser tab and the store. -/
structure Workspace (σ : Type) where
  storage : KeyValueStorage := fun _ => none
  /-- the submissions that were sent, in order -/
  sent : List PendingRunSubmission := []
  /-- those that a Run was returned for -/
  answered : List ℕ := []
  /-- `submissionRef.current` -/
  awaited : Option ℕ := none
  store : σ

/-- `submitCommand` and `submitQuestion`, up to the request. -/
def Workspace.submit {σ : Type} (w : Workspace σ) (tripId fingerprint newKey createdAt : String) (takes : Bool) :
    Workspace σ :=
  let (pending, storage) := reserveRunSubmission tripId fingerprint newKey createdAt takes w.storage
  { w with storage := storage, sent := w.sent ++ [pending], awaited := some w.sent.length }

inductive WorkspaceLabel (ε : Type) where
  | submit (tripId fingerprint newKey createdAt : String) (takes : Bool)
  /-- a request reaches the store, after any delay and any number of times -/
  | serve (n : ℕ) (env : ε) (p : Principal) (c : RunCreation) (result : Except StoreError IdempotentRunResult)
  /-- `runApi.create` returns -/
  | acknowledge (n : ℕ)
  /-- the request fails, or the page is left -/
  | abandon
  /-- a call that the tab does not make -/
  | elsewhere (l : OpLabel ε)

/-- The call of the store. -/
def WorkspaceLabel.call? {ε : Type} : WorkspaceLabel ε → Option (OpLabel ε)
  | .serve _ env p c result => some ⟨env, .createRun p c, result⟩
  | .elsewhere l => some l
  | _ => none

section
variable {σ ε : Type} {B : Backend σ ε}

inductive Workspace.Step (B : Backend σ ε) (w : Workspace σ) : WorkspaceLabel ε → Workspace σ → Prop
  | submit {tripId fingerprint newKey createdAt : String} {takes : Bool} (h : w.awaited = none) :
      Step B w (.submit tripId fingerprint newKey createdAt takes) (w.submit tripId fingerprint newKey createdAt takes)
  | serve {n : ℕ} {env : ε} {p : Principal} {c : RunCreation} {result : Except StoreError IdempotentRunResult}
      {pending : PendingRunSubmission} {s : σ} (hsent : w.sent[n]? = some pending) (htrip : c.tripId = pending.tripId)
      (hkey : c.idempotencyKey = pending.idempotencyKey)
      (h : (callSystem B).step w.store ⟨env, .createRun p c, result⟩ s) :
      Step B w (.serve n env p c result)
        { w with store := s, answered := if result.isOk then n :: w.answered else w.answered }
  | acknowledge {n : ℕ} {pending : PendingRunSubmission} (h : w.awaited = some n) (hanswered : n ∈ w.answered)
      (hsent : w.sent[n]? = some pending) : Step B w (.acknowledge n)
        { w with awaited := none, storage := clearRunSubmission pending.tripId pending.idempotencyKey w.storage }
  | abandon : Step B w .abandon { w with awaited := none }
  | elsewhere {l : OpLabel ε} {s : σ} (h : (callSystem B).step w.store l s) :
      Step B w (.elsewhere l) { w with store := s }

def workspace (B : Backend σ ε) : Lts (Workspace σ) (WorkspaceLabel ε) where
  init w := w = { store := B.init }
  step := Workspace.Step B

/-- The history of the store. -/
def Workspace.calls (H : List (Taken (Workspace σ) (WorkspaceLabel ε))) : List (Taken σ (OpLabel ε)) :=
  Trace.part Workspace.store WorkspaceLabel.call? H

theorem Workspace.calls_trace {w w' : Workspace σ} {H : List (Taken (Workspace σ) (WorkspaceLabel ε))}
    (h : (workspace B).Trace w H w') : (callSystem B).Trace w.store (Workspace.calls H) w'.store := by
  refine Trace.project (fun w l w' call hstep hcall => ?_) (fun w l w' hstep hcall => ?_) h
  · cases hstep with
    | serve _ _ _ h =>
      cases hcall
      exact h
    | elsewhere h =>
      cases hcall
      exact h
    | _ => cases hcall
  · cases hstep with
    | serve => cases hcall
    | elsewhere => cases hcall
    | _ => rfl

/-- The step submits something else for the Trip, or acknowledges a submission of it. -/
def WorkspaceLabel.Settles (tripId fingerprint : String) (w : Workspace σ) : WorkspaceLabel ε → Prop
  | .submit tripId' fingerprint' _ _ _ => tripId' = tripId ∧ fingerprint' ≠ fingerprint
  | .acknowledge n => ∃ pending, w.sent[n]? = some pending ∧ pending.tripId = tripId
  | _ => False

/-- **Step lemma.**  The pending submission stays until it is settled. -/
theorem Workspace.Step.keeps {w w' : Workspace σ} {l : WorkspaceLabel ε} {tripId : String}
    {pending : PendingRunSubmission} (h : Workspace.Step B w l w')
    (hread : readRunSubmission tripId w.storage = some pending)
    (hl : ¬ l.Settles tripId pending.fingerprint w) : readRunSubmission tripId w'.storage = some pending := by
  cases h with
  | @submit tripId' fingerprint' newKey createdAt takes _ =>
    by_cases htrip : tripId' = tripId
    · subst htrip
      have hsame : pending.fingerprint = fingerprint' := by
        by_contra hne
        exact hl ⟨rfl, Ne.symm hne⟩
      unfold Workspace.submit
      rw [reserveRunSubmission_found hread hsame]
      exact hread
    · exact (reserveRunSubmission_other htrip).trans hread
  | acknowledge _ _ hsent =>
    refine (clearRunSubmission_other fun htrip => ?_).trans hread
    exact hl ⟨_, hsent, htrip⟩
  | serve | abandon | elsewhere => exact hread

/-- **Run lemma.** -/
theorem Workspace.pending_kept {w w' : Workspace σ} {H : List (Taken (Workspace σ) (WorkspaceLabel ε))}
    {tripId : String} {pending : PendingRunSubmission} (h : (workspace B).Trace w H w')
    (hread : readRunSubmission tripId w.storage = some pending)
    (hH : ∀ e ∈ H, ¬ e.label.Settles tripId pending.fingerprint e.before) :
    readRunSubmission tripId w'.storage = some pending := by
  induction h with
  | nil => exact hread
  | cons hl _ ih =>
    have hkept := Workspace.Step.keeps hl hread (hH _ List.mem_cons_self)
    exact ih hkept fun e he => hH e (List.mem_cons_of_mem _ he)

/-- A submission that is not settled is sent again under its key, and the calls under this key create one Run. -/
theorem resubmission_creates_once (K : KeyedRuns B) {w : Workspace σ}
    {H₁ H₂ H₃ : List (Taken (Workspace σ) (WorkspaceLabel ε))} {e₁ e₂ : Taken (Workspace σ) (WorkspaceLabel ε)}
    {tripId fingerprint newKey₁ newKey₂ createdAt₁ createdAt₂ : String} {takes : Bool}
    (hH : (workspace B).Trace { store := B.init } (H₁ ++ e₁ :: (H₂ ++ e₂ :: H₃)) w)
    (h₁ : e₁.label = .submit tripId fingerprint newKey₁ createdAt₁ true)
    (h₂ : e₂.label = .submit tripId fingerprint newKey₂ createdAt₂ takes)
    (hpending : ∀ e ∈ H₂, ¬ e.label.Settles tripId fingerprint e.before) :
    ∃ pending, e₁.after.sent = e₁.before.sent ++ [pending] ∧ e₂.after.sent = e₂.before.sent ++ [pending] ∧
      ∀ tenant user,
        let calls := (Workspace.calls (H₁ ++ e₁ :: (H₂ ++ e₂ :: H₃))).filter fun e =>
          (e.label.under (tenant, user, "run.create", pending.idempotencyKey)).isSome
        calls ≠ [] → ∃ hash runId first rest, calls = first :: rest ∧ K.CreatesRun first.before first.after runId ∧
          (∀ e ∈ calls, e.label.under (tenant, user, "run.create", pending.idempotencyKey) = some (hash, runId)) ∧
          ∀ e ∈ rest, e.after = e.before := by
  have hcalls := K.idempotentHistory (Workspace.calls_trace hH)
  obtain ⟨_, -, hrest⟩ := hH.split
  obtain ⟨-, hstep₁, hrest⟩ := hrest.uncons
  obtain ⟨_, hbetween, hrest⟩ := hrest.split
  obtain ⟨rfl, hstep₂, -⟩ := hrest.uncons
  obtain ⟨before₁, l₁, after₁⟩ := e₁
  obtain ⟨before₂, l₂, after₂⟩ := e₂
  dsimp only at h₁ h₂ hstep₁ hstep₂ hbetween ⊢
  subst h₁ h₂
  obtain ⟨hsame, hread⟩ := reserveRunSubmission_stored tripId fingerprint newKey₁ createdAt₁ before₁.storage
  cases hstep₁
  cases hstep₂
  refine ⟨(reserveRunSubmission tripId fingerprint newKey₁ createdAt₁ true before₁.storage).1, rfl, ?_,
    fun tenant user => hcalls.created tenant user _⟩
  have hkept : readRunSubmission tripId before₂.storage =
      some (reserveRunSubmission tripId fingerprint newKey₁ createdAt₁ true before₁.storage).1 := by
    refine Workspace.pending_kept hbetween hread ?_
    rw [hsame]
    exact hpending
  unfold Workspace.submit
  rw [reserveRunSubmission_found hkept hsame]

end

/-! ## A submission whose answer is lost -/

namespace Resent

def tripCall : OpLabel Env :=
  ⟨Retried.env 1, .createTrip Retried.owner { title := "Kyoto" },
    outcome ((StoreOp.run (Retried.env 1) (.createTrip Retried.owner { title := "Kyoto" })).run {})⟩

/-- What the store makes of the request, at the time `n`. -/
def run (n : ℕ) (st : Store) : EStateM.Result StoreError Store IdempotentRunResult :=
  (createRun (Retried.env n) Retried.owner Retried.creation).run st

def opened : Workspace Store := { store := StoreCall.next ⟨tripCall.env, tripCall.op⟩ {} }

def submitted : Workspace Store := opened.submit "trip_1" "" "create" "" true

def served : Workspace Store := { submitted with store := final (run 2 submitted.store), answered := [0] }

def lost : Workspace Store := { served with awaited := none }

def resubmitted : Workspace Store := lost.submit "trip_1" "" "create-2" "" true

def replayed : Workspace Store := { resubmitted with store := final (run 3 resubmitted.store), answered := [1, 0] }

/-- From the first submission to the second one. -/
def between : List (Taken (Workspace Store) (WorkspaceLabel Env)) :=
  [⟨submitted, .serve 0 (Retried.env 2) Retried.owner Retried.creation (outcome (run 2 submitted.store)), served⟩,
    ⟨served, .abandon, lost⟩]

def history : List (Taken (Workspace Store) (WorkspaceLabel Env)) :=
  [⟨{ store := {} }, .elsewhere tripCall, opened⟩] ++ ⟨opened, .submit "trip_1" "" "create" "" true, submitted⟩ ::
    (between ++ ⟨lost, .submit "trip_1" "" "create-2" "" true, resubmitted⟩ ::
      [⟨resubmitted, .serve 1 (Retried.env 3) Retried.owner Retried.creation (outcome (run 3 resubmitted.store)),
        replayed⟩])

/-- The pending submission. -/
def pending : PendingRunSubmission := ⟨"trip_1", "", "create", ""⟩

theorem history_trace : (workspace memoryBackend).Trace { store := memoryBackend.init } history replayed := by
  have hfirst : submitted.sent[0]? = some pending := rfl
  have hsecond : resubmitted.sent[1]? = some pending := rfl
  refine .cons (.elsewhere ⟨⟨rfl, rfl⟩, rfl, rfl⟩) (.cons (.submit rfl) (.cons ?_ (.cons .abandon (.cons (.submit rfl)
    (.cons ?_ (.nil _))))))
  · exact .serve hfirst rfl rfl ⟨⟨rfl, rfl⟩, rfl, rfl⟩
  · exact .serve hsecond rfl rfl ⟨⟨rfl, rfl⟩, rfl, rfl⟩

end Resent

/-- The second request of a submission whose answer was lost changes nothing. -/
theorem resubmission_creates_once_lost :
    ∃ hash runId first rest, (Workspace.calls Resent.history).filter (fun e =>
        (e.label.under ("tenant", "owner", "run.create", "create")).isSome) = first :: rest ∧
      memoryKeyed.CreatesRun first.before first.after runId ∧
      (∀ e ∈ first :: rest, e.label.under ("tenant", "owner", "run.create", "create") = some (hash, runId)) ∧
      ∀ e ∈ rest, e.after = e.before := by
  have hpending : ∀ e ∈ Resent.between, ¬ e.label.Settles "trip_1" "" e.before := by
    intro e he
    simp only [Resent.between, List.mem_cons, List.not_mem_nil, or_false] at he
    rcases he with rfl | rfl
    · exact id
    · exact id
  obtain ⟨pending, hsent, -, hcalls⟩ := resubmission_creates_once memoryKeyed Resent.history_trace rfl rfl hpending
  have hkey : pending = Resent.pending := (List.singleton_injective hsent).symm
  rw [hkey] at hcalls
  have hne : (Workspace.calls Resent.history).filter (fun e =>
      (e.label.under ("tenant", "owner", "run.create", "create")).isSome) ≠ [] := by decide
  obtain ⟨hash, runId, first, rest, heq, hcreates, hunder, hrest⟩ := hcalls "tenant" "owner" hne
  refine ⟨hash, runId, first, rest, heq, hcreates, fun e he => hunder e ?_, hrest⟩
  rwa [← heq] at he

end RoutePilot
