/-
  What a subscriber of a Task is sent, next to any services over any store.

  A later record of a Task keeps the retained events of an earlier one, and
  adds only events of greater versions; and the last event of a record is the
  status event of its own version.  So the generator, which delivers what is
  newer than its cursor from the record it read last, delivers the retained
  events one after the other, and has delivered the status event of the record
  on which it returns.
-/
import RoutePilot.A2A.Contract
import RoutePilot.A2A.Play
import RoutePilot.A2A.Subscribe

namespace RoutePilot.A2A

open Lib Lts

/-! ## Retained events -/

/-- The events of a record: in the order of their versions, up to the status event of its own. -/
structure EventsOk (r : TaskRecord) : Prop where
  positive : 1 ≤ r.version
  sorted : (r.events.map (·.version)).Pairwise (· ≤ ·)
  le : ∀ e ∈ r.events, e.version ≤ r.version
  last : 2 ≤ r.version → ∃ s, r.events.getLast? = some ⟨r.version, .status s⟩ ∧ s.state = r.state

/-- A later record of the Task keeps the events, and adds events of greater versions. -/
structure TaskRecord.Later (r r' : TaskRecord) : Prop where
  le : r.Le r'
  events : ∃ es, r'.events = r.events ++ es ∧ ∀ e ∈ es, r.version < e.version

theorem TaskRecord.Later.refl (r : TaskRecord) : r.Later r := ⟨.refl r, [], by simp, by simp⟩

theorem TaskRecord.Later.version {r r' : TaskRecord} (h : r.Later r') : r.version ≤ r'.version := h.le.1

theorem TaskRecord.Later.trans {r₁ r₂ r₃ : TaskRecord} (h : r₁.Later r₂) (h' : r₂.Later r₃) :
    r₁.Later r₃ := by
  obtain ⟨es, hes, hlt⟩ := h.events
  obtain ⟨es', hes', hlt'⟩ := h'.events
  refine ⟨h.le.trans h'.le, es ++ es', by rw [hes', hes, List.append_assoc], fun e he => ?_⟩
  rcases List.mem_append.1 he with he | he
  · exact hlt e he
  · exact h.version.trans_lt (hlt' e he)

/-- Events of the next version, the last of them the status event, after the retained ones. -/
theorem EventsOk.next {r r' : TaskRecord} (h : EventsOk r) (hversion : r'.version = r.version + 1)
    {es : List VersionedEvent} {status : TaskStatus} (hstate : status.state = r'.state)
    (hevents : r'.events = r.events ++ es ++ [⟨r'.version, .status status⟩])
    (hes : ∀ e ∈ es, e.version = r'.version) : EventsOk r' ∧ r.Later r' := by
  have hnew : ∀ e ∈ es ++ [⟨r'.version, .status status⟩], e.version = r'.version := by
    intro e he
    rcases List.mem_append.1 he with he | he
    · exact hes e he
    · rw [List.mem_singleton.1 he]
  rw [List.append_assoc] at hevents
  refine ⟨⟨by omega, ?_, fun e he => ?_, fun _ => ⟨status, ?_, hstate⟩⟩,
    ⟨by omega, fun hsame => absurd hsame (by omega)⟩, _, hevents,
    fun e he => by have := hnew e he; omega⟩
  · rw [hevents, List.map_append, List.pairwise_append]
    refine ⟨h.sorted, ?_, ?_⟩
    · refine List.pairwise_map.2 (List.Pairwise.imp_of_mem (fun ha hb _ => ?_)
        (List.pairwise_of_forall fun _ _ => trivial))
      rw [hnew _ ha, hnew _ hb]
    · intro a ha b hb
      obtain ⟨e, he, rfl⟩ := List.mem_map.1 ha
      obtain ⟨e', he', rfl⟩ := List.mem_map.1 hb
      have := h.le e he
      have := hnew e' he'
      omega
  · rw [hevents] at he
    rcases List.mem_append.1 he with he | he
    · have := h.le e he
      omega
    · exact (hnew e he).le
  · rw [hevents, ← List.append_assoc, List.getLast?_concat]

/-- A step of a call keeps the events of a Task in order, and only adds to them. -/
theorem RecordStep.events {strict : Prop} {c : Call} {x y : Option TaskRecord} (h : RecordStep strict c x y)
    (hx : ∀ r, x = some r → EventsOk r) :
    (∀ r', y = some r' → EventsOk r') ∧ ∀ r, x = some r → ∃ r', y = some r' ∧ r.Later r' := by
  cases h with
  | same => exact ⟨hx, fun r hr => ⟨r, hr, .refl r⟩⟩
  | created =>
    refine ⟨fun r' hr' => ?_, fun r hr => by cases hr⟩
    obtain rfl := Option.some.inj hr'
    exact ⟨le_rfl, .nil, fun e he => absurd he List.not_mem_nil, fun h => absurd h (Nat.not_succ_le_self 1)⟩
  | @moved r newState artifacts pending message timestamp updatedAt hallowed =>
    have hnext : EventsOk _ ∧
        r.Later (r.transitioned newState message artifacts pending timestamp updatedAt) :=
      (hx r rfl).next rfl rfl rfl fun e he => by
        obtain ⟨artifact, -, rfl⟩ := List.mem_map.1 he
        rfl
    exact ⟨fun r' hr' => Option.some.inj hr' ▸ hnext.1,
      fun r₀ hr₀ => ⟨_, rfl, Option.some.inj hr₀ ▸ hnext.2⟩⟩
  | answered r actor interfaceId params response timestamp updatedAt =>
    have hnext : EventsOk _ ∧ r.Later (r.answered params.message response timestamp updatedAt) :=
      (hx r rfl).next rfl rfl (by rw [List.append_nil]; rfl) (by simp)
    exact ⟨fun r' hr' => Option.some.inj hr' ▸ hnext.1,
      fun r₀ hr₀ => ⟨_, rfl, Option.some.inj hr₀ ▸ hnext.2⟩⟩

/-! ### What is newer than a version -/

section
variable {r r' : TaskRecord} {v : ℕ}

theorem EventsOk.newer_self (h : EventsOk r) : r.newer r.version = [] := by
  refine List.filter_eq_nil_iff.2 fun e he => ?_
  have := h.le e he
  simpa using this

/-- What a later record adds is newer than the earlier one. -/
theorem EventsOk.newer_later (h : EventsOk r) (hlater : r.Later r') (hv : v ≤ r.version) :
    r'.newer v = r.newer v ++ r'.newer r.version := by
  obtain ⟨es, hes, hlt⟩ := hlater.events
  have hself := h.newer_self
  unfold TaskRecord.newer at hself ⊢
  rw [hes, List.filter_append, List.filter_append, hself, List.nil_append,
    List.filter_eq_self.2 fun e he => decide_eq_true (hv.trans_lt (hlt e he)),
    List.filter_eq_self.2 fun e he => decide_eq_true (hlt e he)]

/-- Something newer than an older version ends with the status event of the record's own. -/
theorem EventsOk.newer_last (h : EventsOk r) (hpos : 1 ≤ v) (hv : v < r.version) :
    ∃ s, (r.newer v).getLast? = some ⟨r.version, .status s⟩ ∧ s.state = r.state := by
  obtain ⟨s, hlast, hstate⟩ := h.last (by omega)
  obtain ⟨es, hes⟩ := List.getLast?_eq_some_iff.1 hlast
  refine ⟨s, ?_, hstate⟩
  have hnew : [(⟨r.version, .status s⟩ : VersionedEvent)].filter (v < ·.version) =
      [⟨r.version, .status s⟩] := List.filter_cons_of_pos (decide_eq_true hv)
  rw [TaskRecord.newer, hes, List.filter_append, hnew, List.getLast?_concat]

/-- The cursor moves on to the version of the record. -/
theorem EventsOk.nextCursor (h : EventsOk r) (hpos : 1 ≤ v) (hv : v ≤ r.version) :
    nextCursor v (r.newer v) = r.version := by
  rcases hv.eq_or_lt with rfl | hlt
  · rw [h.newer_self]
    rfl
  · obtain ⟨s, hlast, -⟩ := h.newer_last hpos hlt
    have hmem : r.version ∈ (r.newer v).map (·.version) :=
      List.mem_map.2 ⟨_, List.mem_of_getLast? hlast, rfl⟩
    have hmax : ((r.newer v).map (·.version)).max? = some r.version := by
      refine List.max?_eq_some_iff.2 ⟨hmem, fun version hversion => ?_⟩
      obtain ⟨e, he, rfl⟩ := List.mem_map.1 hversion
      exact h.le e (List.mem_filter.1 he).1
    rw [A2A.nextCursor, hmax]
    rfl

end

/-! ## The generator -/

/-- The generator has sent `r₀`, has read `c` last, and has `rest` of its events still to yield. -/
structure Following (seen : TaskRecord → Prop) (g : Subscriber) (r₀ c : TaskRecord)
    (rest : List VersionedEvent) : Prop where
  snapshot : g.snapshot = some r₀
  first : seen r₀
  current : seen c
  later : r₀.Later c
  low : r₀.version ≤ g.cursor
  high : g.cursor ≤ c.version
  delivered : g.delivered ++ rest = c.newer r₀.version

/-- Nothing has been sent. -/
def Subscriber.Silent (g : Subscriber) : Prop := g.snapshot = none ∧ g.delivered = []

/-- The invariant of the generator; `seen` are the records of its Task up to now. -/
def SubscriberOk (seen : TaskRecord → Prop) (g : Subscriber) : Prop :=
  match g.pc with
  | .getTask | .ended .unsupported => g.Silent
  | .sending record => g.Silent ∧ seen record
  | .yielding c events rest => ∃ r₀, Following seen g r₀ c rest ∧ events = c.newer g.cursor
  | .waitForChange c => ∃ r₀, Following seen g r₀ c [] ∧ g.cursor = c.version
  | .ended .settled => ∃ r₀ c, Following seen g r₀ c [] ∧ g.cursor = c.version ∧ c.state.isSettled
  | .ended (.raised e) => g.Silent ∨ ∃ r₀ c, Following seen g r₀ c [] ∧ g.cursor = c.version ∧ e.IsFault
  | .ended .closed => g.Silent ∨ ∃ r₀ c rest, Following seen g r₀ c rest

section
variable {seen seen' : TaskRecord → Prop} {g : Subscriber} {r₀ c c' : TaskRecord}
  {rest : List VersionedEvent}

theorem Following.mono (h : Following seen g r₀ c rest) (himp : ∀ r, seen r → seen' r) :
    Following seen' g r₀ c rest := { h with first := himp _ h.first, current := himp _ h.current }

theorem SubscriberOk.mono (h : SubscriberOk seen g) (himp : ∀ r, seen r → seen' r) :
    SubscriberOk seen' g := by
  unfold SubscriberOk at h ⊢
  split at h
  · exact h
  · exact h
  · exact ⟨h.1, himp _ h.2⟩
  · obtain ⟨r₀, hf, hevents⟩ := h
    exact ⟨r₀, hf.mono himp, hevents⟩
  · obtain ⟨r₀, hf, hcursor⟩ := h
    exact ⟨r₀, hf.mono himp, hcursor⟩
  · obtain ⟨r₀, c, hf, hrest⟩ := h
    exact ⟨r₀, c, hf.mono himp, hrest⟩
  · refine h.imp_right ?_
    rintro ⟨r₀, c, hf, hrest⟩
    exact ⟨r₀, c, hf.mono himp, hrest⟩
  · refine h.imp_right ?_
    rintro ⟨r₀, c, rest, hf⟩
    exact ⟨r₀, c, rest, hf.mono himp⟩

variable (hseen : ∀ r, seen r → EventsOk r)
include hseen

/-- The loop over the events: the cursor reaches the version of the record once all are yielded. -/
theorem Following.next (h : Following seen g r₀ c rest) : SubscriberOk seen (g.next c (c.newer g.cursor) rest) := by
  cases rest with
  | cons e rest => exact ⟨r₀, { h with }, rfl⟩
  | nil =>
    have hcursor : nextCursor g.cursor (c.newer g.cursor) = c.version :=
      (hseen c h.current).nextCursor ((hseen r₀ h.first).positive.trans h.low) h.high
    have hfollows (pc : SubscriberPc) :
        Following seen { g with pc := pc, cursor := nextCursor g.cursor (c.newer g.cursor) } r₀ c [] :=
      { h with low := hcursor ▸ h.later.version, high := hcursor.le }
    unfold Subscriber.next SubscriberOk
    cases hsettled : c.state.isSettled with
    | true => exact ⟨r₀, c, hfollows _, hcursor, hsettled⟩
    | false => exact ⟨r₀, hfollows _, hcursor⟩

/-- A round: what was delivered and what is newer than the cursor are all events after the snapshot. -/
theorem Following.round (h : Following seen g r₀ c []) (hcursor : g.cursor = c.version) (hc' : seen c')
    (hlater : c.Later c') : SubscriberOk seen (g.round c') := by
  have hdelivered : g.delivered = c.newer r₀.version := by rw [← h.delivered, List.append_nil]
  have hnext : Following seen g r₀ c' (c'.newer g.cursor) :=
    { h with
      current := hc'
      later := h.later.trans hlater
      high := hcursor ▸ hlater.version
      delivered := by
        rw [hdelivered, hcursor]
        exact ((hseen c h.current).newer_later hlater h.later.version).symm }
  exact hnext.next hseen

/-- Subscribing: nothing is newer than the snapshot in itself. -/
theorem Subscriber.Silent.subscribe (h : g.Silent) (hr₀ : seen r₀) : SubscriberOk seen (g.subscribe r₀) := by
  have hfollows : Following seen { g with cursor := r₀.version, snapshot := some r₀ } r₀ r₀ [] :=
    { snapshot := rfl
      first := hr₀
      current := hr₀
      later := .refl r₀
      low := le_rfl
      high := le_rfl
      delivered := by
        rw [(hseen r₀ hr₀).newer_self, List.append_nil]
        exact h.2 }
  exact hfollows.round hseen rfl hr₀ (.refl r₀)

end

/-! ## Runs -/

section
variable {σ : Type} {B : TaskBackend σ} {cfg : ServiceConfig} {n : ℕ} {handler : StreamHandler} {key : TaskKey}

theorem get_exec {s s' : σ} {r : Except ServiceError TaskRecord}
    (h : (services B cfg n).exec (.store (.get key)) s r s') :
    B.view s' = B.view s ∧ ∀ record, r = .ok record → (B.view s).record key = some record := by
  obtain ⟨now, r₀, hexec, rfl⟩ | ⟨rfl, e, rfl, -⟩ := h
  · have heff := B.refines _ _ _ _ _ hexec
    generalize B.view s' = v' at heff
    cases heff with
    | got _ record hrecord => exact ⟨rfl, fun _ h => Except.ok.inj h ▸ hrecord⟩
    | missing => exact ⟨rfl, fun _ h => by cases h⟩
  · exact ⟨rfl, fun _ h => by cases h⟩

theorem waitForChange_exec {version : ℕ} {s s' : σ} {r : Except ServiceError (Option TaskRecord)}
    (h : (services B cfg n).exec (.store (.waitForChange key version)) s r s') :
    B.view s' = B.view s ∧ (∀ c, r = .ok (some c) → (B.view s).record key = some c) ∧
      ∀ e, r = .error e → (B.view s).record key = none ∨ e.IsFault := by
  obtain ⟨now, r₀, hexec, rfl⟩ | ⟨rfl, e, rfl, hfault⟩ := h
  · have heff := B.refines _ _ _ _ _ hexec
    generalize B.view s' = v' at heff
    cases heff with
    | timeout => exact ⟨rfl, fun _ h => (by cases h), fun _ h => by cases h⟩
    | changed _ _ record hrecord =>
      exact ⟨rfl, fun _ h => Option.some.inj (Except.ok.inj h) ▸ hrecord, fun _ h => by cases h⟩
    | waitMissing _ _ hnone => exact ⟨rfl, fun _ h => (by cases h), fun _ _ => .inl hnone⟩
  · exact ⟨rfl, fun _ h => (by cases h), fun _ h => .inr (Except.error.inj h ▸ hfault)⟩

/-- A step of the generator keeps its invariant. -/
theorem SubscriberStep.ok {seen : TaskRecord → Prop} {s s' : σ} {g g' : Subscriber}
    (hseen : ∀ r, seen r → EventsOk r ∧ r.key = key ∧ ∃ r', (B.view s).record key = some r' ∧ r.Later r')
    (hstored : ∀ r, (B.view s).record key = some r → seen r) (h : SubscriberOk seen g)
    (hs : SubscriberStep B cfg n handler key s g s' g') : SubscriberOk seen g' := by
  have hevents : ∀ r, seen r → EventsOk r := fun r hr => (hseen r hr).1
  cases hs with
  | found record hpc hexec =>
    rw [SubscriberOk, hpc] at h
    have hrecord := hstored record ((get_exec hexec).2 record rfl)
    unfold StreamHandler.admitted
    split
    · exact h
    · exact ⟨h, hrecord⟩
  | notFound e hpc =>
    rw [SubscriberOk, hpc] at h
    exact .inl h
  | sent record hpc =>
    rw [SubscriberOk, hpc] at h
    exact h.1.subscribe hevents h.2
  | yielded current events rest e hpc =>
    rw [SubscriberOk, hpc] at h
    obtain ⟨r₀, hfollows, rfl⟩ := h
    have hnext : Following seen { g with delivered := g.delivered ++ [e] } r₀ current rest :=
      { hfollows with
        delivered := by rw [List.append_assoc]; exact hfollows.delivered }
    exact hnext.next hevents
  | changed current changed hpc hexec =>
    rw [SubscriberOk, hpc] at h
    obtain ⟨r₀, hfollows, hcursor⟩ := h
    obtain ⟨-, hkey, r', hr', hlater⟩ := hseen current hfollows.current
    rw [hkey] at hexec
    have hchanged := (waitForChange_exec hexec).2.1 changed rfl
    obtain rfl := Option.some.inj (hr'.symm.trans hchanged)
    exact hfollows.round hevents hcursor (hstored _ hchanged) hlater
  | timedOut current hpc =>
    rw [SubscriberOk, hpc] at h
    obtain ⟨r₀, hfollows, hcursor⟩ := h
    exact hfollows.round hevents hcursor hfollows.current (.refl current)
  | waitRaised current e hpc hexec =>
    rw [SubscriberOk, hpc] at h
    obtain ⟨r₀, hfollows, hcursor⟩ := h
    obtain ⟨-, hkey, r', hr', -⟩ := hseen current hfollows.current
    rw [hkey] at hexec
    -- the Task is still stored, so it was the store that failed
    rcases (waitForChange_exec hexec).2.2 e rfl with hnone | hfault
    · rw [hr'] at hnone
      cases hnone
    · exact .inr ⟨r₀, current, { hfollows with }, hcursor, hfault⟩
  | closed hopen =>
    have hclosed : g.Silent ∨ ∃ r₀ c rest, Following seen g r₀ c rest := by
      unfold SubscriberOk at h
      split at h
      · exact .inl h
      · exact .inl h
      · exact .inl h.1
      · obtain ⟨r₀, hfollows, -⟩ := h
        exact .inr ⟨r₀, _, _, hfollows⟩
      · obtain ⟨r₀, hfollows, -⟩ := h
        exact .inr ⟨r₀, _, _, hfollows⟩
      all_goals exact absurd ‹_› (hopen _)
    refine hclosed.imp id ?_
    rintro ⟨r₀, c, rest, hfollows⟩
    exact ⟨r₀, c, rest, { hfollows with }⟩

variable (B cfg n) in
/-- Runs without a side condition. -/
def freeSetting : Setting σ := ⟨B, cfg, n, False, False⟩

theorem free_ok (w : Machine.World svc Call σ) (l : Machine.Label svc Call) :
    (freeSetting B cfg n).contract.ok w l := by
  cases l with
  | start => trivial
  | run i o r => exact fun p _ => ⟨False.elim, False.elim⟩

variable (B cfg n) in
/-- The invariant of the services. -/
structure ServicesOk (w : Machine.World svc Call σ) : Prop where
  contract : (freeSetting B cfg n).contract.WorldOk w
  events : ∀ key r, (B.view w.shared).record key = some r → EventsOk r

/-- A step of the services keeps the invariant, and moves every Task to a later record. -/
theorem ServicesOk.step {w w' : Machine.World svc Call σ} {l : Machine.Label svc Call}
    (h : ServicesOk B cfg n w) (hs : (services B cfg n).Step w l w') : ServicesOk B cfg n w' ∧
      ∀ key r, (B.view w.shared).record key = some r →
        ∃ r', (B.view w'.shared).record key = some r' ∧ r.Later r' := by
  have hrecords : ∀ key, (∀ r', (B.view w'.shared).record key = some r' → EventsOk r') ∧
      ∀ r, (B.view w.shared).record key = some r →
        ∃ r', (B.view w'.shared).record key = some r' ∧ r.Later r' := by
    intro key
    obtain ⟨i, o, r, p, -, -, hrecord⟩ | hsame := Setting.recordStep h.contract (free_ok w l) hs key
    · exact hrecord.events (h.events key)
    · have hsame : (B.view w'.shared).record key = (B.view w.shared).record key := hsame
      rw [hsame]
      exact ⟨h.events key, fun r hr => ⟨r, hr, .refl r⟩⟩
  exact ⟨⟨h.contract.step Setting.starts (free_ok w l) hs, fun key => (hrecords key).1⟩,
    fun key => (hrecords key).2⟩

/-- The record of the Task. -/
def SubscriptionWorld.stored (B : TaskBackend σ) (key : TaskKey) (w : SubscriptionWorld σ) : Option TaskRecord :=
  (B.view w.services.shared).record key

end

/-! ## What is delivered -/

section
variable {σ : Type} (B : TaskBackend σ) (cfg : ServiceConfig) (n : ℕ) (handler : StreamHandler)
  (key : TaskKey) (w : SubscriptionWorld σ)

variable {B cfg n handler key w} {seen : TaskRecord → Prop}

/-- Once something was sent, the generator follows some record in every position. -/
theorem SubscriberOk.follows {g : Subscriber} {r₀ : TaskRecord} (h : SubscriberOk seen g)
    (hr₀ : g.snapshot = some r₀) : ∃ c rest, Following seen g r₀ c rest ∧
      ((∀ c events rest, g.pc ≠ .yielding c events rest) → g.pc ≠ .ended .closed → rest = []) ∧
      (g.pc = .ended .settled → rest = [] ∧ c.state.isSettled) ∧
      ∀ why, g.pc = .ended why → why = .settled ∨ why = .closed ∨ ∃ e, why = .raised e ∧ e.IsFault := by
  have hsilent : ¬ g.Silent := by
    rintro ⟨hnone, -⟩
    rw [hr₀] at hnone
    cases hnone
  have hsnapshot : ∀ {r c rest}, Following seen g r c rest → Following seen g r₀ c rest := by
    intro r c rest hf
    obtain rfl := Option.some.inj (hf.snapshot.symm.trans hr₀)
    exact hf
  unfold SubscriberOk at h
  split at h
  · exact absurd h hsilent
  · exact absurd h hsilent
  · exact absurd h.1 hsilent
  · next c events rest hpc =>
    obtain ⟨r, hf, -⟩ := h
    rw [hpc]
    exact ⟨c, rest, hsnapshot hf, fun hne => absurd rfl (hne c events rest), nofun, nofun⟩
  · next c hpc =>
    obtain ⟨r, hf, -⟩ := h
    rw [hpc]
    exact ⟨c, [], hsnapshot hf, fun _ _ => rfl, nofun, nofun⟩
  · next hpc =>
    obtain ⟨r, c, hf, -, hsettled⟩ := h
    rw [hpc]
    refine ⟨c, [], hsnapshot hf, fun _ _ => rfl, fun _ => ⟨rfl, hsettled⟩, fun why hwhy => ?_⟩
    exact .inl (SubscriberPc.ended.inj hwhy).symm
  · next e hpc =>
    obtain hnone | ⟨r, c, hf, -, hfault⟩ := h
    · exact absurd hnone hsilent
    · rw [hpc]
      refine ⟨c, [], hsnapshot hf, fun _ _ => rfl, nofun, fun why hwhy => ?_⟩
      exact .inr (.inr ⟨e, (SubscriberPc.ended.inj hwhy).symm, hfault⟩)
  · next hpc =>
    obtain hnone | ⟨r, c, rest, hf⟩ := h
    · exact absurd hnone hsilent
    · rw [hpc]
      refine ⟨c, rest, hsnapshot hf, fun _ hne => absurd rfl hne, nofun, fun why hwhy => ?_⟩
      exact .inr (.inl (SubscriberPc.ended.inj hwhy).symm)

end

end RoutePilot.A2A
