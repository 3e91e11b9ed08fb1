/-
  What the pages of a Task listing enumerate.

  The tokens come back as the offsets they were made of, and the pages of a
  listing make up the list it is cut from.  The filter on the status timestamp
  compares a moment without a timezone to one with, which Python refuses: with
  such a filter a listing enumerates its Tasks only where there is none to
  compare.
-/
import RoutePilot.A2A.Listing
import RoutePilot.Lib.EState

namespace RoutePilot.A2A

open Lib

/-! ## Page tokens -/

theorem toString_digits (n : ℕ) : (toString n).toList = Nat.toDigits 10 n := by
  rw [show toString n = String.ofList (Nat.toDigits 10 n) from rfl, String.toList_ofList]

theorem isDigit_of_mem {n : ℕ} {c : Char} (h : c ∈ Nat.toDigits 10 n) : 48 ≤ c.toNat ∧ c.toNat ≤ 57 := by
  have := Nat.isDigit_of_mem_toDigits (by decide) (by decide) h
  simp only [Char.isDigit, Bool.and_eq_true, decide_eq_true_eq] at this
  exact ⟨this.1, this.2⟩

theorem parseDigits_toDigits (n : ℕ) : parseDigits (Nat.toDigits 10 n) = some n := by
  have hplain : '_' ∉ Nat.toDigits 10 n := fun h => absurd (isDigit_of_mem h).2 (by decide)
  have hall : (Nat.toDigits 10 n).all Char.isDigit :=
    List.all_eq_true.2 fun c hc => Nat.isDigit_of_mem_toDigits (by decide) (by decide) hc
  have hne : (Nat.toDigits 10 n).isEmpty = false := by
    rw [List.isEmpty_eq_false_iff]
    exact Nat.toDigits_ne_nil
  have hfilter : (Nat.toDigits 10 n).filter (· ≠ '_') = Nat.toDigits 10 n :=
    List.filter_eq_self.2 fun c hc => by
      have : c ≠ '_' := fun h => hplain (h ▸ hc)
      simpa using this
  unfold parseDigits
  rw [List.splitOn_eq_singleton hplain, hfilter, Nat.ofDigitChars_ten_toDigits]
  simp [hall, hne]

theorem parseInt_toDigits (n : ℕ) : parseInt (Nat.toDigits 10 n) = some (n : ℤ) := by
  have hspace : ∀ c ∈ Nat.toDigits 10 n, isSpace c = false := by
    intro c hc
    have hdigit := isDigit_of_mem hc
    have hblank : c ≠ ' ' := by
      rintro rfl
      exact absurd hdigit.1 (by decide)
    simp only [isSpace, hblank, decide_false, Bool.false_or, Bool.and_eq_false_iff, decide_eq_false_iff_not]
    right
    omega
  have hleft : (Nat.toDigits 10 n).dropWhile isSpace = Nat.toDigits 10 n :=
    List.dropWhile_eq_self_iff.2 fun hpos => by simp [hspace _ (List.getElem_mem hpos)]
  have hright : (Nat.toDigits 10 n).rdropWhile isSpace = Nat.toDigits 10 n :=
    List.rdropWhile_eq_self_iff.2 fun hne => by simp [hspace _ (List.getLast_mem hne)]
  have hminus : '-' ∉ Nat.toDigits 10 n := fun h => absurd (isDigit_of_mem h).1 (by decide)
  have hplus : '+' ∉ Nat.toDigits 10 n := fun h => absurd (isDigit_of_mem h).1 (by decide)
  unfold parseInt
  rw [hleft, hright]
  split
  · next heq => exact absurd (heq ▸ List.mem_cons_self ..) hminus
  · next heq => exact absurd (heq ▸ List.mem_cons_self ..) hplus
  · rw [parseDigits_toDigits]
    rfl

/-- The bytes of an offset's numeral. -/
def offsetBytes (n : ℕ) : List ℕ := (toString n).toList.map Char.toNat

theorem offsetBytes_lt (n : ℕ) : ∀ b ∈ offsetBytes n, b < 128 := by
  intro b hb
  obtain ⟨c, hc, rfl⟩ := List.mem_map.1 hb
  rw [toString_digits] at hc
  have := isDigit_of_mem hc
  omega

theorem decodeAscii_offsetBytes (n : ℕ) : decodeAscii (offsetBytes n) = some (Nat.toDigits 10 n) := by
  have hall : (offsetBytes n).all (· < 128) := List.all_eq_true.2 fun b hb => by simpa using offsetBytes_lt n b hb
  unfold decodeAscii
  rw [if_pos hall, offsetBytes, List.map_map, ← toString_digits]
  congr 1
  exact (List.map_congr_left fun c _ => by simp).trans (List.map_id _)

theorem pageToken_toList (n : ℕ) : (pageToken n).toList = Base64.text (offsetBytes n) := by
  rw [pageToken, String.toList_ofList]
  exact Base64.rdropWhile_encode fun b hb => (offsetBytes_lt n b hb).trans (by decide)

/-- A token is not empty, which would mean that there is no further page. -/
theorem pageToken_ne (n : ℕ) : pageToken n ≠ "" := by
  intro h
  have hlist := pageToken_toList n
  rw [h, offsetBytes, toString_digits] at hlist
  cases hd : Nat.toDigits 10 n with
  | nil => exact Nat.toDigits_ne_nil hd
  | cons c cs =>
    rw [hd, List.map_cons] at hlist
    rcases cs with _ | ⟨c', _ | ⟨c'', cs⟩⟩ <;> simp [Base64.text] at hlist

theorem pageOffset_pageToken (n : ℕ) : pageOffset (pageToken n) = .ok n := by
  have hbytes : ∀ b ∈ offsetBytes n, b < 256 := fun b hb => (offsetBytes_lt n b hb).trans (by decide)
  have hascii : (pageToken n).toList.all (·.toNat < 128) := by
    rw [pageToken_toList]
    exact List.all_eq_true.2 fun c hc => by
      simpa using Base64.forall_text (P := (·.toNat < 128)) Base64.digit_ascii hbytes c hc
  have hdecode : Base64.decode ((pageToken n).toList ++ ['=', '=', '=']) = some (offsetBytes n) := by
    rw [pageToken_toList]
    exact Base64.decode_text 0 hbytes
  unfold pageOffset
  rw [if_neg (pageToken_ne n), if_pos hascii, hdecode]
  simp only [Option.bind_eq_bind, Option.bind_some, decodeAscii_offsetBytes, parseInt_toDigits]
  rw [if_neg (by omega), Int.toNat_natCast]

/-! ## The records of a listing -/

theorem before_trans {a b c : TaskRecord} (h : a.Before b) (h' : b.Before c) : a.Before c := by
  rcases h with h | ⟨h, hid⟩ <;> rcases h' with h' | ⟨h', hid'⟩
  · exact .inl (h.trans h')
  · exact .inl (h' ▸ h)
  · exact .inl (h ▸ h')
  · exact .inr ⟨h.trans h', String.le_trans hid hid'⟩

theorem before_total (a b : TaskRecord) : a.Before b ∨ b.Before a := by
  rcases lt_trichotomy a.created b.created with h | h | h
  · exact .inl (.inl h)
  · rcases String.le_total a.task.id b.task.id with hid | hid
    · exact .inl (.inr ⟨h, hid⟩)
    · exact .inr (.inr ⟨h.symm, hid⟩)
  · exact .inr (.inl h)

/-- A Task of a tenant and an interface that a request's context and state ask for. -/
structure Asked (actor : Actor) (interfaceId : String) (params : ListTasksRequest)
    (e : TaskKey × TaskRecord) : Prop where
  tenant : e.1.1 = actor.tenantId
  interface : e.1.2.1 = interfaceId
  context : params.contextId = "" ∨ e.2.task.contextId = params.contextId
  state : ∀ state ∈ params.status, e.2.state = state

/-- The status of a Task is newer than a request asks for. -/
def Newer (params : ListTasksRequest) (r : TaskRecord) : Prop :=
  ∀ timestamp ∈ params.statusTimestampAfter, ∃ updatedAt ∈ r.updatedAt, timestamp < updatedAt

instance (actor : Actor) (interfaceId : String) (params : ListTasksRequest) :
    DecidablePred (Asked actor interfaceId params) := fun e =>
  decidable_of_iff (e.1.1 = actor.tenantId ∧ e.1.2.1 = interfaceId ∧
      (params.contextId = "" ∨ e.2.task.contextId = params.contextId) ∧ ∀ state ∈ params.status, e.2.state = state)
    ⟨fun ⟨h₁, h₂, h₃, h₄⟩ => ⟨h₁, h₂, h₃, h₄⟩, fun ⟨h₁, h₂, h₃, h₄⟩ => ⟨h₁, h₂, h₃, h₄⟩⟩

instance (params : ListTasksRequest) : DecidablePred (Newer params) := fun _ =>
  inferInstanceAs (Decidable (∀ timestamp ∈ params.statusTimestampAfter, _))

/-- The Tasks of a store that a request's context and state ask for. -/
def asked (st : TaskStore) (actor : Actor) (interfaceId : String) (params : ListTasksRequest) :
    List TaskRecord :=
  (st.records.entries.filter fun e => Asked actor interfaceId params e).map (·.2)

/-- The Tasks of a store that match a request. -/
def matching (st : TaskStore) (actor : Actor) (interfaceId : String) (params : ListTasksRequest) :
    List TaskRecord :=
  (asked st actor interfaceId params).filter fun r => Newer params r

/-- What `on_list_tasks` asks of the store. -/
def contextOf (params : ListTasksRequest) : Option String :=
  if params.contextId = "" then none else some params.contextId

theorem list_eq (st : TaskStore) (actor : Actor) (interfaceId : String) (params : ListTasksRequest) :
    st.list actor.tenantId interfaceId (contextOf params) params.status =
      (asked st actor interfaceId params).mergeSort fun r r' => r.Before r' := by
  unfold TaskStore.list asked
  congr 2
  refine List.filter_congr fun e _ => ?_
  rw [Bool.eq_iff_iff, decide_eq_true_iff]
  simp only [Bool.and_eq_true, decide_eq_true_eq, Option.all_eq_true, contextOf]
  constructor
  · rintro ⟨⟨⟨htenant, hinterface⟩, hcontext⟩, hstate⟩
    refine ⟨htenant, hinterface, ?_, hstate⟩
    by_cases hall : params.contextId = ""
    · exact .inl hall
    · exact .inr (hcontext _ (if_neg hall))
  · rintro ⟨htenant, hinterface, hcontext, hstate⟩
    refine ⟨⟨⟨htenant, hinterface⟩, fun context hmem => ?_⟩, hstate⟩
    split at hmem
    · cases hmem
    · next hall =>
      obtain rfl := Option.mem_some_iff.1 hmem
      exact hcontext.resolve_left hall

/-- Any record with a moment to compare fails the comparison. -/
theorem updatedAfter_eq (timestamp : Time) (records : List TaskRecord) :
    updatedAfter (toDatetime timestamp) records =
      if ∀ r ∈ records, r.updatedAt = none then .ok [] else .error (.exception "TypeError") := by
  induction records with
  | nil => simp [updatedAfter]
  | cons r rs ih =>
    rw [updatedAfter]
    cases hupdated : r.updatedAt with
    | none =>
      simp only [ok_bind, ih, List.forall_mem_cons, hupdated, true_and]
      split <;> rfl
    | some t =>
      rw [if_neg (by simp [hupdated])]
      rfl

/-! ## The pages -/

section
variable (list : String → Except ServiceError ListTasksResponse)

/-- The pages that one gets by following `next_page_token` until there is none. -/
inductive Pages : String → List ListTasksResponse → Prop where
  | last {token : String} {page : ListTasksResponse} (h : list token = .ok page)
      (hend : page.nextPageToken = "") : Pages token [page]
  | next {token : String} {page : ListTasksResponse} {pages : List ListTasksResponse}
      (h : list token = .ok page) (hmore : page.nextPageToken ≠ "")
      (hrest : Pages page.nextPageToken pages) : Pages token (page :: pages)

variable {list}

theorem Pages.first_ok {token : String} {pages : List ListTasksResponse} (h : Pages list token pages) :
    ∃ page, list token = .ok page := by
  cases h with
  | last h => exact ⟨_, h⟩
  | next h => exact ⟨_, h⟩

end

/-- Pages enumerate Tasks: each once, oldest first, and each page with their number. -/
structure Enumerates (includeArtifacts : Bool) (tasks : List TaskRecord) (pages : List ListTasksResponse) :
    Prop where
  each : ∃ records : List TaskRecord, records.Perm tasks ∧ records.Pairwise (·.Before ·) ∧
    pages.flatMap (·.tasks) = records.map fun r => projectTask includeArtifacts r.task
  total : ∀ page ∈ pages, page.totalSize = tasks.length

section
variable (records : List TaskRecord) (size : ℕ) (includeArtifacts : Bool)

/-- The page from an offset. -/
def pageAt (offset : ℕ) : ListTasksResponse where
  tasks := ((records.drop offset).take size).map fun record => projectTask includeArtifacts record.task
  nextPageToken :=
    if offset + ((records.drop offset).take size).length < records.length
    then pageToken (offset + ((records.drop offset).take size).length) else ""
  pageSize := ((records.drop offset).take size).length
  totalSize := records.length

variable {records size includeArtifacts} {list : String → Except ServiceError ListTasksResponse}

/-- The pages from an offset make up what is left of the records. -/
theorem pages_from (hsize : 0 < size)
    (hlist : ∀ token offset, pageOffset token = .ok offset →
      list token = .ok (pageAt records size includeArtifacts offset)) {left offset : ℕ} {token : String}
    (hleft : records.length - offset ≤ left) (htoken : pageOffset token = .ok offset) :
    ∃ pages, Pages list token pages ∧
      pages.flatMap (·.tasks) =
        (records.drop offset).map (fun record => projectTask includeArtifacts record.task) ∧
      ∀ page ∈ pages, page.totalSize = records.length := by
  induction left generalizing offset token with
  | zero =>
    -- nothing is left, and the page is empty
    have hnil : records.drop offset = [] := List.drop_eq_nil_of_le (by omega)
    refine ⟨[_], .last (hlist token offset htoken) ?_, ?_, ?_⟩
    · rw [pageAt]
      simp only [hnil, List.take_nil, List.length_nil]
      rw [if_neg (by omega)]
    · simp [pageAt, hnil]
    · simp [pageAt]
  | succ left ih =>
    by_cases hmore : offset + ((records.drop offset).take size).length < records.length
    · have hlen : ((records.drop offset).take size).length = size := by
        rw [List.length_take, List.length_drop] at hmore ⊢
        omega
      have hnext : (pageAt records size includeArtifacts offset).nextPageToken = pageToken (offset + size) := by
        rw [pageAt, hlen]
        rw [hlen] at hmore
        exact if_pos hmore
      obtain ⟨pages, hpages, htasks, htotal⟩ := ih (show records.length - (offset + size) ≤ left by omega)
        (pageOffset_pageToken (offset + size))
      refine ⟨_, .next (hlist token offset htoken) ?_ (hnext ▸ hpages), ?_, ?_⟩
      · rw [hnext]
        exact pageToken_ne _
      · rw [List.flatMap_cons, htasks, ← List.drop_drop]
        simp only [pageAt]
        rw [← List.map_append, List.take_append_drop]
      · exact List.forall_mem_cons.2 ⟨rfl, htotal⟩
    · have hwhole : (records.drop offset).take size = records.drop offset := by
        rw [List.length_take, List.length_drop] at hmore
        exact List.take_of_length_le (by rw [List.length_drop]; omega)
      refine ⟨[_], .last (hlist token offset htoken) (if_neg hmore), ?_, ?_⟩
      · simp [pageAt, hwhole]
      · simp [pageAt]

end

/-! ## The listing -/

/-- A request of an actor of its tenant, for a curated interface, with sizes in their bounds. -/
structure Served (registered : String → Bool) (actor : Actor) (interfaceId : String)
    (params : ListTasksRequest) : Prop where
  tenant : params.tenant ≠ "" ∧ params.tenant = actor.tenantId
  interface : registered interfaceId = true
  pageSize : 1 ≤ params.pageSize ∧ params.pageSize ≤ 100
  historyLength : 0 ≤ params.historyLength ∧ params.historyLength ≤ 100

section
variable {registered : String → Bool} {st : TaskStore} {actor : Actor} {interfaceId : String}
  {params : ListTasksRequest}

/-- What `on_list_tasks` does with the records it lists. -/
theorem onListTasks_eq (h : Served registered actor interfaceId params) (token : String) :
    onListTasks registered st actor interfaceId { params with pageToken := token } =
      ((match params.statusTimestampAfter with
        | some timestamp => updatedAfter (toDatetime timestamp)
            ((asked st actor interfaceId params).mergeSort fun r r' => r.Before r')
        | none => .ok ((asked st actor interfaceId params).mergeSort fun r r' => r.Before r')) >>= fun records =>
          (pageOffset token).map fun offset =>
            pageAt records params.pageSize.toNat params.includeArtifacts offset) := by
  have hsize := h.pageSize
  have hhistory := h.historyLength
  unfold onListTasks listTasks
  simp only [if_neg (show ¬ params.pageSize = 0 by omega), if_neg (not_not.2 hsize),
    if_neg (show ¬ (params.historyLength < 0 ∨ 100 < params.historyLength) by omega),
    if_neg (show ¬ (params.tenant = "" ∨ params.tenant ≠ actor.tenantId) by
      rw [not_or, not_not]; exact h.tenant), h.interface, Bool.not_true, Bool.false_eq_true, if_false]
  have hlist := list_eq st actor interfaceId params
  unfold contextOf at hlist
  rw [hlist]
  cases params.statusTimestampAfter with
  | none =>
    cases pageOffset token with
    | error e => simp [Except.map]
    | ok offset => simp [Except.map, pageAt]
  | some timestamp =>
    simp only [ok_bind]
    cases updatedAfter (toDatetime timestamp)
        ((asked st actor interfaceId params).mergeSort fun r r' => r.Before r') with
    | error e => rfl
    | ok records =>
      cases pageOffset token with
      | error e => simp [Except.map]
      | ok offset => simp [Except.map, pageAt]

/-- What is listed: all that were asked for, or none of them. -/
theorem listed (hserved : Served registered actor interfaceId params)
    (hwhen : params.statusTimestampAfter = none ∨ ∀ r ∈ asked st actor interfaceId params, r.updatedAt = none) :
    ∃ records : List TaskRecord,
      records.Perm (matching st actor interfaceId params) ∧ records.Pairwise (·.Before ·) ∧
      ∀ token offset, pageOffset token = .ok offset →
        onListTasks registered st actor interfaceId { params with pageToken := token } =
          .ok (pageAt records params.pageSize.toNat params.includeArtifacts offset) := by
  obtain htimestamp | ⟨timestamp, htimestamp⟩ := Option.eq_none_or_eq_some params.statusTimestampAfter
  · refine ⟨(asked st actor interfaceId params).mergeSort fun r r' => r.Before r', ?_, ?_, ?_⟩
    · have hall : matching st actor interfaceId params = asked st actor interfaceId params :=
        List.filter_eq_self.2 fun r _ => by simp [Newer, htimestamp]
      rw [hall]
      exact List.mergeSort_perm _ _
    · have hpair := @List.pairwise_mergeSort _ (fun r r' : TaskRecord => decide (r.Before r'))
        (fun a b c hab hbc => by simpa using before_trans (by simpa using hab) (by simpa using hbc))
        (fun a b => by simpa using before_total a b) (asked st actor interfaceId params)
      exact hpair.imp fun h => by simpa using h
    · intro token offset htoken
      rw [onListTasks_eq hserved, htimestamp, htoken]
      rfl
  · have hnone : ∀ r ∈ asked st actor interfaceId params, r.updatedAt = none := by
      rcases hwhen with h | h
      · rw [htimestamp] at h
        cases h
      · exact h
    refine ⟨[], ?_, .nil, ?_⟩
    · have hempty : matching st actor interfaceId params = [] :=
        List.filter_eq_nil_iff.2 fun r hr => by simp [Newer, htimestamp, hnone r hr]
      rw [hempty]
    · intro token offset htoken
      rw [onListTasks_eq hserved, htimestamp]
      simp only [updatedAfter_eq]
      rw [if_pos fun r hr => hnone r (List.mem_mergeSort.1 hr), htoken]
      rfl

/-- A listing that answers has nothing to compare. -/
theorem when_of_ok (hserved : Served registered actor interfaceId params) {token : String}
    {page : ListTasksResponse}
    (h : onListTasks registered st actor interfaceId { params with pageToken := token } = .ok page) :
    params.statusTimestampAfter = none ∨ ∀ r ∈ asked st actor interfaceId params, r.updatedAt = none := by
  rw [onListTasks_eq hserved] at h
  cases htimestamp : params.statusTimestampAfter with
  | none => exact .inl rfl
  | some timestamp =>
    right
    rw [htimestamp] at h
    simp only [updatedAfter_eq] at h
    split at h
    · next hnone => exact fun r hr => hnone r (List.mem_mergeSort.2 hr)
    · cases h

end

/-- The tokens of `on_list_tasks` come back as their offsets; following them from no token ends with
    pages that enumerate the matching Tasks exactly if no status timestamp is asked for, or no Task has
    a moment to compare it to. -/
theorem task_pages_iff (registered : String → Bool) (st : TaskStore) (actor : Actor) (interfaceId : String)
    (params : ListTasksRequest) (hserved : Served registered actor interfaceId params) :
    (∀ n, pageOffset (pageToken n) = .ok n) ∧
      ((∃ pages, Pages (fun token => onListTasks registered st actor interfaceId
            { params with pageToken := token }) "" pages ∧
          Enumerates params.includeArtifacts (matching st actor interfaceId params) pages) ↔
        params.statusTimestampAfter = none ∨ ∀ r ∈ asked st actor interfaceId params, r.updatedAt = none) := by
  refine ⟨pageOffset_pageToken, ?_, fun hwhen => ?_⟩
  · rintro ⟨pages, hpages, -⟩
    obtain ⟨page, hpage⟩ := hpages.first_ok
    exact when_of_ok hserved hpage
  · obtain ⟨records, hperm, hsorted, hrecords⟩ := listed hserved hwhen
    have hsize := hserved.pageSize
    obtain ⟨pages, hpages, htasks, htotal⟩ := pages_from (show 0 < params.pageSize.toNat by omega) hrecords
      le_rfl (show pageOffset "" = .ok 0 from if_pos rfl)
    exact ⟨pages, hpages, ⟨records, hperm, hsorted, htasks⟩, fun page hpage =>
      (htotal page hpage).trans hperm.length_eq⟩

namespace Listed

def actor : Actor := ⟨"tenant", "actor"⟩

/-- A submitted Task of the tenant. -/
def record (id : String) (created : Time) : TaskRecord :=
  { (default : TaskRecord) with
    tenantId := "tenant", agentInterfaceId := "planner"
    task := { id := id, contextId := "context", status := ⟨.submitted, created, none⟩ }
    createdAt := some created, updatedAt := some created }

/-- Two Tasks, the younger one stored first. -/
def store : TaskStore :=
  { records := ⟨[(("tenant", "planner", "task_2"), record "task_2" 2),
      (("tenant", "planner", "task_1"), record "task_1" 1)]⟩ }

def request : ListTasksRequest := { tenant := "tenant", pageSize := 1 }

/-- The Tasks with a status after the first moment. -/
def recent : ListTasksRequest := { request with statusTimestampAfter := some 0 }

theorem served : Served (fun _ => true) actor "planner" request :=
  ⟨⟨by decide, rfl⟩, rfl, by decide, by decide⟩

theorem recent_served : Served (fun _ => true) actor "planner" recent :=
  ⟨⟨by decide, rfl⟩, rfl, by decide, by decide⟩

theorem recent_compares : ∃ r ∈ asked store actor "planner" recent, r.updatedAt = some 2 :=
  ⟨record "task_2" 2, List.mem_map_of_mem (List.mem_filter.2 ⟨List.mem_cons_self .., by decide⟩), rfl⟩

end Listed

/-- Two Tasks on pages of one. -/
theorem task_pages_two : ∃ pages, Pages (fun token => onListTasks (fun _ => true) Listed.store Listed.actor
      "planner" { Listed.request with pageToken := token }) "" pages ∧
    Enumerates false (matching Listed.store Listed.actor "planner" Listed.request) pages :=
  (task_pages_iff _ _ _ _ _ Listed.served).2.2 (.inl rfl)

/-- With a status timestamp the same listing raises. -/
theorem timestamp_filter_raises : ¬ ∀ (registered : String → Bool) (st : TaskStore) (actor : Actor)
    (interfaceId : String) (params : ListTasksRequest), Served registered actor interfaceId params →
    ∃ pages, Pages (fun token => onListTasks registered st actor interfaceId
        { params with pageToken := token }) "" pages ∧
      Enumerates params.includeArtifacts (matching st actor interfaceId params) pages := by
  intro h
  obtain ⟨pages, hpages, -⟩ := h _ Listed.store _ _ _ Listed.recent_served
  obtain ⟨page, hpage⟩ := hpages.first_ok
  obtain ⟨r, hr, hupdated⟩ := Listed.recent_compares
  rcases when_of_ok Listed.recent_served hpage with hwhen | hwhen
  · cases hwhen
  · rw [hwhen r hr] at hupdated
    cases hupdated

end RoutePilot.A2A
