import DeviceManager.LifecycleAdapter

namespace DeviceManager.StateQuery

open Domain Transition LifecycleAdapter

/-- Fewer than 2^64 events are behind the query. -/
def recent (a : Adapter) (query : Query) : Prop := a.log.length < query.older.length + 2 ^ 64

instance (a : Adapter) (query : Query) : Decidable (recent a query) :=
  inferInstanceAs (Decidable (_ < _))

/-- No query is answered so late that its numbers have come round. -/
def timely (a : Adapter) : CacheAction → Bool
  | .response index _ =>
    match a.outstanding[index]? with
    | some query => decide (recent a query)
    | none => true
  | _ => true

/-- The response would close the query that the flag stands for. -/
def active (a : Adapter) (query : Query) : Prop :=
  a.cache.queryInFlight = true ∧ a.cache.activeQueryToken = query.token

def since (a : Adapter) (query : Query) : List CacheEvent :=
  a.log.take (a.log.length - (query.older.length + 1))

theorem log_since {a : Adapter} {query : Query} (h : .issued :: query.older <:+ a.log) :
    a.log = since a query ++ .issued :: query.older := by
  obtain ⟨newer, hn⟩ := h
  have hlength : a.log.length - (query.older.length + 1) = newer.length := by
    rw [← hn, List.length_append, List.length_cons]
    omega
  rw [since, hlength, ← hn, List.take_left]

theorem issues_since {a : Adapter} {query : Query} (h : .issued :: query.older <:+ a.log) :
    issues a.log = issues (since a query) + query.number := by
  conv_lhs => rw [log_since h]
  rw [issues, List.countP_append, List.countP_cons_of_pos (by simp)]
  rfl

theorem bumped_since {a : Adapter} {query : Query} (h : .issued :: query.older <:+ a.log) :
    bumped a.log = bumped (since a query) + bumped query.older := by
  conv_lhs => rw [log_since h]
  rw [bumped, List.countP_append, List.countP_cons_of_neg (by simp [CacheEvent.bumps])]
  rfl

theorem length_since {a : Adapter} {query : Query} (hr : recent a query) :
    (since a query).length < 2 ^ 64 := by
  rw [since, List.length_take]
  unfold recent at hr
  omega

theorem ofNat_inj {m n : Nat} (hle : n ≤ m) (hlt : m < n + 2 ^ 64) :
    UInt64.ofNat m = UInt64.ofNat n ↔ m = n := by
  refine ⟨fun h => ?_, fun h => congrArg _ h⟩
  have hmod := congrArg UInt64.toNat h
  rw [UInt64.toNat_ofNat', UInt64.toNat_ofNat'] at hmod
  omega

/-- How the counters of the cache and of its queries stand to the history. -/
structure Numbered (a : Adapter) : Prop where
  token : a.cache.queryToken = UInt64.ofNat (issues a.log)
  active : a.cache.activeQueryToken = UInt64.ofNat (issues a.log)
  generation : a.cache.generation = UInt64.ofNat (bumped a.log)
  query : ∀ query ∈ a.outstanding, .issued :: query.older <:+ a.log ∧
    query.token = UInt64.ofNat query.number ∧ query.generation = UInt64.ofNat (bumped query.older)
  ordered : a.outstanding.Pairwise fun p q => p.number < q.number

structure Coherent (a : Adapter) : Prop extends Numbered a where
  inFlight : a.cache.queryInFlight = true ↔ ∃ query ∈ a.outstanding, query.number = issues a.log

theorem number_le {a : Adapter} (h : Numbered a) {query : Query} (hq : query ∈ a.outstanding) :
    query.number ≤ issues a.log := by
  rw [issues_since (h.query query hq).1]
  exact Nat.le_add_left _ _

/-- A recent query has the active token while none has been issued behind it. -/
theorem token_iff {a : Adapter} (h : Numbered a) {query : Query} (hq : query ∈ a.outstanding)
    (hr : recent a query) :
    a.cache.activeQueryToken = query.token ↔ query.number = issues a.log := by
  obtain ⟨hs, ht, -⟩ := h.query query hq
  have hcount := issues_since hs
  have hlength : issues (since a query) ≤ (since a query).length := List.countP_le_length
  rw [h.active, ht, ofNat_inj (number_le h hq) (by have := length_since hr; omega)]
  exact eq_comm

theorem generation_iff {a : Adapter} (h : Numbered a) {query : Query} (hq : query ∈ a.outstanding)
    (hr : recent a query) :
    a.cache.generation = query.generation ↔ ∀ event ∈ since a query, event.bumps = false := by
  obtain ⟨hs, -, hg⟩ := h.query query hq
  have hcount := bumped_since hs
  have hlength : bumped (since a query) ≤ (since a query).length := List.countP_le_length
  rw [h.generation, hg, ofNat_inj (by omega) (by have := length_since hr; omega)]
  have hzero : bumped (since a query) = 0 ↔ ∀ event ∈ since a query, ¬ event.bumps = true :=
    List.countP_eq_zero
  simp only [Bool.not_eq_true] at hzero
  rw [← hzero]
  omega

theorem newest_iff {a : Adapter} (h : Numbered a) {query : Query} (hq : query ∈ a.outstanding) :
    query.number = issues a.log ↔ .issued ∉ since a query := by
  have hcount := issues_since (h.query query hq).1
  have hzero : issues (since a query) = 0 ↔ ∀ event ∈ since a query, ¬ decide (event = .issued) = true :=
    List.countP_eq_zero
  have hmem : (∀ event ∈ since a query, ¬ decide (event = .issued) = true) ↔
      .issued ∉ since a query := by
    refine ⟨fun hall hm => hall _ hm (by simp), fun hnot event hm hd => ?_⟩
    rw [of_decide_eq_true hd] at hm
    exact hnot hm
  rw [← hmem, ← hzero]
  omega

theorem number_inj {a : Adapter} (h : Numbered a) {i j : Nat} {p q : Query}
    (hp : a.outstanding[i]? = some p) (hq : a.outstanding[j]? = some q)
    (hn : p.number = q.number) : i = j := by
  have hless : ∀ {i j : Nat} {p q : Query}, a.outstanding[i]? = some p →
      a.outstanding[j]? = some q → i < j → p.number < q.number := by
    intro i j p q hp hq hij
    obtain ⟨hi, rfl⟩ := List.getElem?_eq_some_iff.mp hp
    obtain ⟨hj, rfl⟩ := List.getElem?_eq_some_iff.mp hq
    exact List.pairwise_iff_getElem.mp h.ordered i j hi hj hij
  obtain hij | hij | hij := Nat.lt_trichotomy i j
  · have := hless hp hq hij
    omega
  · exact hij
  · have := hless hq hp hij
    omega

theorem numbered_silent {a b : Adapter} (h : Numbered a) {event : CacheEvent}
    (hi : event ≠ .issued) (hlog : b.log = event :: a.log)
    (htoken : b.cache.queryToken = a.cache.queryToken)
    (hactive : b.cache.activeQueryToken = a.cache.activeQueryToken)
    (hgeneration : b.cache.generation = if event.bumps then a.cache.generation + 1
      else a.cache.generation)
    (hqueries : b.outstanding.Sublist a.outstanding) : Numbered b := by
  have hissues : issues b.log = issues a.log := by
    rw [hlog, issues, List.countP_cons_of_neg (by simpa using hi)]
    rfl
  refine ⟨?_, ?_, ?_, ?_, h.ordered.sublist hqueries⟩
  · rw [htoken, h.token, hissues]
  · rw [hactive, h.active, hissues]
  · rw [hgeneration, h.generation, hlog]
    split
    · next hb =>
      have hbumped : bumped (event :: a.log) = bumped a.log + 1 := List.countP_cons_of_pos hb
      rw [hbumped, UInt64.ofNat_add]
      rfl
    · next hb =>
      have hbumped : bumped (event :: a.log) = bumped a.log := List.countP_cons_of_neg hb
      rw [hbumped]
  · intro query hm
    obtain ⟨hs, hrest⟩ := h.query query (hqueries.mem hm)
    rw [hlog]
    exact ⟨hs.trans (List.suffix_cons _ _), hrest⟩

theorem issues_issued (log : List CacheEvent) : issues (.issued :: log) = issues log + 1 :=
  List.countP_cons_of_pos (by simp)

theorem bumped_issued (log : List CacheEvent) : bumped (.issued :: log) = bumped log :=
  List.countP_cons_of_neg (by simp [CacheEvent.bumps])

theorem coherent_issue {a : Adapter} (h : Numbered a) (now : ℤ) (sent : Option ℤ) :
    Coherent (a.issue now sent) := by
  have htoken : a.cache.queryToken + 1 = UInt64.ofNat (issues (.issued :: a.log)) := by
    rw [h.token, issues_issued, UInt64.ofNat_add]
    rfl
  have hgeneration : a.cache.generation = UInt64.ofNat (bumped (.issued :: a.log)) := by
    rw [h.generation, bumped_issued]
  have hquery : ∀ query ∈ a.outstanding, .issued :: query.older <:+ .issued :: a.log ∧
      query.token = UInt64.ofNat query.number ∧
      query.generation = UInt64.ofNat (bumped query.older) := by
    intro query hm
    obtain ⟨hs, hrest⟩ := h.query query hm
    exact ⟨hs.trans (List.suffix_cons _ _), hrest⟩
  have hless : ∀ query ∈ a.outstanding, query.number < issues (.issued :: a.log) := by
    intro query hm
    rw [issues_issued]
    exact Nat.lt_succ_of_le (number_le h hm)
  cases sent with
  | none =>
    refine ⟨⟨htoken, htoken, hgeneration, hquery, h.ordered⟩, ?_⟩
    refine iff_of_false Bool.false_ne_true ?_
    rintro ⟨query, hm, hn⟩
    exact absurd hn (Nat.ne_of_lt (hless query hm))
  | some requestId =>
    have hnew : (⟨a.cache.generation, a.cache.queryToken + 1, a.log⟩ : Query).number =
        issues (.issued :: a.log) := (issues_issued a.log).symm
    refine ⟨⟨htoken, htoken, hgeneration, ?_, ?_⟩, ?_⟩
    · intro query hm
      obtain hm | hm := List.mem_append.mp hm
      · exact hquery query hm
      · obtain rfl := List.mem_singleton.mp hm
        exact ⟨List.suffix_refl _, htoken.trans (by rw [hnew]), h.generation⟩
    · refine List.pairwise_append.mpr ⟨h.ordered, List.pairwise_singleton _ _, ?_⟩
      intro query hm other ho
      obtain rfl := List.mem_singleton.mp ho
      rw [hnew]
      exact hless query hm
    · refine iff_of_true rfl ⟨_, List.mem_append_right _ (List.mem_singleton_self _), hnew⟩

theorem coherent_write {a : Adapter} (h : Coherent a) (state : UInt8) {event : CacheEvent}
    (hb : event.bumps = true) : Coherent (a.write state event) := by
  have hi : event ≠ .issued := by
    rintro rfl
    cases hb
  have hissues : issues (event :: a.log) = issues a.log :=
    List.countP_cons_of_neg (by simpa using hi)
  refine ⟨numbered_silent h.toNumbered hi rfl rfl rfl ?_ (List.Sublist.refl _), ?_⟩
  · rw [if_pos hb]
    rfl
  · refine h.inFlight.trans (exists_congr fun query => and_congr_right fun _ => ?_)
    show _ ↔ query.number = issues (event :: a.log)
    rw [hissues]

theorem numbered_expire {a : Adapter} (h : Numbered a) : Numbered a.expire :=
  numbered_silent h (by simp) rfl rfl rfl rfl (List.Sublist.refl _)

theorem answer_other {cache : StateCache} {query : Query} (h : cache.activeQueryToken ≠ query.token)
    (reply : Option UInt8) : cache.answer query reply = cache := if_neg h

theorem answer_flag {cache : StateCache} {query : Query} (h : cache.activeQueryToken = query.token)
    (reply : Option UInt8) : (cache.answer query reply).queryInFlight = false := by
  unfold StateCache.answer
  rw [if_pos h]

theorem coherent_respond {a : Adapter} (h : Coherent a) {index : Nat} {query : Query}
    (hq : a.outstanding[index]? = some query) (hr : recent a query) (reply : Option UInt8) :
    Coherent (a.respond index query reply) := by
  have hm : query ∈ a.outstanding := List.mem_of_getElem? hq
  have hcache : (a.cache.answer query reply).queryToken = a.cache.queryToken ∧
      (a.cache.answer query reply).activeQueryToken = a.cache.activeQueryToken ∧
      (a.cache.answer query reply).generation = a.cache.generation := by
    unfold StateCache.answer
    split <;> exact ⟨rfl, rfl, rfl⟩
  obtain ⟨htoken, hactive, hgeneration⟩ := hcache
  have hissues : issues (.answered query.number reply :: a.log) = issues a.log :=
    List.countP_cons_of_neg (by simp)
  refine ⟨numbered_silent h.toNumbered (by simp) rfl htoken hactive hgeneration
    (List.eraseIdx_sublist _ _), ?_⟩
  show (a.cache.answer query reply).queryInFlight = true ↔
    ∃ other ∈ a.outstanding.eraseIdx index, other.number = issues (.answered query.number reply :: a.log)
  rw [hissues]
  by_cases ht : a.cache.activeQueryToken = query.token
  · have hnewest := (token_iff h.toNumbered hm hr).mp ht
    rw [answer_flag ht]
    refine iff_of_false Bool.false_ne_true ?_
    rintro ⟨other, ho, hn⟩
    obtain ⟨j, hj, hother⟩ := List.mem_eraseIdx_iff_getElem?.mp ho
    exact hj (number_inj h.toNumbered hother hq (hn.trans hnewest.symm))
  · have hold : query.number ≠ issues a.log := fun hn => ht ((token_iff h.toNumbered hm hr).mpr hn)
    rw [answer_other ht, h.inFlight]
    constructor
    · rintro ⟨other, ho, hn⟩
      obtain ⟨j, hj⟩ := List.mem_iff_getElem?.mp ho
      refine ⟨other, List.mem_eraseIdx_iff_getElem?.mpr ⟨j, ?_, hj⟩, hn⟩
      rintro rfl
      rw [hq] at hj
      exact hold (Option.some.inj hj ▸ hn)
    · rintro ⟨other, ho, hn⟩
      exact ⟨other, List.mem_of_mem_eraseIdx ho, hn⟩

theorem coherent_step {a b : Adapter} {action : CacheAction} (h : Coherent a)
    (ht : timely a action = true) (hn : a.next action = some b) : Coherent b := by
  cases cache_move hn with
  | skip ready now sent => exact h
  | issue now sent hf => exact coherent_issue h.toNumbered now sent
  | renew now sent hf hd => exact coherent_issue (numbered_expire h.toNumbered) now sent
  | response index query reply hq =>
    refine coherent_respond h hq ?_ reply
    simpa [timely, hq] using ht
  | deliver goal => exact coherent_write h goal rfl
  | confirm state => exact coherent_write h state rfl

theorem coherent_initial (serviceTimeoutNs : ℤ) : Coherent (Adapter.initial serviceTimeoutNs) := by
  refine ⟨⟨rfl, rfl, rfl, ?_, List.Pairwise.nil⟩, ?_⟩
  · exact fun _ hm => by cases hm
  · simp [Adapter.initial]

theorem coherent_run {serviceTimeoutNs : ℤ} {a : Adapter}
    (h : Runs Adapter.next (fun a action => timely a action = true)
      (Adapter.initial serviceTimeoutNs) a) : Coherent a :=
  h.invariant (coherent_initial serviceTimeoutNs) fun _ _ _ hi ha hn => coherent_step hi ha hn

theorem answer_value {cache : StateCache} {query : Query} {reply : Option UInt8}
    (h : (cache.answer query reply).value ≠ cache.value) :
    cache.activeQueryToken = query.token ∧ cache.generation = query.generation := by
  by_cases ht : cache.activeQueryToken = query.token
  · refine ⟨ht, ?_⟩
    by_contra hg
    apply h
    unfold StateCache.answer
    rw [if_pos ht]
    cases reply with
    | none => rfl
    | some state => exact if_neg hg
  · rw [answer_other ht] at h
    exact (h rfl).elim

theorem value_changed {a : Adapter} (h : Coherent a) {index : Nat} {query : Query}
    (hq : a.outstanding[index]? = some query) (hr : recent a query) {reply : Option UInt8}
    (hv : (a.respond index query reply).cache.value ≠ a.cache.value) :
    active a query ∧ ∀ event ∈ since a query, event.bumps = false := by
  have hm : query ∈ a.outstanding := List.mem_of_getElem? hq
  obtain ⟨ht, hg⟩ := answer_value hv
  have hnewest := (token_iff h.toNumbered hm hr).mp ht
  exact ⟨⟨h.inFlight.mpr ⟨query, hm, hnewest⟩, ht⟩, (generation_iff h.toNumbered hm hr).mp hg⟩

theorem active_unique {a : Adapter} (h : Coherent a) {i j : Nat} {p q : Query}
    (hp : a.outstanding[i]? = some p) (hq : a.outstanding[j]? = some q) (hrp : recent a p)
    (hrq : recent a q) (hap : active a p) (haq : active a q) : i = j := by
  have hnp := (token_iff h.toNumbered (List.mem_of_getElem? hp) hrp).mp hap.2
  have hnq := (token_iff h.toNumbered (List.mem_of_getElem? hq) hrq).mp haq.2
  exact number_inj h.toNumbered hp hq (hnp.trans hnq.symm)

theorem overtaken_ignored {a : Adapter} (h : Coherent a) {index : Nat} {query : Query}
    (hq : a.outstanding[index]? = some query) (hr : recent a query)
    (ho : .issued ∈ since a query) (reply : Option UInt8) :
    (a.respond index query reply).cache = a.cache := by
  have hm : query ∈ a.outstanding := List.mem_of_getElem? hq
  refine answer_other (fun ht => ?_) reply
  exact (newest_iff h.toNumbered hm).mp ((token_iff h.toNumbered hm hr).mp ht) ho

/-- Behind the deadline, or without a query, a refresh sends a new one. -/
theorem refresh_issues {a : Adapter} {now : ℤ}
    (hd : a.cache.queryInFlight = true → a.cache.queryDeadlineNs ≤ now) (sent : Option ℤ) :
    issues (a.refreshState true now sent).log = issues a.log + 1 ∧
    match sent with
    | some _ => ∃ query, (a.refreshState true now sent).outstanding = a.outstanding ++ [query] ∧
        active (a.refreshState true now sent) query ∧
        (a.refreshState true now sent).cache.queryDeadlineNs = now + a.serviceTimeoutNs
    | none => (a.refreshState true now sent).outstanding = a.outstanding ∧
        (a.refreshState true now sent).cache.queryInFlight = false := by
  have hrefresh : a.refreshState true now sent = a.issue now sent ∨
      a.refreshState true now sent = a.expire.issue now sent := by
    unfold Adapter.refreshState
    by_cases hf : a.cache.queryInFlight = true
    · right
      rw [if_neg (by simp), if_pos hf, if_neg (not_lt.mpr (hd hf))]
    · left
      rw [if_neg (by simp), if_neg hf]
  obtain he | he := hrefresh <;> rw [he] <;> cases sent with
  | none => exact ⟨issues_issued a.log, rfl, rfl⟩
  | some requestId => exact ⟨issues_issued a.log, _, rfl, ⟨rfl, rfl⟩, rfl⟩

/-- The state queries of a lifecycle adapter: a response changes the cached value only where
its query is the active one and the generation has not been bumped since it was issued; at
most one query is active, and the flag stands for it; a response of a query that has been
overtaken changes nothing; a refresh behind the deadline issues a new query. -/
theorem state_query (serviceTimeoutNs : ℤ) {a : Adapter}
    (h : Runs Adapter.next (fun a action => timely a action = true)
      (Adapter.initial serviceTimeoutNs) a) :
    (∀ (index : Nat) query reply b, a.outstanding[index]? = some query → recent a query →
      a.next (.response index reply) = some b →
      (b.cache.value ≠ a.cache.value →
        active a query ∧ ∀ event ∈ since a query, event.bumps = false) ∧
      (.issued ∈ since a query → b.cache = a.cache)) ∧
    (∀ (i j : Nat) (p q : Query), a.outstanding[i]? = some p → a.outstanding[j]? = some q → recent a p →
      recent a q → active a p → active a q → i = j) ∧
    (a.cache.queryInFlight = true ↔ ∃ query ∈ a.outstanding, .issued ∉ since a query) ∧
    ∀ now sent b, (a.cache.queryInFlight = true → a.cache.queryDeadlineNs ≤ now) →
      a.next (.refresh true now sent) = some b →
      issues b.log = issues a.log + 1 ∧
      match sent with
      | some _ => ∃ query, b.outstanding = a.outstanding ++ [query] ∧ active b query ∧
          b.cache.queryDeadlineNs = now + a.serviceTimeoutNs
      | none => b.outstanding = a.outstanding ∧ b.cache.queryInFlight = false := by
  have hc := coherent_run h
  refine ⟨?_, ?_, ?_, ?_⟩
  · intro index query reply b hq hr hn
    have hb : a.respond index query reply = b := by
      simpa [Adapter.next, hq] using hn
    rw [← hb]
    exact ⟨value_changed hc hq hr, fun ho => overtaken_ignored hc hq hr ho reply⟩
  · intro i j p q hp hq hrp hrq
    exact active_unique hc hp hq hrp hrq
  · refine hc.inFlight.trans (exists_congr fun query => and_congr_right fun hm => ?_)
    exact newest_iff hc.toNumbered hm
  · intro now sent b hd hn
    rw [← Option.some.inj hn]
    exact refresh_issues hd sent

/-- Two queries are in flight when the response of the first one arrives. -/
theorem state_query_late :
    ∃ a, exec Adapter.next (fun a action => timely a action = true)
        [.refresh true 0 (some 7), .refresh true 1000 (some 8)] (Adapter.initial 1000) = some a ∧
      a.cache.queryInFlight = true ∧
      ∀ b, a.next (.response 0 (some 3)) = some b → b.cache = a.cache := by
  have hexec : exec Adapter.next (fun a action => timely a action = true)
      [.refresh true 0 (some 7), .refresh true 1000 (some 8)] (Adapter.initial 1000) = some _ := rfl
  refine ⟨_, hexec, rfl, ?_⟩
  intro b hn
  exact ((state_query 1000 (exec_runs _ hexec)).1 0 _ _ b rfl (by decide) hn).2 (by decide)

end DeviceManager.StateQuery
