import DeviceManager.BatteryDriver
import DeviceManager.Trailing

namespace DeviceManager

open Lockstep Trailing

def full (raw : ℕ) : Bool := 100 ≤ raw

/-- The filter behind the charges that were read: while it doubts, it counts the full ones. -/
structure SocSpikeFilter.Behind (f : SocSpikeFilter) (raws : List ℕ) : Prop where
  accepted : f.hasAcceptedSoc = !raws.isEmpty
  pending : f.hasAcceptedSoc = true → f.acceptedSoc < kNearFullSoc →
    f.pendingFullSocCount.toNat = trailing full raws ∧ trailing full raws ≤ 2

namespace SocSpikeFilter

theorem full_iff (raw : ℕ) : full raw = true ↔ kFullSoc ≤ (raw : ℚ) := by
  rw [full, decide_eq_true_iff, kFullSoc]
  exact_mod_cast Iff.rfl

theorem behind_accept (f : SocSpikeFilter) (raws : List ℕ) (raw : ℕ) :
    (f.accept raw).2.Behind (raws ++ [raw]) := by
  refine ⟨by simp [accept], fun _ hlow => ?_⟩
  have hsmall : full raw = false := by
    rw [← Bool.not_eq_true, full_iff]
    intro hfull
    have : (raw : ℚ) < kNearFullSoc := hlow
    rw [kFullSoc] at hfull
    rw [kNearFullSoc] at this
    linarith
  rw [trailing_snoc, hsmall]
  exact ⟨rfl, by simp⟩

theorem Behind.filter_cases {f : SocSpikeFilter} {raws : List ℕ} (h : f.Behind raws) (raw : ℕ) :
    f.filter raw = f.accept raw ∧
        (f.hasAcceptedSoc = true → f.acceptedSoc < kNearFullSoc → full raw = true →
          3 ≤ trailing full (raws ++ [raw])) ∨
      (f.filter raw).1 = f.acceptedSoc ∧ full raw = true ∧ trailing full (raws ++ [raw]) ≤ 2 ∧
        f.hasAcceptedSoc = true ∧
        (f.filter raw).2 = { f with pendingFullSocCount := f.pendingFullSocCount + 1 } ∧
        (f.pendingFullSocCount + 1).toNat = trailing full (raws ++ [raw]) := by
  unfold filter
  by_cases hnew : f.hasAcceptedSoc = true
  · rw [hnew, Bool.not_true, if_neg Bool.false_ne_true]
    by_cases hdoubt : kFullSoc ≤ (raw : ℚ) ∧ f.acceptedSoc < kNearFullSoc
    · obtain ⟨hcount, hfew⟩ := h.pending hnew hdoubt.2
      have hfull : full raw = true := (full_iff raw).mpr hdoubt.1
      have hnext : trailing full (raws ++ [raw]) = trailing full raws + 1 := by
        rw [trailing_snoc, if_pos hfull]
      have hsum : (f.pendingFullSocCount + 1).toNat = trailing full (raws ++ [raw]) := by
        rw [UInt64.toNat_add, hcount, hnext]
        simp
        omega
      have hthree : kFullSocConfirmCount ≤ f.pendingFullSocCount + 1 ↔
          3 ≤ trailing full (raws ++ [raw]) := by
        rw [UInt64.le_iff_toNat_le, hsum]
        exact Iff.rfl
      rw [if_pos hdoubt]
      dsimp only
      by_cases hc : 3 ≤ trailing full (raws ++ [raw])
      · rw [if_pos (hthree.mpr hc)]
        exact Or.inl ⟨rfl, fun _ _ _ => hc⟩
      · rw [if_neg (mt hthree.mp hc)]
        exact Or.inr ⟨rfl, hfull, by omega, rfl, rfl, hsum⟩
    · rw [if_neg hdoubt]
      exact Or.inl ⟨rfl, fun _ hlow hfull => absurd ⟨(full_iff raw).mp hfull, hlow⟩ hdoubt⟩
  · rw [Bool.not_eq_true] at hnew
    rw [hnew, Bool.not_false, if_pos rfl]
    exact Or.inl ⟨rfl, fun hold => Bool.noConfusion hold⟩

theorem Behind.next {f : SocSpikeFilter} {raws : List ℕ} (h : f.Behind raws) (raw : ℕ) :
    (f.filter raw).2.Behind (raws ++ [raw]) := by
  obtain ⟨hf, -⟩ | ⟨-, -, hfew, hnew, hf, hcount⟩ := h.filter_cases raw
  · rw [hf]
    exact behind_accept f raws raw
  · rw [hf]
    exact ⟨by simp [hnew], fun _ _ => ⟨hcount, hfew⟩⟩

end SocSpikeFilter

namespace TwsBatteryDriver

def rawSoc (d : TwsBatteryDriver) (t : BatteryTransport) : Option ℕ :=
  if d.connects t then (fastRegisterValues d.config t).toOption.map fun values => values.soc.toNat
  else none

def Call.rawSoc (d : TwsBatteryDriver) : Call → Option ℕ
  | .poll t => d.rawSoc t
  | _ => none

def rawSocs (config : BatteryDriverConfig) (calls : List Call) : List ℕ :=
  (play (fun d call => ((call.rawSoc d).toList, (step d call).2)) (create config) calls).1

/-- The stored charge after one more call. -/
structure Unspiked (config : BatteryDriverConfig) (calls : List Call) (call : Call) : Prop where
  full : rawSocs config calls ≠ [] → (after config calls).lastSnapshot.soc < 99 →
    100 ≤ (after config (calls ++ [call])).lastSnapshot.soc →
      ∃ t, call = .poll t ∧ ((after config calls).pollOnce t).1.ok = true ∧
        3 ≤ trailing DeviceManager.full (rawSocs config (calls ++ [call]))
  stored : ∀ t, call = .poll t → ((after config calls).pollOnce t).1.ok = true →
    ∃ raw, (after config calls).rawSoc t = some raw ∧
      ((after config (calls ++ [call])).lastSnapshot.soc = raw ∨
        (after config (calls ++ [call])).lastSnapshot.soc = (after config calls).lastSnapshot.soc ∧
          DeviceManager.full raw = true ∧
          trailing DeviceManager.full (rawSocs config (calls ++ [call])) ≤ 2)

theorem rawSocs_snoc (config : BatteryDriverConfig) (calls : List Call) (call : Call) :
    rawSocs config (calls ++ [call]) =
      rawSocs config calls ++ (call.rawSoc (after config calls)).toList := by
  have hstates : ∀ d : TwsBatteryDriver,
      (play (fun d call => ((Call.rawSoc d call).toList, (step d call).2)) d calls).2 =
        (play step d calls).2 := by
    induction calls with
    | nil => exact fun d => rfl
    | cons first calls ih => exact fun d => ih (step d first).2
  rw [rawSocs, play_append]
  dsimp only [play_cons, play_nil]
  rw [List.append_nil, hstates]
  rfl

structure Filtered (raws : List ℕ) (d : TwsBatteryDriver) : Prop where
  behind : d.socFilter.Behind raws
  shown : d.socFilter.hasAcceptedSoc = true → d.lastSnapshot.soc = d.socFilter.acceptedSoc

theorem makePollFailureResult_soc (d : TwsBatteryDriver) (errorMessage : String) :
    (d.makePollFailureResult errorMessage).2.socFilter = d.socFilter ∧
      (d.makePollFailureResult errorMessage).2.lastSnapshot.soc = d.lastSnapshot.soc := by
  unfold makePollFailureResult
  dsimp only
  split_ifs <;> exact ⟨rfl, rfl⟩

theorem readIdentitySnapshot_soc (d : TwsBatteryDriver) (t : BatteryTransport)
    (snapshot : BatterySnapshot) : (d.readIdentitySnapshot t snapshot).2.soc = snapshot.soc := by
  unfold readIdentitySnapshot
  split
  · rfl
  · split <;> rfl

theorem makePollResult_soc (d : TwsBatteryDriver) (t : BatteryTransport)
    (snapshot : BatterySnapshot) :
    (d.makePollResult t snapshot).2.lastSnapshot.soc = snapshot.soc := by
  unfold makePollResult
  dsimp only
  split_ifs
  · exact readIdentitySnapshot_soc d t snapshot
  · rfl

theorem step_unread {d : TwsBatteryDriver} {call : Call} (h : call.rawSoc d = none) :
    (step d call).2.socFilter = d.socFilter ∧
      (step d call).2.lastSnapshot.soc = d.lastSnapshot.soc := by
  cases call with
  | configure config t =>
    obtain ⟨lastError, hc⟩ := configure_spec d config t
    dsimp only [step]
    rw [hc]
    exact ⟨rfl, rfl⟩
  | cleanup => exact ⟨rfl, rfl⟩
  | poll t =>
    dsimp only [step]
    obtain ⟨-, errorMessage, e, he, hpoll⟩ | ⟨-, errorMessage, -, hpoll⟩ | ⟨hup, values, hread, -⟩ :=
      pollOnce_cases d t
    · rw [hpoll]
      obtain rfl | rfl := he
      all_goals exact makePollFailureResult_soc _ errorMessage
    · rw [hpoll]
      exact makePollFailureResult_soc _ errorMessage
    · rw [Call.rawSoc, rawSoc, if_pos hup, hread] at h
      cases h

theorem step_read {d : TwsBatteryDriver} {call : Call} {raw : ℕ} (h : call.rawSoc d = some raw) :
    (step d call).2.socFilter = (d.socFilter.filter raw).2 ∧
      (step d call).2.lastSnapshot.soc = (d.socFilter.filter raw).1 := by
  cases call with
  | configure config t => cases h
  | cleanup => cases h
  | poll t =>
    dsimp only [step]
    dsimp only [Call.rawSoc, rawSoc] at h
    obtain ⟨hlost, -⟩ | ⟨hup, errorMessage, hread, -⟩ | ⟨hup, values, hread, hpoll⟩ :=
      pollOnce_cases d t
    · rw [hlost, if_neg Bool.false_ne_true] at h
      cases h
    · rw [if_pos hup, hread] at h
      cases h
    · rw [if_pos hup, hread] at h
      obtain rfl : values.soc.toNat = raw := Option.some.inj h
      have hexact : toFloat values.soc.toNat = values.soc.toNat :=
        toFloat_natCast (by have := UInt16.toNat_lt values.soc; omega)
      rw [hpoll, makePollResult_soc, ← hexact]
      exact ⟨rfl, rfl⟩

theorem after_filtered (config : BatteryDriverConfig) (calls : List Call) :
    Filtered (rawSocs config calls) (after config calls) := by
  induction calls using List.reverseRecOn with
  | nil => exact ⟨⟨rfl, fun h => Bool.noConfusion h⟩, fun h => Bool.noConfusion h⟩
  | append_singleton calls call ih =>
    rw [rawSocs_snoc, after_snoc]
    cases h : call.rawSoc (after config calls) with
    | none =>
      obtain ⟨hfilter, hsoc⟩ := step_unread h
      rw [Option.toList_none, List.append_nil]
      exact ⟨hfilter ▸ ih.behind, by rw [hfilter, hsoc]; exact ih.shown⟩
    | some raw =>
      obtain ⟨hfilter, hsoc⟩ := step_read h
      rw [Option.toList_some]
      refine ⟨hfilter ▸ ih.behind.next raw, fun _ => ?_⟩
      rw [hfilter, hsoc]
      obtain ⟨hf, -⟩ | ⟨hf, -, -, -, hkept, -⟩ := ih.behind.filter_cases raw
      · rw [hf]
        rfl
      · rw [hf, hkept]

theorem rawSoc_ok {d : TwsBatteryDriver} {t : BatteryTransport} :
    (d.pollOnce t).1.ok = (d.rawSoc t).isSome := by
  rw [pollOnce_ok, rawSoc, answers]
  cases d.connects t <;> cases fastRegisterValues d.config t <;> rfl

/-- The stored charge is the one that was read, but for the first two full ones in a row. -/
theorem soc_unspiked (config : BatteryDriverConfig) (calls : List Call) (call : Call) :
    Unspiked config calls call := by
  have hstate := after_filtered config calls
  have hnext := after_snoc config calls call
  have hraws := rawSocs_snoc config calls call
  have haccepted : rawSocs config calls ≠ [] → (after config calls).socFilter.hasAcceptedSoc = true := by
    intro h
    rw [hstate.behind.accepted]
    simpa using h
  constructor
  · intro hold hlow hhigh
    cases h : call.rawSoc (after config calls) with
    | none =>
      rw [hnext, (step_unread h).2] at hhigh
      linarith
    | some raw =>
      have hshown := hstate.shown (haccepted hold)
      obtain ⟨t, rfl⟩ : ∃ t, call = .poll t := by
        cases call with
        | poll t => exact ⟨t, rfl⟩
        | configure config t => cases h
        | cleanup => cases h
      refine ⟨t, rfl, ?_, ?_⟩
      · rw [rawSoc_ok, Option.isSome_iff_exists]
        exact ⟨raw, h⟩
      · rw [h] at hraws
        rw [hnext, (step_read h).2] at hhigh
        rw [hraws, Option.toList_some]
        obtain ⟨hf, hthree⟩ | ⟨hf, -⟩ := hstate.behind.filter_cases raw
        · have hfull : full raw = true := by
            rw [SocSpikeFilter.full_iff]
            rw [hf] at hhigh
            exact hhigh
          exact hthree (haccepted hold) (hshown ▸ hlow) hfull
        · rw [hf, ← hshown] at hhigh
          linarith
  · rintro t rfl hok
    rw [rawSoc_ok, Option.isSome_iff_exists] at hok
    obtain ⟨raw, h⟩ := hok
    have hcall : (Call.poll t).rawSoc (after config calls) = some raw := h
    rw [hcall] at hraws
    refine ⟨raw, h, ?_⟩
    rw [hnext, (step_read hcall).2, hraws, Option.toList_some]
    obtain ⟨hf, -⟩ | ⟨hf, hfull, hfew, hold, -, -⟩ := hstate.behind.filter_cases raw
    · rw [hf]
      exact Or.inl rfl
    · rw [hf, ← hstate.shown hold]
      exact Or.inr ⟨rfl, hfull, hfew⟩

end TwsBatteryDriver

end DeviceManager
