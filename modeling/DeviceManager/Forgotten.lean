import DeviceManager.Newest

namespace DeviceManager.Forgotten

open Domain WorkerThread Queue QueueStep Log Transition History Ledger Delta Accounting Planning
  Newest

/-- The patches taken since the last call of `parameter_transitions` whose
planning ended with a throwing `state()`. -/
def failed : List Event → List ParameterMap
  | [] => []
  | .planned _ _ _ _ :: _ => []
  | .planRead (.error _) :: h => failed h ++ ((lastTake h).map Prod.snd).toList
  | _ :: h => failed h

def window (log : List Event) : List (ParameterMap × RequestPriority) :=
  match beforeTake log with
  | some before => opened (entries before)
  | none => []

/-- The call hands over every key of the failed patches with its newest value. -/
def Repaid (older : List Event) (parameters patch : ParameterMap) : Prop :=
  ∀ owed ∈ failed older, ∀ key ∈ owed.keys,
    key ∈ patch ∧ patch.lookup key = parameters.lookup key

/-- Every key of the failed patches was given again in the window of the call. -/
def GivenAgain (older : List Event) : Prop :=
  ∀ owed ∈ failed older, ∀ key ∈ owed.keys, ∃ entry ∈ window older, key ∈ entry.1

instance (older : List Event) : Decidable (GivenAgain older) :=
  inferInstanceAs (Decidable (∀ owed ∈ failed older, ∀ key ∈ owed.keys, ∃ entry ∈ window older,
    key ∈ entry.1))

theorem repaid_iff {q₀ q : DeviceQueue} (h : Started q₀) (he : q₀.enabled = true)
    (hrun : Runs next steady q₀ q) (hcount : patches (sinceStart q.log) < 2 ^ 64) :
    Always (fun event older => ∀ s m p r, event = .planned s m p r →
      (Repaid older m p ↔ GivenAgain older)) (sinceStart q.log) := by
  have hplan := plan_window (planned_run h he hrun hcount)
  have hnew := plan_newest h he hrun hcount
  rw [always_iff] at hplan hnew ⊢
  intro event older hs s m p r hevent
  obtain ⟨before, hb, -, hp⟩ := hplan event older hs s m p r hevent
  have hwindow : window older = opened (entries before) := by rw [window, hb]
  have hkey : ∀ key, key ∈ p ↔ ∃ entry ∈ window older, key ∈ entry.1 := by
    intro key
    rw [hp, hwindow]
    exact mem_delta _ key
  constructor
  · intro hrep owed ho key hk
    exact (hkey key).mp (hrep owed ho key hk).1
  · intro hgiv owed ho key hk
    have hmem := (hkey key).mpr (hgiv owed ho key hk)
    exact ⟨hmem, hnew event older hs s m p r hevent key hmem⟩

def thrownState : List Action :=
  [.patch (Finmap.singleton "gain" (.int 1)) .normal, .spawn, .work .go, .work .go,
    .work (.state (.error (.exception "bus off"))), .work .go,
    .patch (Finmap.singleton "rate" (.int 2)) .normal, .work .go, .work .go,
    .work (.state (.ok .active)), .work (.plan (.ok []))]

theorem repaid_thrownState :
    ∃ q, exec next steady thrownState (fresh true ∅).start = some q ∧
      ¬ Always (fun event older => ∀ s m p r, event = .planned s m p r → Repaid older m p)
        (sinceStart q.log) := by
  refine ⟨_, rfl, fun hall => ?_⟩
  have hrep := hall.1 _ _ _ _ rfl (Finmap.singleton "gain" (.int 1)) (by decide) "gain" (by decide)
  exact absurd hrep.1 (by decide)

def givenAgain : List Action :=
  [.patch (Finmap.singleton "gain" (.int 1)) .normal, .spawn, .work .go, .work .go,
    .work (.state (.error .unknown)), .work .go,
    .patch (Finmap.singleton "gain" (.int 2)) .normal, .work .go, .work .go,
    .work (.state (.ok .active)), .work (.plan (.ok []))]

theorem repaid_iff_givenAgain :
    ∃ q, exec next steady givenAgain (fresh true ∅).start = some q ∧
      failed (sinceStart q.log).tail = [Finmap.singleton "gain" (.int 1)] ∧
      Repaid (sinceStart q.log).tail (Finmap.singleton "gain" (.int 2))
        (Finmap.singleton "gain" (.int 2)) := by
  have hexec : exec next steady givenAgain (fresh true ∅).start = some _ := rfl
  refine ⟨_, hexec, by decide, ?_⟩
  have hall := repaid_iff (started_start true ∅) rfl (exec_runs givenAgain hexec) (by decide)
  refine (hall.1 .active _ _ (.ok []) ?_).mpr ?_
  · rfl
  · decide

end DeviceManager.Forgotten
