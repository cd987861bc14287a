import Enoti.Runs

namespace Enoti

variable {π : Type}

-- The latest index up to i whose value differs from its predecessor's; 0 when
-- there is none.
def lastChange (obs : List (Observation π)) : Nat → Nat
  | 0 => 0
  | i+1 => if obs[i+1]?.map (·.value) = obs[i]?.map (·.value) then lastChange obs i else i+1

theorem lastChange_le (obs : List (Observation π)) (i : Nat) : lastChange obs i ≤ i := by
  induction i with
  | zero => exact Nat.le_refl 0
  | succ i ih =>
    unfold lastChange
    split <;> omega

theorem lastChange_changed (obs : List (Observation π)) (i : Nat) :
    lastChange obs i = 0 ∨ obs[lastChange obs i]?.map (·.value) ≠ obs[lastChange obs i - 1]?.map (·.value) := by
  induction i with
  | zero => exact .inl rfl
  | succ i ih =>
    unfold lastChange
    split
    · exact ih
    · rename_i differs
      exact .inr differs

theorem lastChange_latest (obs : List (Observation π)) (i : Nat) :
    ∀ k, lastChange obs i < k → k ≤ i → obs[k]?.map (·.value) = obs[k-1]?.map (·.value) := by
  induction i with
  | zero =>
    intro k after upto
    have : lastChange obs 0 = 0 := rfl
    omega
  | succ i ih =>
    intro k after upto
    unfold lastChange at after
    split at after
    · rename_i same
      rcases Nat.lt_or_ge k (i+1) with earlier | last
      · exact ih k after (by omega)
      · obtain rfl : k = i+1 := by omega
        exact same
    · omega

section
variable (json : JsonCodec π) (zstd : Zstd) (clientID scopeKey : String) (f : Option FlapConfig)

def EdgeAfter (s : StoreState) (obs : List (Observation π)) (i : Nat) : Prop :=
  ∃ e v, (runObservations json zstd clientID scopeKey f s (obs.take (i+1))).2.edges (clientID,scopeKey) = some (e,v) ∧
    0 < v ∧ obs[i]?.map (·.value) = some e.lastValue ∧ obs[lastChange obs i]?.map (·.now) = some e.lastChangeTS

end

variable {json : JsonCodec π} {zstd : Zstd} {clientID scopeKey : String} {f : Option FlapConfig}

theorem lastChange_succ (obs : List (Observation π)) (i : Nat) (within : i+1 < obs.length) :
    lastChange obs (i+1) = if obs[i+1].value = obs[i].value then lastChange obs i else i+1 := by
  simp [lastChange,List.getElem?_eq_getElem within,List.getElem?_eq_getElem (Nat.lt_of_succ_lt within)]

theorem edgeAfter_holds (marshals : ∀ d, ∃ b, json.marshal d = .ok b) {s : StoreState}
    (empty : s.edges (clientID,scopeKey) = none) (obs : List (Observation π)) :
    ∀ i, i < obs.length → EdgeAfter json zstd clientID scopeKey f s obs i := by
  intro i
  induction i with
  | zero =>
    intro within
    unfold EdgeAfter
    rw [runObservations_take_succ s obs 0 within]
    simp only [List.take_zero,runObservations]
    rw [evaluate_first empty]
    refine ⟨_,1,Function.update_self _ _ _,Int.one_pos,?_,?_⟩
    · simp [List.getElem?_eq_getElem within,firstEdge]
    · simp [lastChange,List.getElem?_eq_getElem within,firstEdge]
  | succ i ih =>
    intro within
    obtain ⟨e,v,stored,positive,value,changed⟩ := ih (by omega)
    have previous : e.lastValue = obs[i].value := by
      rw [List.getElem?_eq_getElem (by omega)] at value
      simpa using value.symm
    have current : obs[i+1]?.map (·.value) = some obs[i+1].value := by simp [List.getElem?_eq_getElem within]
    unfold EdgeAfter
    rw [runObservations_take_succ s obs (i+1) within]
    by_cases stable : e.lastValue = obs[i+1].value
    · rw [(evaluate_stable stored stable).2.2]
      have same : lastChange obs (i+1) = lastChange obs i := by
        rw [lastChange_succ obs i within,if_pos (by rw [← stable,previous])]
      exact ⟨e,v,stored,positive,by rw [current,stable],by rw [same]; exact changed⟩
    · rw [evaluate_flip marshals stored positive stable]
      have moved : lastChange obs (i+1) = i+1 := by
        rw [lastChange_succ obs i within,if_neg (by rw [← previous]; exact Ne.symm stable)]
      have written := flipOutcome_edge json zstd f obs[i+1].now (recordFlip e obs[i+1].value obs[i+1].now (storedPayload json zstd obs[i+1].payload))
      refine ⟨_,v+1,Function.update_self _ _ _,by omega,?_,?_⟩
      · rw [current,written.1]
        rfl
      · rw [moved,List.getElem?_eq_getElem within,written.2]
        rfl

theorem answer_at (marshals : ∀ d, ∃ b, json.marshal d = .ok b) {s : StoreState}
    (empty : s.edges (clientID,scopeKey) = none) (obs : List (Observation π)) (i : Nat) (within : i < obs.length) :
    ((evaluate json zstd clientID scopeKey f (runObservations json zstd clientID scopeKey f s (obs.take i)).2 obs[i]).1.action = .noOp ↔
      0 < i ∧ obs[i].value = obs[i-1].value) ∧
    (f = none → (evaluate json zstd clientID scopeKey f (runObservations json zstd clientID scopeKey f s (obs.take i)).2 obs[i]).1.action ≠ .noOp →
      (evaluate json zstd clientID scopeKey f (runObservations json zstd clientID scopeKey f s (obs.take i)).2 obs[i]).1.action = .edgeTriggeredForward) := by
  cases i with
  | zero =>
    simp only [List.take_zero,runObservations]
    rw [evaluate_first empty]
    exact ⟨by simp [Evaluation.ok],fun _ _ => rfl⟩
  | succ j =>
    obtain ⟨e,v,stored,positive,value,_⟩ := edgeAfter_holds (f:=f) marshals empty obs j (by omega)
    have previous : e.lastValue = obs[j].value := by
      rw [List.getElem?_eq_getElem (by omega)] at value
      simpa using value.symm
    by_cases stable : e.lastValue = obs[j+1].value
    · have quiet : (evaluate json zstd clientID scopeKey f _ obs[j+1]).1.action = .noOp := (evaluate_stable stored stable).1
      exact ⟨⟨fun _ => ⟨Nat.succ_pos j,by rw [← stable,previous]; rfl⟩,fun _ => quiet⟩,fun _ loud => absurd quiet loud⟩
    · rw [evaluate_flip marshals stored positive stable]
      have answered := flipOutcome_answers json zstd f obs[j+1].now
        (recordFlip e obs[j+1].value obs[j+1].now (storedPayload json zstd obs[j+1].payload))
      refine ⟨⟨fun quiet => absurd quiet answered,fun repeated => absurd (by rw [previous]; exact repeated.2.symm) stable⟩,?_⟩
      intro unflapped _
      subst unflapped
      rfl

theorem edge_detection_over_runs (json : JsonCodec π) (zstd : Zstd) (marshals : ∀ d, ∃ b, json.marshal d = .ok b)
    (clientID scopeKey : String) (f : Option FlapConfig) (s : StoreState) (empty : s.edges (clientID,scopeKey) = none)
    (obs : List (Observation π)) (i : Nat) (within : i < obs.length)
    (bound : i < (runObservations json zstd clientID scopeKey f s obs).1.length) :
    ((runObservations json zstd clientID scopeKey f s obs).1[i].action = .noOp ↔ 0 < i ∧ obs[i].value = obs[i-1].value) ∧
    (∃ e v, (runObservations json zstd clientID scopeKey f s (obs.take (i+1))).2.edges (clientID,scopeKey) = some (e,v) ∧
      e.lastValue = obs[i].value ∧
      ∃ j ≤ i, (j = 0 ∨ obs[j]?.map (·.value) ≠ obs[j-1]?.map (·.value)) ∧
        (∀ k, j < k → k ≤ i → obs[k]?.map (·.value) = obs[k-1]?.map (·.value)) ∧ obs[j]?.map (·.now) = some e.lastChangeTS) ∧
    (f = none → (runObservations json zstd clientID scopeKey f s obs).1[i].action ≠ .noOp →
      (runObservations json zstd clientID scopeKey f s obs).1[i].action = .edgeTriggeredForward) := by
  rw [runObservations_getElem s obs i within bound]
  obtain ⟨noOp,unflapped⟩ := answer_at (f:=f) marshals empty obs i within
  obtain ⟨e,v,stored,_,value,changed⟩ := edgeAfter_holds (f:=f) marshals empty obs i within
  have current : e.lastValue = obs[i].value := by
    rw [List.getElem?_eq_getElem within] at value
    simpa using value.symm
  exact ⟨noOp,⟨e,v,stored,current,lastChange obs i,lastChange_le obs i,lastChange_changed obs i,
    lastChange_latest obs i,changed⟩,unflapped⟩

theorem edge_detection_on_repeat :
    (∀ d, ∃ b, unitJson.marshal d = .ok b) ∧ emptyStore.edges ("c","s") = none ∧
    (((runObservations unitJson plainZstd "c" "s" none emptyStore [⟨"on",0,()⟩,⟨"on",5,()⟩]).1[1].action = .noOp ↔
        0 < 1 ∧ ([⟨"on",0,()⟩,⟨"on",5,()⟩] : List (Observation Unit))[1].value = ([⟨"on",0,()⟩,⟨"on",5,()⟩] : List (Observation Unit))[1-1].value) ∧
      (∃ e v, (runObservations unitJson plainZstd "c" "s" none emptyStore ([⟨"on",0,()⟩,⟨"on",5,()⟩].take (1+1))).2.edges ("c","s") = some (e,v) ∧
        e.lastValue = ([⟨"on",0,()⟩,⟨"on",5,()⟩] : List (Observation Unit))[1].value ∧
        ∃ j ≤ 1, (j = 0 ∨ ([⟨"on",0,()⟩,⟨"on",5,()⟩] : List (Observation Unit))[j]?.map (·.value) ≠ ([⟨"on",0,()⟩,⟨"on",5,()⟩] : List (Observation Unit))[j-1]?.map (·.value)) ∧
          (∀ k, j < k → k ≤ 1 → ([⟨"on",0,()⟩,⟨"on",5,()⟩] : List (Observation Unit))[k]?.map (·.value) = ([⟨"on",0,()⟩,⟨"on",5,()⟩] : List (Observation Unit))[k-1]?.map (·.value)) ∧
          ([⟨"on",0,()⟩,⟨"on",5,()⟩] : List (Observation Unit))[j]?.map (·.now) = some e.lastChangeTS) ∧
      ((none : Option FlapConfig) = none → (runObservations unitJson plainZstd "c" "s" none emptyStore [⟨"on",0,()⟩,⟨"on",5,()⟩]).1[1].action ≠ .noOp →
        (runObservations unitJson plainZstd "c" "s" none emptyStore [⟨"on",0,()⟩,⟨"on",5,()⟩]).1[1].action = .edgeTriggeredForward)) :=
  ⟨fun _ => ⟨[],rfl⟩,rfl,edge_detection_over_runs unitJson plainZstd (fun _ => ⟨[],rfl⟩) "c" "s" none emptyStore rfl
    [⟨"on",0,()⟩,⟨"on",5,()⟩] 1 (by decide) (by simp)⟩

end Enoti
