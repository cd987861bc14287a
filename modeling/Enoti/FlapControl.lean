import Enoti.EdgeDetection

namespace Enoti

-- The flap-control reference over the flips of a run, and the code against it.

variable {π : Type}

structure FlapSpec where
  lastValue : String
  windowStart : Int
  count : Int
  lastAggregate : Option Int
  deriving DecidableEq, Repr

def fitsLimit (limit : Option Nat) (aggregateAt : Int) : Bool :=
  limit.all fun n => decide (aggregateAt ≤ n)

def cooledDown (f : FlapConfig) (lastAggregate : Option Int) (t : Int) : Bool :=
  lastAggregate.all fun last => decide (last + f.aggregateCooldownSeconds ≤ t)

def specWindow (f : FlapConfig) (st : FlapSpec) (v : String) (t : Int) : FlapSpec × Bool :=
  if t - st.windowStart > f.windowSeconds then ({st with lastValue:=v, windowStart:=t, count:=1},true)
  else ({st with lastValue:=v, count:=st.count+1},false)

def specFlip (limit : Option Nat) (f : FlapConfig) (st : FlapSpec) (v : String) (t : Int) : Action × FlapSpec :=
  let moved := specWindow f st v t
  if moved.1.count ≤ f.suppressBelow then (.suppressFlapping,moved.1)
  else if f.aggregateAt ≤ 0 ∨ moved.2 = true then (.edgeTriggeredForward,moved.1)
  else if f.aggregateAt ∣ moved.1.count ∧ fitsLimit limit f.aggregateAt = true ∧
      cooledDown f moved.1.lastAggregate t = true then
    (.aggregateSent,{moved.1 with lastAggregate:=some t})
  else (.suppressFlapping,moved.1)

def specStep (limit : Option Nat) (f : FlapConfig) : Option FlapSpec → String × Int → Action × Option FlapSpec
  | none, (v,t) => (.edgeTriggeredForward,some ⟨v,t,0,none⟩)
  | some st, (v,t) =>
    if st.lastValue = v then (.noOp,some st)
    else ((specFlip limit f st v t).1,some (specFlip limit f st v t).2)

def specRun (limit : Option Nat) (f : FlapConfig) (st : Option FlapSpec) : List (String × Int) → List Action × Option FlapSpec
  | [] => ([],st)
  | o :: rest =>
    ((specStep limit f st o).1 :: (specRun limit f (specStep limit f st o).2 rest).1,
      (specRun limit f (specStep limit f st o).2 rest).2)

-- Recent holds the flips since the last clear, up to the cap, and the count at
-- that clear was a multiple of A.
def Simulates (f : FlapConfig) (e : Edge) (st : FlapSpec) : Prop :=
  e.lastValue = st.lastValue ∧ e.windowStart = st.windowStart ∧ e.flipCount = st.count ∧
    e.aggUntilTS = st.lastAggregate.elim 0 (· + f.aggregateCooldownSeconds) ∧
    ∃ p : Nat, (p : Int) ≤ st.count ∧ e.recent.length = min p hardLimitRecentItems ∧
      (0 < f.aggregateAt → f.aggregateAt ∣ st.count - p)

def SlotSimulates (f : FlapConfig) : Slot → Option FlapSpec → Prop
  | none, none => True
  | some (e,v), some st => 0 < v ∧ Simulates f e st
  | _, _ => False

section
variable {f : FlapConfig} {e : Edge} {st : FlapSpec}

theorem cooledDown_iff (nonneg : 0 ≤ t) :
    t ≥ st.lastAggregate.elim 0 (· + f.aggregateCooldownSeconds) ↔ cooledDown f st.lastAggregate t = true := by
  cases st.lastAggregate with
  | none => simpa [cooledDown] using nonneg
  | some last => simp [cooledDown]

theorem pending_reaches {A count : Int} {p cap : Nat} (cleared : A ∣ count - p) (due : A ∣ count)
    (nonempty : 0 < p) : A ≤ ((min p cap : Nat) : Int) ↔ A ≤ cap := by
  have divides : A ∣ (p : Int) := by
    have difference := Int.dvd_sub due cleared
    rwa [show count - (count - p) = (p : Int) by omega] at difference
  have reached : A ≤ p := Int.le_of_dvd (by omega) divides
  omega

theorem aggregateDue_iff (positive : 0 < f.aggregateAt) (nonneg : 0 ≤ t) (sim : Simulates f e st)
    (nonempty : 0 < e.recent.length) :
    aggregateDue f t e ↔ f.aggregateAt ∣ st.count ∧ fitsLimit (some hardLimitRecentItems) f.aggregateAt = true ∧
      cooledDown f st.lastAggregate t = true := by
  obtain ⟨_,_,count,untilTS,p,_,recent,cleared⟩ := sim
  unfold aggregateDue
  rw [count,untilTS,recent,← Int.dvd_iff_tmod_eq_zero,cooledDown_iff nonneg]
  rw [recent] at nonempty
  constructor
  · rintro ⟨due,cooled,fits⟩
    have reaches := (pending_reaches (cleared positive) due (by omega)).1 fits
    exact ⟨due,by simpa [fitsLimit] using reaches,cooled⟩
  · rintro ⟨due,fits,cooled⟩
    have reaches := (pending_reaches (cleared positive) due (by omega)).2 (by simpa [fitsLimit] using fits)
    exact ⟨due,cooled,reaches⟩

theorem recordFlip_simulates (sim : Simulates f e st) (v : String) (t : Int) (enc : String) :
    (recordFlip e v t enc).windowStart = st.windowStart ∧ (recordFlip e v t enc).flipCount = st.count ∧
      (recordFlip e v t enc).aggUntilTS = st.lastAggregate.elim 0 (· + f.aggregateCooldownSeconds) ∧
      ∃ p : Nat, (p : Int) ≤ st.count ∧ (recordFlip e v t enc).recent.length = min (p+1) hardLimitRecentItems ∧
        (0 < f.aggregateAt → f.aggregateAt ∣ st.count - p) := by
  obtain ⟨_,start,count,untilTS,p,counted,recent,cleared⟩ := sim
  refine ⟨start,count,untilTS,p,counted,?_,cleared⟩
  simp only [recordFlip,appendRecent_length,recent]
  omega

theorem window_simulates (window : 0 < f.windowSeconds) (sim : Simulates f e st) (v : String) (t : Int) (enc : String) :
    (checkWindow f t (recordFlip e v t enc)).2 = (specWindow f st v t).2 ∧
      Simulates f (checkWindow f t (recordFlip e v t enc)).1 (specWindow f st v t).1 := by
  obtain ⟨start,count,untilTS,p,counted,recent,cleared⟩ := recordFlip_simulates sim v t enc
  have capped : hardLimitRecentItems = 128 := rfl
  unfold specWindow
  by_cases opens : t - st.windowStart > f.windowSeconds
  · rw [checkWindow_opens ⟨window,by rw [start]; exact opens⟩,if_pos opens]
    -- a window-opening flip stays as the only element of Recent
    have single : ((recordFlip e v t enc).recent.drop ((recordFlip e v t enc).recent.length - 1)).length = 1 := by
      rw [List.length_drop]
      omega
    refine ⟨rfl,rfl,rfl,rfl,untilTS,1,Int.le_refl 1,?_,fun _ => by simp⟩
    dsimp only
    rw [if_pos (by omega),single]
    omega
  · rw [checkWindow_stays (fun opened => opens (by rw [← start]; exact opened.2)),if_neg opens]
    refine ⟨rfl,rfl,start,by dsimp only; rw [count],untilTS,p+1,by push_cast; omega,recent,?_⟩
    intro positive
    have shifted : st.count + 1 - ((p + 1 : Nat) : Int) = st.count - p := by push_cast; omega
    rw [shifted]
    exact cleared positive

theorem aggregate_simulates (sim : Simulates f e st) (due : 0 < f.aggregateAt → f.aggregateAt ∣ st.count) (t : Int)
    (fits : -2^63 ≤ t + f.aggregateCooldownSeconds ∧ t + f.aggregateCooldownSeconds < 2^63) :
    Simulates f {e with aggUntilTS:=addInt64 t f.aggregateCooldownSeconds, recent:=[]} {st with lastAggregate:=some t} := by
  obtain ⟨value,start,count,_,p,counted,_,_⟩ := sim
  refine ⟨value,start,count,addInt64_of_fits fits.1 fits.2,0,by dsimp only; omega,rfl,?_⟩
  intro positive
  simpa using due positive

theorem flipOutcome_simulates (json : JsonCodec π) (zstd : Zstd) (window : 0 < f.windowSeconds) (nonneg : 0 ≤ t)
    (fits : -2^63 ≤ t + f.aggregateCooldownSeconds ∧ t + f.aggregateCooldownSeconds < 2^63)
    (sim : Simulates f e st) (v : String) (enc : String) :
    (flipOutcome json zstd (some f) t (recordFlip e v t enc)).2.action = (specFlip (some hardLimitRecentItems) f st v t).1 ∧
      Simulates f (flipOutcome json zstd (some f) t (recordFlip e v t enc)).1 (specFlip (some hardLimitRecentItems) f st v t).2 := by
  obtain ⟨flag,moved⟩ := window_simulates window sim v t enc
  have counted : (checkWindow f t (recordFlip e v t enc)).1.flipCount = (specWindow f st v t).1.count := moved.2.2.1
  unfold specFlip
  dsimp only
  by_cases suppressed : (specWindow f st v t).1.count ≤ f.suppressBelow
  · rw [flipOutcome_suppressed (by rwa [counted]),if_pos suppressed]
    exact ⟨rfl,moved⟩
  rw [if_neg suppressed]
  by_cases direct : f.aggregateAt ≤ 0 ∨ (specWindow f st v t).2 = true
  · have forwarded : ¬(f.aggregateAt > 0 ∧ ¬(checkWindow f t (recordFlip e v t enc)).2 = true) := by
      rw [flag]
      rintro ⟨positive,closed⟩
      rcases direct with nonpositive | opened
      · omega
      · exact closed opened
    rw [flipOutcome_forwarded (by rwa [counted]) forwarded,if_pos direct]
    exact ⟨rfl,moved⟩
  obtain ⟨positive,closed⟩ := not_or.1 direct
  have positive : 0 < f.aggregateAt := by omega
  rw [flipOutcome_aggregating (by rwa [counted]) ⟨positive,by rw [flag]; exact closed⟩,if_neg direct]
  have nonempty := checkWindow_recent_pos f t (recordFlip_recent_pos e v t enc)
  by_cases due : aggregateDue f t (checkWindow f t (recordFlip e v t enc)).1
  · have reference := (aggregateDue_iff positive nonneg moved nonempty).1 due
    rw [aggregateOutcome_due due,if_pos reference]
    exact ⟨rfl,aggregate_simulates moved (fun _ => reference.1) t fits⟩
  · rw [aggregateOutcome_not_due due,if_neg (fun reference => due ((aggregateDue_iff positive nonneg moved nonempty).2 reference))]
    exact ⟨rfl,moved⟩

end

section
variable {limit : Option Nat} {f : FlapConfig} {st : FlapSpec} {v : String} {t : Int}

theorem specStep_stable (stable : st.lastValue = v) : specStep limit f (some st) (v,t) = (.noOp,some st) := by
  simp [specStep,stable]

theorem specStep_flip (flipped : st.lastValue ≠ v) :
    specStep limit f (some st) (v,t) = ((specFlip limit f st v t).1,some (specFlip limit f st v t).2) := by
  simp [specStep,flipped]

end

section
variable {clientID scopeKey : String} {f : FlapConfig}

theorem evaluate_simulates (json : JsonCodec π) (zstd : Zstd) (marshals : ∀ d, ∃ b, json.marshal d = .ok b)
    (window : 0 < f.windowSeconds) {s : StoreState} {o : Observation π} {st : Option FlapSpec} (nonneg : 0 ≤ o.now)
    (fits : -2^63 ≤ o.now + f.aggregateCooldownSeconds ∧ o.now + f.aggregateCooldownSeconds < 2^63)
    (sim : SlotSimulates f (s.edges (clientID,scopeKey)) st) :
    (evaluate json zstd clientID scopeKey (some f) s o).1.action = (specStep (some hardLimitRecentItems) f st (o.value,o.now)).1 ∧
      SlotSimulates f ((evaluate json zstd clientID scopeKey (some f) s o).2.edges (clientID,scopeKey))
        (specStep (some hardLimitRecentItems) f st (o.value,o.now)).2 := by
  cases stored : s.edges (clientID,scopeKey) with
  | none =>
    rw [stored] at sim
    cases st with
    | some _ => exact sim.elim
    | none =>
      rw [evaluate_first stored]
      refine ⟨rfl,?_⟩
      dsimp only
      rw [Function.update_self]
      exact ⟨Int.one_pos,rfl,rfl,rfl,rfl,0,Int.le_refl 0,rfl,fun _ => by simp⟩
  | some slot =>
    obtain ⟨e,v⟩ := slot
    rw [stored] at sim
    cases st with
    | none => exact sim.elim
    | some st =>
      obtain ⟨positive,simulates⟩ := sim
      have value : e.lastValue = st.lastValue := simulates.1
      by_cases stable : e.lastValue = o.value
      · obtain ⟨quiet,_,unchanged⟩ : (evaluate json zstd clientID scopeKey (some f) s o).1.action = .noOp ∧
            (evaluate json zstd clientID scopeKey (some f) s o).1.aggregate = none ∧
            (evaluate json zstd clientID scopeKey (some f) s o).2 = s := evaluate_stable stored stable
        rw [quiet,unchanged,stored,specStep_stable (by rw [← value]; exact stable)]
        exact ⟨rfl,positive,simulates⟩
      · rw [evaluate_flip marshals stored positive stable,specStep_flip (by rw [← value]; exact stable)]
        obtain ⟨answered,written⟩ := flipOutcome_simulates json zstd window nonneg fits simulates o.value
          (storedPayload json zstd o.payload)
        refine ⟨answered,?_⟩
        dsimp only
        rw [Function.update_self]
        exact ⟨by omega,written⟩

theorem runs_simulate (json : JsonCodec π) (zstd : Zstd) (marshals : ∀ d, ∃ b, json.marshal d = .ok b)
    (window : 0 < f.windowSeconds) (obs : List (Observation π)) (nonneg : ∀ o ∈ obs, 0 ≤ o.now)
    (fits : ∀ o ∈ obs, -2^63 ≤ o.now + f.aggregateCooldownSeconds ∧ o.now + f.aggregateCooldownSeconds < 2^63) :
    ∀ (s : StoreState) (st : Option FlapSpec), SlotSimulates f (s.edges (clientID,scopeKey)) st →
      (runObservations json zstd clientID scopeKey (some f) s obs).1.map (·.action) =
        (specRun (some hardLimitRecentItems) f st (obs.map fun o => (o.value,o.now))).1 ∧
      SlotSimulates f ((runObservations json zstd clientID scopeKey (some f) s obs).2.edges (clientID,scopeKey))
        (specRun (some hardLimitRecentItems) f st (obs.map fun o => (o.value,o.now))).2 := by
  induction obs with
  | nil => exact fun s st sim => ⟨rfl,sim⟩
  | cons o rest ih =>
    intro s st sim
    obtain ⟨answered,moved⟩ := evaluate_simulates json zstd marshals window (nonneg o List.mem_cons_self)
      (fits o List.mem_cons_self) sim
    obtain ⟨answers,simulates⟩ := ih (fun o' later => nonneg o' (List.mem_cons_of_mem o later))
      (fun o' later => fits o' (List.mem_cons_of_mem o later)) _ _ moved
    refine ⟨?_,simulates⟩
    simp only [runObservations,specRun,List.map_cons]
    rw [answered,answers]

end

-- An aggregate also needs A <= 128, the cap on Recent.
theorem flap_control_follows_capped_reference (json : JsonCodec π) (zstd : Zstd)
    (marshals : ∀ d, ∃ b, json.marshal d = .ok b) (clientID scopeKey : String) (f : FlapConfig)
    (accepted : validateFlapping f = none) (s : StoreState) (empty : s.edges (clientID,scopeKey) = none)
    (obs : List (Observation π)) (nonneg : ∀ o ∈ obs, 0 ≤ o.now)
    (fits : ∀ o ∈ obs, -2^63 ≤ o.now + f.aggregateCooldownSeconds ∧ o.now + f.aggregateCooldownSeconds < 2^63) :
    (runObservations json zstd clientID scopeKey (some f) s obs).1.map (·.action) =
      (specRun (some hardLimitRecentItems) f none (obs.map fun o => (o.value,o.now))).1 := by
  have window : 0 < f.windowSeconds := by
    have bounds := validateFlapping_bounds accepted
    have least : minWindowSizeSeconds = 10 := rfl
    omega
  have sim : SlotSimulates f (s.edges (clientID,scopeKey)) none := by
    rw [empty]
    trivial
  exact (runs_simulate json zstd marshals window obs nonneg fits s none sim).1

theorem flap_control_follows_capped_reference_on_pair :
    (∀ d, ∃ b, unitJson.marshal d = .ok b) ∧ validateFlapping ⟨10,0,2,0,0⟩ = none ∧ emptyStore.edges ("c","s") = none ∧
      (∀ o ∈ ([⟨"on",0,()⟩,⟨"off",5,()⟩] : List (Observation Unit)), 0 ≤ o.now) ∧
      (∀ o ∈ ([⟨"on",0,()⟩,⟨"off",5,()⟩] : List (Observation Unit)),
        -2^63 ≤ o.now + (⟨10,0,2,0,0⟩ : FlapConfig).aggregateCooldownSeconds ∧
          o.now + (⟨10,0,2,0,0⟩ : FlapConfig).aggregateCooldownSeconds < 2^63) ∧
      (runObservations unitJson plainZstd "c" "s" (some ⟨10,0,2,0,0⟩) emptyStore [⟨"on",0,()⟩,⟨"off",5,()⟩]).1.map (·.action) =
        (specRun (some hardLimitRecentItems) ⟨10,0,2,0,0⟩ none
          (([⟨"on",0,()⟩,⟨"off",5,()⟩] : List (Observation Unit)).map fun o => (o.value,o.now))).1 :=
  ⟨fun _ => ⟨[],rfl⟩,by decide,rfl,by decide,by decide,flap_control_follows_capped_reference unitJson plainZstd
    (fun _ => ⟨[],rfl⟩) "c" "s" ⟨10,0,2,0,0⟩ (by decide) emptyStore rfl _ (by decide) (by decide)⟩

def alternating : List (Observation Unit) :=
  (List.range 130).map fun i => ⟨if i % 2 = 0 then "on" else "off",0,()⟩

def cooldownRun : List (Observation Unit) := [⟨"on",1,()⟩,⟨"off",1,()⟩,⟨"on",2,()⟩]

-- With AggregateAt = 129 the reference sends an aggregate Recent's 128 items
-- never allow; with a cooldown of MaxInt64 seconds AggUntilTS wraps negative.
set_option maxRecDepth 10000 in
theorem flap_control_misses_reference :
    validateFlapping ⟨10,0,129,0,0⟩ = none ∧
      ((runObservations unitJson plainZstd "c" "s" (some ⟨10,0,129,0,0⟩) emptyStore alternating).1.map (·.action))[129]? =
        some .suppressFlapping ∧
      (specRun none ⟨10,0,129,0,0⟩ none (alternating.map fun o => (o.value,o.now))).1[129]? = some .aggregateSent ∧
    validateFlapping ⟨10,0,1,0,9223372036854775807⟩ = none ∧
      (runObservations unitJson plainZstd "c" "s" (some ⟨10,0,1,0,9223372036854775807⟩) emptyStore cooldownRun).1.map
        (·.action) = [.edgeTriggeredForward,.aggregateSent,.aggregateSent] ∧
      (specRun none ⟨10,0,1,0,9223372036854775807⟩ none (cooldownRun.map fun o => (o.value,o.now))).1 =
        [.edgeTriggeredForward,.aggregateSent,.suppressFlapping] := by
  have capped : (runObservations unitJson plainZstd "c" "s" (some ⟨10,0,129,0,0⟩) emptyStore alternating).1.map
      (·.action) = (specRun (some hardLimitRecentItems) ⟨10,0,129,0,0⟩ none (alternating.map fun o => (o.value,o.now))).1 :=
    (runs_simulate unitJson plainZstd (fun _ => ⟨[],rfl⟩) (by decide) alternating (by simp [alternating])
      (by simp [alternating]) emptyStore none trivial).1
  refine ⟨by decide,?_,by decide,by decide,by decide,by decide⟩
  rw [capped]
  decide

end Enoti
