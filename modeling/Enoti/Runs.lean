import Enoti.EdgeStep

namespace Enoti

variable {π : Type}

structure Observation (π : Type) where
  value : String
  now : Int
  payload : π

def SlotValid (slot : Slot) : Prop := ∀ e v, slot = some (e,v) → 0 < v

section
variable (json : JsonCodec π) (zstd : Zstd) (clientID scopeKey : String) (f : Option FlapConfig)

def evaluate (s : StoreState) (o : Observation π) : Evaluation π × StoreState :=
  (evaluateEdgeAndFlap json zstd clientID scopeKey o.value f o.payload o.now).run storeAnswer s

def runObservations (s : StoreState) : List (Observation π) → List (Evaluation π) × StoreState
  | [] => ([],s)
  | o :: rest =>
    ((evaluate json zstd clientID scopeKey f s o).1 :: (runObservations (evaluate json zstd clientID scopeKey f s o).2 rest).1,
      (runObservations (evaluate json zstd clientID scopeKey f s o).2 rest).2)

end

variable {json : JsonCodec π} {zstd : Zstd} {clientID scopeKey : String} {f : Option FlapConfig}

theorem runObservations_append (s : StoreState) (xs ys : List (Observation π)) :
    runObservations json zstd clientID scopeKey f s (xs ++ ys) =
      ((runObservations json zstd clientID scopeKey f s xs).1 ++
          (runObservations json zstd clientID scopeKey f (runObservations json zstd clientID scopeKey f s xs).2 ys).1,
        (runObservations json zstd clientID scopeKey f (runObservations json zstd clientID scopeKey f s xs).2 ys).2) := by
  induction xs generalizing s with
  | nil => rfl
  | cons o rest ih => simp only [List.cons_append,runObservations,ih,List.cons_append]

theorem runObservations_snoc (s : StoreState) (obs : List (Observation π)) (o : Observation π) :
    runObservations json zstd clientID scopeKey f s (obs ++ [o]) =
      ((runObservations json zstd clientID scopeKey f s obs).1 ++
          [(evaluate json zstd clientID scopeKey f (runObservations json zstd clientID scopeKey f s obs).2 o).1],
        (evaluate json zstd clientID scopeKey f (runObservations json zstd clientID scopeKey f s obs).2 o).2) := by
  rw [runObservations_append]
  rfl

@[simp] theorem runObservations_length (s : StoreState) (obs : List (Observation π)) :
    (runObservations json zstd clientID scopeKey f s obs).1.length = obs.length := by
  induction obs generalizing s with
  | nil => rfl
  | cons o rest ih => simp [runObservations,ih]

theorem runObservations_getElem (s : StoreState) (obs : List (Observation π)) (i : Nat) (within : i < obs.length)
    (bound : i < (runObservations json zstd clientID scopeKey f s obs).1.length) :
    (runObservations json zstd clientID scopeKey f s obs).1[i] =
      (evaluate json zstd clientID scopeKey f (runObservations json zstd clientID scopeKey f s (obs.take i)).2 obs[i]).1 := by
  induction obs generalizing s i with
  | nil => cases within
  | cons o rest ih =>
    cases i with
    | zero => rfl
    | succ j =>
      simp only [runObservations,List.getElem_cons_succ,List.take_succ_cons]
      exact ih _ j (by simpa using within) _

theorem runObservations_take_succ (s : StoreState) (obs : List (Observation π)) (i : Nat) (within : i < obs.length) :
    (runObservations json zstd clientID scopeKey f s (obs.take (i+1))).2 =
      (evaluate json zstd clientID scopeKey f (runObservations json zstd clientID scopeKey f s (obs.take i)).2 obs[i]).2 := by
  rw [List.take_succ_eq_append_getElem within,runObservations_snoc]

def storedPayload (json : JsonCodec π) (zstd : Zstd) (d : π) : String :=
  match encodePayload json zstd d with
  | .ok encoded => encoded
  | .error _ => ""

theorem encodePayload_stored (marshals : ∀ d, ∃ b, json.marshal d = .ok b) (d : π) :
    encodePayload json zstd d = .ok (storedPayload json zstd d) := by
  obtain ⟨b,marshaled⟩ := marshals d
  simp [storedPayload,encodePayload_ok marshaled]

theorem plannedWrite_stable {edgeInfo : Edge} {ver : Int} {newVal : String} {payload : π} {now : Int}
    (stable : edgeInfo.lastValue = newVal) : plannedWrite json zstd f newVal payload now (some edgeInfo,ver) = none := by
  simp [plannedWrite,stable]

theorem plannedWrite_flip (marshals : ∀ d, ∃ b, json.marshal d = .ok b) {edgeInfo : Edge} {ver : Int} {newVal : String}
    {payload : π} {now : Int} (flipped : edgeInfo.lastValue ≠ newVal) :
    plannedWrite json zstd f newVal payload now (some edgeInfo,ver) =
      some (ver,flipOutcome json zstd f now (recordFlip edgeInfo newVal now (storedPayload json zstd payload))) := by
  simp [plannedWrite,flipped,encodePayload_stored marshals payload]

theorem plannedWrite_some_version {edgeInfo : Edge} {v ver : Int} {next : Edge} {result : Evaluation π}
    {newVal : String} {payload : π} {now : Int}
    (planned : plannedWrite json zstd f newVal payload now (some edgeInfo,v) = some (ver,next,result)) : ver = v := by
  by_cases stable : edgeInfo.lastValue = newVal
  · simp [plannedWrite,stable] at planned
  · cases encoded : encodePayload json zstd payload with
    | error err => simp [plannedWrite,stable,encoded] at planned
    | ok enc =>
      simp only [plannedWrite,stable,encoded,if_false,Option.some.injEq,Prod.mk.injEq] at planned
      exact planned.1.symm

theorem plannedWrite_version {slot : Slot} {ver : Int} {next : Edge} {result : Evaluation π}
    {newVal : String} {payload : π} {now : Int}
    (planned : plannedWrite json zstd f newVal payload now (loadSlot slot) = some (ver,next,result)) :
    ver = (loadSlot slot).2 := by
  cases slot with
  | none =>
    cases planned
    rfl
  | some stored => exact plannedWrite_some_version planned

theorem upsertSlot_commits {slot : Slot} (valid : SlotValid slot) (next : Edge) :
    upsertSlot scopeKey (loadSlot slot).2 next slot = (true,some ({next with scopeKey:=scopeKey},(loadSlot slot).2+1)) := by
  cases slot with
  | none => rfl
  | some stored =>
    obtain ⟨e,v⟩ := stored
    have positive := valid e v rfl
    simp [upsertSlot,loadSlot,Int.ne_of_gt positive]

theorem loadSlot_version_nonneg {slot : Slot} (valid : SlotValid slot) : 0 ≤ (loadSlot slot).2 := by
  cases slot with
  | none => exact Int.le_refl 0
  | some stored =>
    obtain ⟨e,v⟩ := stored
    exact Int.le_of_lt (valid e v rfl)

theorem evaluate_planned {s : StoreState} {o : Observation π} {ver : Int} {next : Edge} {result : Evaluation π}
    (valid : SlotValid (s.edges (clientID,scopeKey)))
    (planned : plannedWrite json zstd f o.value o.payload o.now (loadSlot (s.edges (clientID,scopeKey))) = some (ver,next,result)) :
    evaluate json zstd clientID scopeKey f s o =
      (result,{s with edges:=Function.update s.edges (clientID,scopeKey) (some ({next with scopeKey:=scopeKey},ver+1))}) := by
  have shape := evaluateLoaded_shape json zstd clientID scopeKey o.value f o.payload o.now (loadSlot (s.edges (clientID,scopeKey)))
  rw [planned] at shape
  obtain ⟨k,program,settles⟩ := shape
  have version := plannedWrite_version planned
  subst version
  unfold evaluate evaluateEdgeAndFlap
  rw [Interaction.run_call,storeAnswer_load]
  dsimp only
  rw [program,Interaction.run_call,storeAnswer_upsertCAS,upsertSlot_commits valid]
  dsimp only
  rw [settles.1]
  rfl

theorem evaluate_unplanned {s : StoreState} {o : Observation π}
    (unplanned : plannedWrite json zstd f o.value o.payload o.now (loadSlot (s.edges (clientID,scopeKey))) = none) :
    (evaluate json zstd clientID scopeKey f s o).1.action = .noOp ∧ (evaluate json zstd clientID scopeKey f s o).1.aggregate = none ∧
      (evaluate json zstd clientID scopeKey f s o).2 = s := by
  have shape := evaluateLoaded_shape json zstd clientID scopeKey o.value f o.payload o.now (loadSlot (s.edges (clientID,scopeKey)))
  rw [unplanned] at shape
  obtain ⟨x,program,quiet,unsent⟩ := shape
  unfold evaluate evaluateEdgeAndFlap
  rw [Interaction.run_call,storeAnswer_load]
  dsimp only
  rw [program]
  exact ⟨quiet,unsent,rfl⟩

theorem slotValid_none : SlotValid none := by
  intro e v absent
  cases absent

theorem slotValid_some {e : Edge} {v : Int} (positive : 0 < v) : SlotValid (some (e,v)) := by
  intro e' v' same
  cases same
  exact positive

theorem upsertSlot_valid {slot : Slot} (valid : SlotValid slot) (prevVersion : Int) (next : Edge) :
    SlotValid (upsertSlot scopeKey prevVersion next slot).2 := by
  cases slot with
  | none =>
    by_cases create : prevVersion = 0
    · simp only [upsertSlot,if_pos create]
      exact slotValid_some Int.one_pos
    · simp only [upsertSlot,if_neg create]
      exact slotValid_none
  | some stored =>
    obtain ⟨e,v⟩ := stored
    have positive := valid e v rfl
    by_cases agreed : prevVersion ≠ 0 ∧ v = prevVersion
    · simp only [upsertSlot,if_pos agreed]
      exact slotValid_some (by omega)
    · simp only [upsertSlot,if_neg agreed]
      exact valid

theorem storeAnswer_valid {s : StoreState} (valid : ∀ slot, SlotValid (s.edges slot)) (call : DataStoreCall) :
    ∀ slot, SlotValid ((storeAnswer s call).2.edges slot) := by
  cases call with
  | acquire => exact valid
  | load => exact valid
  | upsertCAS clientID scopeKey prevVersion next =>
    intro slot
    by_cases written : slot = (clientID,scopeKey)
    · subst written
      simp only [storeAnswer,Function.update_self]
      exact upsertSlot_valid (valid _) prevVersion next
    · simp only [storeAnswer,Function.update_of_ne written]
      exact valid slot

theorem evaluate_first {s : StoreState} {o : Observation π} (empty : s.edges (clientID,scopeKey) = none) :
    evaluate json zstd clientID scopeKey f s o =
      (.ok .edgeTriggeredForward,{s with edges:=Function.update s.edges (clientID,scopeKey) (some ({firstEdge o.value o.now with scopeKey:=scopeKey},1))}) := by
  have valid : SlotValid (s.edges (clientID,scopeKey)) := by
    rw [empty]
    exact slotValid_none
  exact evaluate_planned valid (by rw [empty]; rfl)

theorem evaluate_stable {s : StoreState} {o : Observation π} {e : Edge} {v : Int}
    (stored : s.edges (clientID,scopeKey) = some (e,v)) (stable : e.lastValue = o.value) :
    (evaluate json zstd clientID scopeKey f s o).1.action = .noOp ∧ (evaluate json zstd clientID scopeKey f s o).1.aggregate = none ∧
      (evaluate json zstd clientID scopeKey f s o).2 = s := by
  apply evaluate_unplanned
  rw [stored]
  exact plannedWrite_stable stable

theorem evaluate_flip (marshals : ∀ d, ∃ b, json.marshal d = .ok b) {s : StoreState} {o : Observation π} {e : Edge}
    {v : Int} (stored : s.edges (clientID,scopeKey) = some (e,v)) (positive : 0 < v) (flipped : e.lastValue ≠ o.value) :
    evaluate json zstd clientID scopeKey f s o =
      ((flipOutcome json zstd f o.now (recordFlip e o.value o.now (storedPayload json zstd o.payload))).2,
        {s with edges:=Function.update s.edges (clientID,scopeKey) (some ({(flipOutcome json zstd f o.now (recordFlip e o.value o.now (storedPayload json zstd o.payload))).1 with scopeKey:=scopeKey},v+1))}) := by
  have valid : SlotValid (s.edges (clientID,scopeKey)) := by
    rw [stored]
    exact slotValid_some positive
  exact evaluate_planned valid (by rw [stored]; exact plannedWrite_flip marshals flipped)

def unitJson : JsonCodec Unit := ⟨fun _ => .ok [],fun _ => .ok ()⟩
def emptyStore : StoreState := ⟨fun _ => none,fun _ => 0⟩

end Enoti
