import Enoti.Interaction
import Enoti.Types

namespace Enoti

-- ports.DataStore: its methods as calls, and the contract the port documents.

-- window is in seconds.
inductive DataStoreCall where
  | acquire (scope : String) (ratePerWindow : Int) (window : Int)
  | load (clientID scopeKey : String)
  | upsertCAS (clientID scopeKey : String) (prevVersion : Int) (next : Edge)

abbrev DataStoreCall.Resp : DataStoreCall → Type
  | .acquire .. => Except String Bool
  | .load .. => Except String (Option Edge × Int)
  | .upsertCAS .. => Except String Bool

abbrev StoreProg := Interaction DataStoreCall DataStoreCall.Resp

def DataStoreCall.failed : (call : DataStoreCall) → String → call.Resp
  | .acquire .., err => .error err
  | .load .., err => .error err
  | .upsertCAS .., err => .error err

abbrev Slot := Option (Edge × Int)

def loadSlot : Slot → Option Edge × Int
  | none => (none,0)
  | some (e,v) => (some e,v)

-- UpsertCAS as an atomic versioned register: a create (prevVersion 0) commits
-- only on an empty slot, an update only when the versions match.
def upsertSlot (scopeKey : String) (prevVersion : Int) (next : Edge) : Slot → Bool × Slot
  | none => if prevVersion = 0 then (true,some ({next with scopeKey:=scopeKey},1)) else (false,none)
  | some (e,v) =>
    if prevVersion ≠ 0 ∧ v = prevVersion then (true,some ({next with scopeKey:=scopeKey},prevVersion+1))
    else (false,some (e,v))

-- A rate of zero or less is never granted.
def acquireSlot (ratePerWindow : Int) (granted : Nat) : Bool × Nat :=
  if ratePerWindow ≤ 0 then (false,granted)
  else if (granted : Int) < ratePerWindow then (true,granted+1) else (false,granted)

-- The state behind the port within one rate window.
structure StoreState where
  edges : String × String → Slot
  grants : String → Nat

def storeAnswer (s : StoreState) : (call : DataStoreCall) → call.Resp × StoreState
  | .acquire scope rate _ =>
    (.ok (acquireSlot rate (s.grants scope)).1,{s with grants:=Function.update s.grants scope (acquireSlot rate (s.grants scope)).2})
  | .load clientID scopeKey => (.ok (loadSlot (s.edges (clientID,scopeKey))),s)
  | .upsertCAS clientID scopeKey prevVersion next =>
    (.ok (upsertSlot scopeKey prevVersion next (s.edges (clientID,scopeKey))).1,
      {s with edges:=Function.update s.edges (clientID,scopeKey) (upsertSlot scopeKey prevVersion next (s.edges (clientID,scopeKey))).2})

-- A failed call changes nothing.
def storeAnswers (s : StoreState) (call : DataStoreCall) (r : call.Resp) (s' : StoreState) : Prop :=
  storeAnswer s call = (r,s') ∨ ∃ err, r = call.failed err ∧ s' = s

@[simp] theorem storeAnswer_load (s : StoreState) (clientID scopeKey : String) :
    storeAnswer s (.load clientID scopeKey) = (.ok (loadSlot (s.edges (clientID,scopeKey))),s) := rfl

@[simp] theorem storeAnswer_upsertCAS (s : StoreState) (clientID scopeKey : String) (prevVersion : Int) (next : Edge) :
    storeAnswer s (.upsertCAS clientID scopeKey prevVersion next) =
      (.ok (upsertSlot scopeKey prevVersion next (s.edges (clientID,scopeKey))).1,
        {s with edges:=Function.update s.edges (clientID,scopeKey) (upsertSlot scopeKey prevVersion next (s.edges (clientID,scopeKey))).2}) := rfl

@[simp] theorem storeAnswer_acquire (s : StoreState) (scope : String) (rate window : Int) :
    storeAnswer s (.acquire scope rate window) =
      (.ok (acquireSlot rate (s.grants scope)).1,{s with grants:=Function.update s.grants scope (acquireSlot rate (s.grants scope)).2}) := rfl

theorem upsertSlot_load (scopeKey : String) (prevVersion : Int) (next : Edge) (slot : Slot) :
    (upsertSlot scopeKey prevVersion next slot).1 = true ↔ prevVersion = (loadSlot slot).2 ∧ (prevVersion = 0 ↔ slot = none) := by
  cases slot with
  | none => by_cases zero : prevVersion = 0 <;> simp [upsertSlot,loadSlot,zero]
  | some stored =>
    obtain ⟨e,v⟩ := stored
    by_cases zero : prevVersion = 0
    · simp [upsertSlot,loadSlot,zero]
    by_cases same : v = prevVersion
    · simp [upsertSlot,loadSlot,zero,same]
    · simp [upsertSlot,loadSlot,zero,same]
      omega

theorem upsertSlot_committed {scopeKey : String} {prevVersion : Int} {next : Edge} {slot : Slot}
    (committed : (upsertSlot scopeKey prevVersion next slot).1 = true) :
    ∃ v, (upsertSlot scopeKey prevVersion next slot).2 = some ({next with scopeKey:=scopeKey},v) := by
  cases slot with
  | none =>
    by_cases zero : prevVersion = 0
    · exact ⟨1,by rw [upsertSlot,if_pos zero]⟩
    · rw [upsertSlot,if_neg zero] at committed
      cases committed
  | some stored =>
    obtain ⟨e,v⟩ := stored
    by_cases matching : prevVersion ≠ 0 ∧ v = prevVersion
    · exact ⟨prevVersion+1,by rw [upsertSlot,if_pos matching]⟩
    · rw [upsertSlot,if_neg matching] at committed
      cases committed

theorem upsertSlot_refused {scopeKey : String} {prevVersion : Int} {next : Edge} {slot : Slot}
    (refused : (upsertSlot scopeKey prevVersion next slot).1 = false) : (upsertSlot scopeKey prevVersion next slot).2 = slot := by
  cases slot with
  | none =>
    by_cases zero : prevVersion = 0
    · rw [upsertSlot,if_pos zero] at refused
      cases refused
    · rw [upsertSlot,if_neg zero]
  | some stored =>
    obtain ⟨e,v⟩ := stored
    by_cases matching : prevVersion ≠ 0 ∧ v = prevVersion
    · rw [upsertSlot,if_pos matching] at refused
      cases refused
    · rw [upsertSlot,if_neg matching]

theorem acquireSlot_refused {ratePerWindow : Int} {granted : Nat} (refused : (acquireSlot ratePerWindow granted).1 = false) :
    (acquireSlot ratePerWindow granted).2 = granted := by
  unfold acquireSlot at refused ⊢
  split_ifs at refused ⊢ <;> simp_all

theorem acquireSlot_le {ratePerWindow : Int} {granted : Nat} (within : (granted : Int) ≤ ratePerWindow) :
    ((acquireSlot ratePerWindow granted).2 : Int) ≤ ratePerWindow := by
  unfold acquireSlot
  split_ifs <;> simp <;> omega

theorem storeAnswers_load {s s' : StoreState} {clientID scopeKey : String} {r : Except String (Option Edge × Int)}
    (answered : storeAnswers s (.load clientID scopeKey) r s') :
    s' = s ∧ (r = .ok (loadSlot (s.edges (clientID,scopeKey))) ∨ ∃ err, r = .error err) := by
  rcases answered with exact | ⟨err,failed,rfl⟩
  · rw [storeAnswer_load] at exact
    obtain ⟨rfl,rfl⟩ := Prod.mk.inj exact
    exact ⟨rfl,.inl rfl⟩
  · exact ⟨rfl,.inr ⟨err,failed⟩⟩

theorem storeAnswers_upsertCAS {s s' : StoreState} {clientID scopeKey : String} {prevVersion : Int} {next : Edge}
    {r : Except String Bool} (answered : storeAnswers s (.upsertCAS clientID scopeKey prevVersion next) r s') :
    (r = .ok (upsertSlot scopeKey prevVersion next (s.edges (clientID,scopeKey))).1 ∧
      s' = {s with edges:=Function.update s.edges (clientID,scopeKey) (upsertSlot scopeKey prevVersion next (s.edges (clientID,scopeKey))).2}) ∨
    (∃ err, r = .error err ∧ s' = s) := by
  rcases answered with exact | ⟨err,failed,rfl⟩
  · rw [storeAnswer_upsertCAS] at exact
    obtain ⟨rfl,rfl⟩ := Prod.mk.inj exact
    exact .inl ⟨rfl,rfl⟩
  · exact .inr ⟨err,failed,rfl⟩

theorem storeAnswers_acquire {s s' : StoreState} {scope : String} {rate window : Int} {r : Except String Bool}
    (answered : storeAnswers s (.acquire scope rate window) r s') :
    (r = .ok (acquireSlot rate (s.grants scope)).1 ∧
      s' = {s with grants:=Function.update s.grants scope (acquireSlot rate (s.grants scope)).2}) ∨
    (∃ err, r = .error err ∧ s' = s) := by
  rcases answered with exact | ⟨err,failed,rfl⟩
  · rw [storeAnswer_acquire] at exact
    obtain ⟨rfl,rfl⟩ := Prod.mk.inj exact
    exact .inl ⟨rfl,rfl⟩
  · exact .inr ⟨err,failed,rfl⟩

theorem acquireSlot_granted (ratePerWindow : Int) (granted : Nat) :
    (acquireSlot ratePerWindow granted).1 = true ↔ (granted : Int) < ratePerWindow := by
  unfold acquireSlot
  split_ifs <;> simp <;> omega

end Enoti
