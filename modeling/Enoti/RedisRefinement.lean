import Enoti.KeySpace
import Enoti.Runs
import Enoti.Simulation
import Mathlib.Logic.Equiv.List

namespace Enoti

-- redis.DataStore against the DataStore contract. Its create path writes without
-- checking that the key is absent, so it is simulated only under a guard.

namespace RedisBackend

open Interaction

def serveData (json : JsonText (List Flip)) (now : Int) : (call : DataStoreCall) → RedisProg call.Resp
  | .acquire scope ratePerWindow window => acquire now scope ratePerWindow window
  | .load clientID scopeKey => load json clientID scopeKey
  | .upsertCAS clientID scopeKey prevVersion next => upsertCAS json clientID scopeKey prevVersion next

structure JsonText.Inverse {α : Type} (json : JsonText α) : Prop where
  round_trip : ∀ a, ∃ text, json.marshal a = .ok text ∧ json.unmarshal text = .ok a

def Encodes (json : JsonText (List Flip)) (m : Redis.Fields) (e : Edge) (v : Int) : Prop :=
  ∃ text, json.unmarshal text = .ok e.recent ∧ ∀ p ∈ edgeFields e text v, m.lookup p.1 = some p.2

theorem edgeFields_encodes {json : JsonText (List Flip)} {e : Edge} {text : String} (read : json.unmarshal text = .ok e.recent)
    (m : Redis.Fields) (v : Int) : Encodes json (Redis.setFields m (edgeFields e text v)) e v :=
  ⟨text,read,by simp [edgeFields,Redis.setFields,AList.lookup_insert,AList.lookup_insert_ne]⟩

-- What Load reads from an encoded hash: the edge with Version zero.
def zeroed : Option Edge × Int → Option Edge × Int
  | (stored,v) => (stored.map fun e => {e with version:=0},v)

theorem bind_ok_inv {ε α β : Type} {x : Except ε α} {f : α → Except ε β} {b : β} (bound : (x >>= f) = .ok b) :
    ∃ a, x = .ok a ∧ f a = .ok b := by
  cases x with
  | error err => cases bound
  | ok a => exact ⟨a,rfl,bound⟩

theorem invalid_ok {name : String} {α : Type} {x : Except String α} {a : α} (read : invalid name x = .ok a) : x = .ok a := by
  cases x with
  | error err => cases read
  | ok b =>
    cases read
    rfl

-- A field written past int64 fails to parse, and then nothing decodes.
theorem decodeEdge_encodes {json : JsonText (List Flip)} {m : Redis.Fields} {e : Edge} {v : Int} {x : Option Edge × Int}
    (encoded : Encodes json m e v) (decoded : decodeEdge json e.scopeKey m = .ok x) : x = zeroed (some e,v) := by
  obtain ⟨text,read,fields⟩ := encoded
  simp only [edgeFields,List.forall_mem_cons,List.not_mem_nil,IsEmpty.forall_iff,implies_true,and_true] at fields
  obtain ⟨lastValue,lastChangeTS,windowStart,flipCount,recent,aggUntilTS,ver⟩ := fields
  have filled : m.entries ≠ [] := by
    intro empty
    have none : m.lookup "ver" = none := by rw [AList.lookup,empty]; rfl
    rw [none] at ver
    cases ver
  simp only [decodeEdge,filled,if_false,field,lastValue,lastChangeTS,windowStart,flipCount,recent,aggUntilTS,ver,
    Option.getD_some,read] at decoded
  obtain ⟨ver',readVer,decoded⟩ := bind_ok_inv decoded
  obtain ⟨lastChangeTS',readLastChangeTS,decoded⟩ := bind_ok_inv decoded
  obtain ⟨windowStart',readWindowStart,decoded⟩ := bind_ok_inv decoded
  obtain ⟨flipCount',readFlipCount,decoded⟩ := bind_ok_inv decoded
  obtain ⟨aggUntilTS',readAggUntilTS,decoded⟩ := bind_ok_inv decoded
  obtain ⟨recent',readRecent,decoded⟩ := bind_ok_inv decoded
  obtain rfl := Strconv.parseInt_formatInt_ok (invalid_ok readVer)
  obtain rfl := Strconv.parseInt_formatInt_ok (invalid_ok readLastChangeTS)
  obtain rfl := Strconv.parseInt_formatInt_ok (invalid_ok readWindowStart)
  obtain rfl := Strconv.atoi_formatInt_ok (invalid_ok readFlipCount)
  obtain rfl := Strconv.parseInt_formatInt_ok (invalid_ok readAggUntilTS)
  cases invalid_ok readRecent
  cases decoded
  rfl

def HoldsHash (json : JsonText (List Flip)) (scopeKey : String) : Option Redis.Value → Slot → Prop
  | none,none => True
  | some (.hash m),some (e,v) => e.scopeKey = scopeKey ∧ Encodes json m e v
  | _,_ => False

def Counts : Option Redis.Value → Nat → Prop
  | none,granted => granted = 0
  | some (.hash m),granted => m.lookup "count" = if granted = 0 then none else some (Strconv.formatInt granted)
  | some (.str _),_ => False

structure KeyWrite {β : Type} (key : String) (R : Option Redis.Value → β → Prop) (t t' : Redis.Store) (b : β) : Prop where
  related : R (t'.lookup key) b
  frame : ∀ other, other ≠ key → t'.lookup other = t.lookup other

theorem KeyWrite.unchanged {β : Type} {key : String} {R : Option Redis.Value → β → Prop} {t : Redis.Store} {b : β}
    (related : R (t.lookup key) b) : KeyWrite key R t t b :=
  ⟨related,fun _ _ => rfl⟩

theorem KeyWrite.written {β : Type} {key : String} {R : Option Redis.Value → β → Prop} {t : Redis.Store} {b : β}
    {v : Redis.Value} (related : R (some v) b) : KeyWrite key R t (t.insert key v) b :=
  ⟨by rw [AList.lookup_insert]; exact related,fun _ away => AList.lookup_insert_ne away⟩

def KeyOutcome {β : Type} (key : String) (R : Option Redis.Value → β → Prop) (t : Redis.Store) (r : Except String Bool)
    (t' : Redis.Store) (answer : Bool × β) : Prop :=
  (r = .ok answer.1 ∧ KeyWrite key R t t' answer.2) ∨ ((∃ err, r = .error err) ∧ t' = t)

section
variable {json : JsonText (List Flip)} {t t' : Redis.Store} {clientID scopeKey : String}

theorem load_runs {slot : Slot} (held : HoldsHash json scopeKey (t.lookup (getDataKeyName clientID scopeKey)) slot)
    {r : Except String (Option Edge × Int)} (path : Runs Redis.Answers (load json clientID scopeKey) t r t') :
    t' = t ∧ (r = .ok (zeroed (loadSlot slot)) ∨ ∃ err, r = .error err) := by
  obtain ⟨reply,middle,answered,rest⟩ := runs_call_inv path
  rcases answered with ran | ⟨msg,rfl,rfl⟩
  · cases entry : t.lookup (getDataKeyName clientID scopeKey) with
    | none =>
      rw [entry] at held
      cases slot with
      | none =>
        rw [Redis.exec_hGetAll_absent entry] at ran
        obtain ⟨rfl,rfl⟩ := Prod.mk.inj ran
        obtain ⟨rfl,rfl⟩ := runs_pure_inv rest
        exact ⟨rfl,.inl rfl⟩
      | some stored => cases held
    | some value =>
      rw [entry] at held
      cases value with
      | str _ => cases slot <;> cases held
      | hash m =>
        cases slot with
        | none => cases held
        | some stored =>
          obtain ⟨e,v⟩ := stored
          obtain ⟨named,encoded⟩ := held
          rw [Redis.exec_hGetAll_hash entry] at ran
          obtain ⟨rfl,rfl⟩ := Prod.mk.inj ran
          obtain ⟨rfl,rfl⟩ := runs_pure_inv rest
          refine ⟨rfl,?_⟩
          cases decoded : decodeEdge json scopeKey m with
          | error err => exact .inr ⟨err,rfl⟩
          | ok x =>
            subst named
            exact .inl (congrArg Except.ok (decodeEdge_encodes encoded decoded))
  · obtain ⟨rfl,rfl⟩ := runs_pure_inv rest
    exact ⟨rfl,.inr ⟨_,rfl⟩⟩

variable (inverse : JsonText.Inverse json) {next : Edge}
include inverse

theorem upsertCAS_create_runs (held : HoldsHash json scopeKey (t.lookup (getDataKeyName clientID scopeKey)) none)
    {r : Except String Bool} (path : Runs Redis.Answers (upsertCAS json clientID scopeKey 0 next) t r t') :
    KeyOutcome (getDataKeyName clientID scopeKey) (HoldsHash json scopeKey) t r t' (upsertSlot scopeKey 0 next none) := by
  have absent : t.lookup (getDataKeyName clientID scopeKey) = none := by
    cases entry : t.lookup (getDataKeyName clientID scopeKey) with
    | none => rfl
    | some value =>
      rw [entry] at held
      cases value <;> cases held
  obtain ⟨text,marshaled,read⟩ := inverse.round_trip next.recent
  simp only [upsertCAS,if_true,marshaled] at path
  rw [upsertSlot,if_pos rfl]
  obtain ⟨reply,middle,answered,rest⟩ := runs_call_inv path
  rcases answered with ran | ⟨msg,rfl,rfl⟩
  · rw [Redis.exec_hMSet_absent absent] at ran
    obtain ⟨rfl,rfl⟩ := Prod.mk.inj ran
    obtain ⟨rfl,rfl⟩ := runs_pure_inv rest
    exact .inl ⟨rfl,.written ⟨rfl,edgeFields_encodes read ((∅ : Redis.Fields).insert "scope_key" scopeKey) 1⟩⟩
  · obtain ⟨rfl,rfl⟩ := runs_pure_inv rest
    exact .inr ⟨⟨_,rfl⟩,rfl⟩

theorem updateAt_runs {m : Redis.Fields} {e : Edge} {v prev : Int} (nonzero : prev ≠ 0)
    (entry : t.lookup (getDataKeyName clientID scopeKey) = some (.hash m)) (named : e.scopeKey = scopeKey)
    (encoded : Encodes json m e v) {r : Except String Bool}
    (path : Runs Redis.Answers (updateAt json (getDataKeyName clientID scopeKey) prev {next with scopeKey:=scopeKey}
      (Strconv.formatInt v)) t r t') :
    KeyOutcome (getDataKeyName clientID scopeKey) (HoldsHash json scopeKey) t r t' (upsertSlot scopeKey prev next (some (e,v))) := by
  rw [updateAt,if_neg (Strconv.formatInt_ne_empty v)] at path
  cases parsed : invalid "ver" (Strconv.parseInt (Strconv.formatInt v)) with
  | error err =>
    -- a version past int64 does not parse: nothing is written
    rw [parsed] at path
    obtain ⟨rfl,rfl⟩ := runs_pure_inv path
    exact .inr ⟨⟨err,rfl⟩,rfl⟩
  | ok current =>
    obtain rfl := Strconv.parseInt_formatInt_ok (invalid_ok parsed)
    rw [parsed] at path
    by_cases agreed : current = prev
    · subst agreed
      obtain ⟨text,marshaled,read⟩ := inverse.round_trip next.recent
      simp only [ne_eq,not_true_eq_false,if_false,marshaled] at path
      rw [upsertSlot,if_pos ⟨nonzero,rfl⟩]
      obtain ⟨reply,middle,answered,rest⟩ := runs_call_inv path
      rcases answered with ran | ⟨msg,rfl,rfl⟩
      · rw [Redis.exec_hMSet_hash entry] at ran
        obtain ⟨rfl,rfl⟩ := Prod.mk.inj ran
        obtain ⟨rfl,rfl⟩ := runs_pure_inv rest
        exact .inl ⟨rfl,.written ⟨rfl,edgeFields_encodes read m (current + 1)⟩⟩
      · obtain ⟨rfl,rfl⟩ := runs_pure_inv rest
        exact .inr ⟨⟨_,rfl⟩,rfl⟩
    · simp only [ne_eq,agreed,not_false_eq_true,if_true] at path
      obtain ⟨rfl,rfl⟩ := runs_pure_inv path
      rw [upsertSlot,if_neg fun both => agreed both.2]
      exact .inl ⟨rfl,.unchanged (by rw [entry]; exact ⟨named,encoded⟩)⟩

theorem upsertCAS_update_runs {slot : Slot} {prev : Int} (nonzero : prev ≠ 0)
    (held : HoldsHash json scopeKey (t.lookup (getDataKeyName clientID scopeKey)) slot) {r : Except String Bool}
    (path : Runs Redis.Answers (upsertCAS json clientID scopeKey prev next) t r t') :
    KeyOutcome (getDataKeyName clientID scopeKey) (HoldsHash json scopeKey) t r t' (upsertSlot scopeKey prev next slot) := by
  simp only [upsertCAS,if_neg nonzero] at path
  obtain ⟨reply,middle,answered,rest⟩ := runs_call_inv path
  rcases answered with ran | ⟨msg,rfl,rfl⟩
  · cases entry : t.lookup (getDataKeyName clientID scopeKey) with
    | none =>
      rw [entry] at held
      cases slot with
      | none =>
        rw [Redis.exec_hMGet_absent entry] at ran
        obtain ⟨rfl,rfl⟩ := Prod.mk.inj ran
        obtain ⟨rfl,rfl⟩ := runs_pure_inv rest
        rw [upsertSlot,if_neg nonzero]
        exact .inl ⟨rfl,.unchanged (by rw [entry]; trivial)⟩
      | some stored => cases held
    | some value =>
      rw [entry] at held
      cases value with
      | str _ => cases slot <;> cases held
      | hash m =>
        cases slot with
        | none => cases held
        | some stored =>
          obtain ⟨e,v⟩ := stored
          obtain ⟨named,encoded⟩ := held
          have ver : m.lookup "ver" = some (Strconv.formatInt v) := by
            obtain ⟨text,-,fields⟩ := encoded
            exact fields ("ver",Strconv.formatInt v) (by simp [edgeFields])
          rw [Redis.exec_hMGet_hash entry] at ran
          obtain ⟨rfl,rfl⟩ := Prod.mk.inj ran
          simp only [List.map_cons,List.map_nil,List.head?_cons,ver] at rest
          exact updateAt_runs inverse nonzero entry named encoded rest
  · obtain ⟨rfl,rfl⟩ := runs_pure_inv rest
    exact .inr ⟨⟨_,rfl⟩,rfl⟩

end

section
variable {t t' : Redis.Store} {key : String} {rate window : Int}

-- When a window's EXPIRE fails, its first grant is already counted.
theorem firstGrant_runs {m : Redis.Fields} (incremented : Redis.hIncrBy t key "count" 1 = (.ok 1,t.insert key (.hash m)))
    (counted : m.lookup "count" = some (Strconv.formatInt 1)) (positive : ¬rate ≤ 0) {r : Except String Bool}
    (path : Runs Redis.Answers (firstGrant key window) t r t') :
    KeyOutcome key Counts t r t' (acquireSlot rate 0) ∨ ((∃ err, r = .error err) ∧ KeyWrite key Counts t t' (acquireSlot rate 0).2) := by
  have granted : acquireSlot rate 0 = (true,1) := by rw [acquireSlot,if_neg positive,if_pos (by omega)]
  have written : KeyWrite key Counts t (t.insert key (.hash m)) 1 := .written (by simp [Counts,counted])
  rw [granted]
  obtain ⟨reply,middle,answered,rest⟩ := runs_call_inv path
  rcases answered with ran | ⟨msg,rfl,rfl⟩
  · rw [Redis.exec_hIncrBy,incremented] at ran
    obtain ⟨rfl,rfl⟩ := Prod.mk.inj ran
    obtain ⟨reply',middle',answered',rest'⟩ := runs_call_inv rest
    rcases answered' with ran' | ⟨msg',rfl,rfl⟩
    · rw [Redis.exec_expire] at ran'
      obtain ⟨rfl,rfl⟩ := Prod.mk.inj ran'
      obtain ⟨rfl,rfl⟩ := runs_pure_inv rest'
      exact .inl (.inl ⟨rfl,written⟩)
    · obtain ⟨rfl,rfl⟩ := runs_pure_inv rest'
      exact .inr ⟨⟨_,rfl⟩,written⟩
  · obtain ⟨rfl,rfl⟩ := runs_pure_inv rest
    exact .inl (.inr ⟨⟨_,rfl⟩,rfl⟩)

theorem grantAt_runs {m : Redis.Fields} {g : Nat} (entry : t.lookup key = some (.hash m))
    (present : m.lookup "count" = some (Strconv.formatInt (g + 1 : Nat))) (positive : ¬rate ≤ 0) {r : Except String Bool}
    (path : Runs Redis.Answers (grantAt key rate (Strconv.formatInt (g + 1 : Nat))) t r t') :
    KeyOutcome key Counts t r t' (acquireSlot rate (g + 1)) := by
  simp only [grantAt,hasRoom,Strconv.formatInt_ne_empty,if_false] at path
  cases parsed : Strconv.atoi (Strconv.formatInt (g + 1 : Nat)) with
  | error err =>
    rw [parsed] at path
    obtain ⟨rfl,rfl⟩ := runs_pure_inv path
    exact .inr ⟨⟨_,rfl⟩,rfl⟩
  | ok count =>
    obtain rfl := Strconv.atoi_formatInt_ok parsed
    rw [parsed] at path
    have counted : Counts (t.lookup key) (g + 1) := by rw [entry]; simp [Counts,present]
    by_cases room : ((g + 1 : Nat) : Int) < rate
    · simp only [room,decide_true] at path
      rw [acquireSlot,if_neg positive,if_pos room]
      obtain ⟨reply,middle,answered,rest⟩ := runs_call_inv path
      rcases answered with ran | ⟨msg,rfl,rfl⟩
      · rw [Redis.exec_hIncrBy,Redis.hIncrBy_counter entry present] at ran
        obtain ⟨rfl,rfl⟩ := Prod.mk.inj ran
        obtain ⟨rfl,rfl⟩ := runs_pure_inv rest
        exact .inl ⟨rfl,.written (by simp [Counts])⟩
      · obtain ⟨rfl,rfl⟩ := runs_pure_inv rest
        exact .inr ⟨⟨_,rfl⟩,rfl⟩
    · simp only [room,decide_false] at path
      obtain ⟨rfl,rfl⟩ := runs_pure_inv path
      rw [acquireSlot,if_neg positive,if_neg room]
      exact .inl ⟨rfl,.unchanged counted⟩

theorem acquire_runs {now : Int} {scope : String} {granted : Nat}
    (counted : Counts (t.lookup (getWindowKeyName scope (now.tdiv 60))) granted) {r : Except String Bool}
    (path : Runs Redis.Answers (acquire now scope rate window) t r t') :
    KeyOutcome (getWindowKeyName scope (now.tdiv 60)) Counts t r t' (acquireSlot rate granted) ∨
      ((∃ err, r = .error err) ∧ KeyWrite (getWindowKeyName scope (now.tdiv 60)) Counts t t' (acquireSlot rate granted).2) := by
  unfold acquire at path
  split at path
  · rename_i nonpositive
    obtain ⟨rfl,rfl⟩ := runs_pure_inv path
    rw [acquireSlot,if_pos nonpositive]
    exact .inl (.inl ⟨rfl,.unchanged counted⟩)
  rename_i positive
  obtain ⟨reply,middle,answered,rest⟩ := runs_call_inv path
  rcases answered with ran | ⟨msg,rfl,rfl⟩
  · cases entry : t.lookup (getWindowKeyName scope (now.tdiv 60)) with
    | none =>
      rw [entry] at counted
      subst counted
      rw [Redis.exec_hGet_absent entry] at ran
      obtain ⟨rfl,rfl⟩ := Prod.mk.inj ran
      exact firstGrant_runs (Redis.hIncrBy_absent entry "count" 1) (AList.lookup_insert _) positive rest
    | some value =>
      rw [entry] at counted
      cases value with
      | str _ => cases counted
      | hash m =>
        cases granted with
        | zero =>
          have unset : m.lookup "count" = none := counted
          rw [Redis.exec_hGet_unset entry unset] at ran
          obtain ⟨rfl,rfl⟩ := Prod.mk.inj ran
          exact firstGrant_runs (Redis.hIncrBy_unset entry unset 1) (AList.lookup_insert _) positive rest
        | succ g =>
          have present : m.lookup "count" = some (Strconv.formatInt (g + 1 : Nat)) := by simpa [Counts] using counted
          rw [Redis.exec_hGet_field entry present] at ran
          obtain ⟨rfl,rfl⟩ := Prod.mk.inj ran
          exact .inl (grantAt_runs entry present positive rest)
  · obtain ⟨rfl,rfl⟩ := runs_pure_inv rest
    exact .inl (.inr ⟨⟨_,rfl⟩,rfl⟩)

end

structure Represents (json : JsonText (List Flip)) (now : Int) (t : Redis.Store) (s : StoreState) : Prop where
  edges : ∀ clientID scopeKey, DigitKey scopeKey →
    HoldsHash json scopeKey (t.lookup (getDataKeyName clientID scopeKey)) (s.edges (clientID,scopeKey))
  grants : ∀ scope, Counts (t.lookup (getWindowKeyName scope (now.tdiv 60))) (s.grants scope)

theorem represents_empty (json : JsonText (List Flip)) (now : Int) : Represents json now ∅ ⟨fun _ => none,fun _ => 0⟩ :=
  ⟨fun _ _ _ => trivial,fun _ => rfl⟩

def DigitSlot : DataStoreCall → Prop
  | .acquire .. => True
  | .load _ scopeKey => DigitKey scopeKey
  | .upsertCAS _ scopeKey _ _ => DigitKey scopeKey

def CreatesEmpty (s : StoreState) : DataStoreCall → Prop
  | .upsertCAS clientID scopeKey prevVersion _ => prevVersion = 0 → s.edges (clientID,scopeKey) = none
  | _ => True

def readBack : (call : DataStoreCall) → call.Resp → call.Resp
  | .load .., r => r.map zeroed
  | .acquire .., r => r
  | .upsertCAS .., r => r

def zeroedAnswer (s : StoreState) (call : DataStoreCall) : call.Resp × StoreState :=
  (readBack call (storeAnswer s call).1,(storeAnswer s call).2)

-- The contract as redis.DataStore meets it: Load reads Version back as zero, and
-- an Acquire whose EXPIRE fails has already counted its grant.
def redisAnswers (s : StoreState) (call : DataStoreCall) (r : call.Resp) (s' : StoreState) : Prop :=
  zeroedAnswer s call = (r,s') ∨
    ∃ err, r = call.failed err ∧ (s' = s ∨ (∃ scope rate window, call = .acquire scope rate window) ∧ s' = (storeAnswer s call).2)

section
variable {json : JsonText (List Flip)} {now : Int} {t t' : Redis.Store} {s : StoreState}

theorem Represents.after_write {clientID scopeKey : String} {slot : Slot} (represents : Represents json now t s)
    (digits : DigitKey scopeKey) (step : KeyWrite (getDataKeyName clientID scopeKey) (HoldsHash json scopeKey) t t' slot) :
    Represents json now t' {s with edges:=Function.update s.edges (clientID,scopeKey) slot} := by
  refine ⟨fun c k digits' => ?_,fun scope => ?_⟩
  · by_cases same : (c,k) = (clientID,scopeKey)
    · obtain ⟨rfl,rfl⟩ := Prod.mk.inj same
      simpa using step.related
    · have away : getDataKeyName c k ≠ getDataKeyName clientID scopeKey := fun keys =>
        same (Prod.ext_iff.2 (getDataKeyName_inj digits' digits keys))
      rw [step.frame _ away]
      simpa [Function.update_of_ne same] using represents.edges c k digits'
  · rw [step.frame _ (Ne.symm (dataKey_ne_windowKey clientID scopeKey scope (now.tdiv 60)))]
    exact represents.grants scope

theorem Represents.after_count {scope : String} {granted : Nat} (nonneg : 0 ≤ now) (represents : Represents json now t s)
    (step : KeyWrite (getWindowKeyName scope (now.tdiv 60)) Counts t t' granted) :
    Represents json now t' {s with grants:=Function.update s.grants scope granted} := by
  have minute : 0 ≤ now.tdiv 60 := Int.tdiv_nonneg nonneg (by decide)
  refine ⟨fun c k digits => ?_,fun other => ?_⟩
  · rw [step.frame _ (dataKey_ne_windowKey c k scope (now.tdiv 60))]
    exact represents.edges c k digits
  · by_cases same : other = scope
    · subst same
      simpa using step.related
    · have away : getWindowKeyName other (now.tdiv 60) ≠ getWindowKeyName scope (now.tdiv 60) := fun keys =>
        same (getWindowKeyName_inj minute minute keys).1
      rw [step.frame _ away]
      simpa [Function.update_of_ne same] using represents.grants other

theorem upsertCAS_runs {clientID scopeKey : String} {prev : Int} {next : Edge} (inverse : JsonText.Inverse json)
    (represents : Represents json now t s) (digits : DigitKey scopeKey)
    (creates : prev = 0 → s.edges (clientID,scopeKey) = none) {r : Except String Bool}
    (path : Runs Redis.Answers (upsertCAS json clientID scopeKey prev next) t r t') :
    KeyOutcome (getDataKeyName clientID scopeKey) (HoldsHash json scopeKey) t r t'
      (upsertSlot scopeKey prev next (s.edges (clientID,scopeKey))) := by
  by_cases zero : prev = 0
  · subst zero
    have held := represents.edges clientID scopeKey digits
    rw [creates rfl] at held ⊢
    exact upsertCAS_create_runs inverse held path
  · exact upsertCAS_update_runs inverse zero (represents.edges _ _ digits) path

theorem serveData_simulates (inverse : JsonText.Inverse json) (nonneg : 0 ≤ now) (represents : Represents json now t s)
    (call : DataStoreCall) (digits : DigitSlot call) (creates : CreatesEmpty s call) {r : call.Resp}
    (path : Runs Redis.Answers (serveData json now call) t r t') :
    ∃ s', redisAnswers s call r s' ∧ Represents json now t' s' := by
  cases call with
  | load clientID scopeKey =>
    obtain ⟨rfl,read⟩ := load_runs (represents.edges _ _ digits) path
    rcases read with rfl | ⟨err,rfl⟩
    · exact ⟨s,.inl rfl,represents⟩
    · exact ⟨s,.inr ⟨err,rfl,.inl rfl⟩,represents⟩
  | upsertCAS clientID scopeKey prev next =>
    rcases upsertCAS_runs inverse represents digits creates path with ⟨rfl,step⟩ | ⟨⟨err,rfl⟩,rfl⟩
    · exact ⟨_,.inl rfl,represents.after_write digits step⟩
    · exact ⟨s,.inr ⟨err,rfl,.inl rfl⟩,represents⟩
  | acquire scope rate window =>
    rcases acquire_runs (represents.grants scope) path with (⟨rfl,step⟩ | ⟨⟨err,rfl⟩,rfl⟩) | ⟨⟨err,rfl⟩,step⟩
    · exact ⟨_,.inl rfl,represents.after_count nonneg step⟩
    · exact ⟨s,.inr ⟨err,rfl,.inl rfl⟩,represents⟩
    · -- the EXPIRE failed after the grant was counted
      exact ⟨_,.inr ⟨err,rfl,.inr ⟨⟨scope,rate,window,rfl⟩,rfl⟩⟩,represents.after_count nonneg step⟩

end

-- Run creates a slot only after its Load found the slot empty.

section
variable {s s' : StoreState}

theorem redisAnswers_load {clientID scopeKey : String} {r : Except String (Option Edge × Int)}
    (answered : redisAnswers s (.load clientID scopeKey) r s') :
    s' = s ∧ (r = .ok (zeroed (loadSlot (s.edges (clientID,scopeKey)))) ∨ ∃ err, r = .error err) := by
  rcases answered with exact | ⟨err,failed,rfl | ⟨⟨_,_,_,called⟩,-⟩⟩
  · obtain ⟨rfl,rfl⟩ := Prod.mk.inj exact
    exact ⟨rfl,.inl rfl⟩
  · exact ⟨rfl,.inr ⟨err,failed⟩⟩
  · cases called

theorem redisAnswers_acquire_edges {scope : String} {rate window : Int} {r : Except String Bool}
    (answered : redisAnswers s (.acquire scope rate window) r s') : s'.edges = s.edges := by
  rcases answered with exact | ⟨err,-,rfl | ⟨-,rfl⟩⟩
  · obtain ⟨-,rfl⟩ := Prod.mk.inj exact
    rfl
  · rfl
  · rfl

theorem redisAnswers_valid (valid : ∀ slot, SlotValid (s.edges slot)) {call : DataStoreCall} {r : call.Resp}
    (answered : redisAnswers s call r s') : ∀ slot, SlotValid (s'.edges slot) := by
  rcases answered with exact | ⟨err,-,rfl | ⟨-,rfl⟩⟩
  · obtain ⟨-,rfl⟩ := Prod.mk.inj exact
    exact storeAnswer_valid valid call
  · exact valid
  · exact storeAnswer_valid valid call

end

section
variable {π : Type} {codec : JsonCodec π} {zstd : Zstd} {search : Search π} {clientID clientIP newVal : String}
  {cc : ClientConfig} {payload : π} {now : Int}

theorem RunCall.digitSlot {call : DataStoreCall} (called : RunCall clientID clientIP cc call) : DigitSlot call := by
  cases call with
  | acquire => trivial
  | load id key =>
    rw [called.2]
    exact computeKey_digitKey _
  | upsertCAS id key prev next =>
    rw [called.2]
    exact computeKey_digitKey _

theorem plannedWrite_create {f : Option FlapConfig} {slot : Slot} {next : Edge} {result : Evaluation π}
    (valid : SlotValid slot) (planned : plannedWrite codec zstd f newVal payload now (zeroed (loadSlot slot)) = some (0,next,result)) :
    slot = none := by
  cases slot with
  | none => rfl
  | some stored =>
    obtain ⟨e,v⟩ := stored
    have positive := valid e v rfl
    have zero := plannedWrite_some_version planned
    omega

theorem targetLimit_safe (out : RunResult π) (s : StoreState) :
    Safe redisAnswers CreatesEmpty (targetLimit cc clientID out) s := by
  unfold targetLimit
  split
  · exact .call_pure trivial fun r => by rcases r with _ | _ | _ <;> exact ⟨_,rfl⟩
  · exact .pure

theorem rateLimit_safe {rpm : Int} {scope refusal : String} {rest : StoreProg (RunResult π)}
    (restSafe : ∀ s : StoreState, (∀ slot, SlotValid (s.edges slot)) → Safe redisAnswers CreatesEmpty rest s)
    {s : StoreState} (valid : ∀ slot, SlotValid (s.edges slot)) :
    Safe redisAnswers CreatesEmpty (rateLimit rpm scope refusal payload rest) s := by
  unfold rateLimit
  split
  · refine .call trivial fun r middle answered => ?_
    have same := redisAnswers_acquire_edges answered
    rcases r with _ | _ | _
    · exact .pure
    · exact .pure
    · exact restSafe middle (by rw [same]; exact valid)
  · exact restSafe s valid

theorem evaluateEdgeAndFlap_safe {scopeKey : String} {f : Option FlapConfig} {s : StoreState}
    (valid : SlotValid (s.edges (clientID,scopeKey))) :
    Safe redisAnswers CreatesEmpty (evaluateEdgeAndFlap codec zstd clientID scopeKey newVal f payload now) s := by
  refine .call trivial fun r middle answered => ?_
  obtain ⟨rfl,read⟩ := redisAnswers_load answered
  rcases read with rfl | ⟨err,rfl⟩
  · have shape := evaluateLoaded_shape codec zstd clientID scopeKey newVal f payload now
      (zeroed (loadSlot (middle.edges (clientID,scopeKey))))
    split at shape
    · obtain ⟨x,same,-,-⟩ := shape
      rw [same]
      exact .pure
    · rename_i ver next result planned
      obtain ⟨k,same,settles⟩ := shape
      rw [same]
      refine .call_pure (fun zero => ?_) fun r => ?_
      · subst zero
        exact plannedWrite_create valid planned
      · by_cases committed : r = .ok true
        · exact ⟨result,committed ▸ settles.1⟩
        · obtain ⟨x,answered,-⟩ := settles.2 r committed
          exact ⟨x,answered⟩
  · -- a failed Load ends the evaluation
    exact .pure

theorem evaluateTrigger_safe {newVal : Option String} {s : StoreState} (valid : ∀ slot, SlotValid (s.edges slot)) :
    Safe redisAnswers CreatesEmpty (evaluateTrigger codec zstd clientID cc payload now newVal) s := by
  cases newVal with
  | none => exact targetLimit_safe _ s
  | some v =>
    refine Safe.bind (evaluateEdgeAndFlap_safe (valid _)) fun ev middle ran => ?_
    split
    · exact .pure
    · exact targetLimit_safe _ _

theorem run_safe {s : StoreState} (valid : ∀ slot, SlotValid (s.edges slot)) :
    Safe redisAnswers (fun s call => DigitSlot call ∧ CreatesEmpty s call) (run codec zstd search clientID clientIP cc payload now) s := by
  have dispatched : ∀ s : StoreState, (∀ slot, SlotValid (s.edges slot)) →
      Safe redisAnswers CreatesEmpty (dispatchTrigger codec zstd search clientID cc payload now) s := by
    intro s valid
    unfold dispatchTrigger
    split
    · exact .pure
    split
    · exact .pure
    split
    · exact .pure
    · exact evaluateTrigger_safe valid
  exact Safe.and (Safe.of_confined run_calls (fun _ _ called => RunCall.digitSlot called) s)
    (rateLimit_safe (fun s valid => rateLimit_safe dispatched valid) valid)

end

theorem redis_serves_runs_as_contract {π : Type} (json : JsonText (List Flip)) (inverse : JsonText.Inverse json)
    (clock : Int) (nonneg : 0 ≤ clock) (codec : JsonCodec π) (zstd : Zstd) (search : Search π)
    (programs : List (StoreProg (RunResult π)))
    (requests : ∀ program ∈ programs, ∃ clientID clientIP cc payload now,
      program = run codec zstd search clientID clientIP cc payload now)
    {t t' : Redis.Store} {s : StoreState} (represents : Represents json clock t s) (valid : ∀ slot, SlotValid (s.edges slot))
    {results : List (RunResult π)}
    (path : RunsList Redis.Answers (programs.map fun program => program.implement (serveData json clock)) t results t') :
    ∃ s', RunsList redisAnswers programs s results s' ∧ Represents json clock t' s' := by
  refine runsList_implement (Represents json clock)
    (fun _ _ call _ _ related (guard : DigitSlot call ∧ CreatesEmpty _ call) ran =>
      serveData_simulates inverse nonneg related call guard.1 guard.2 ran)
    (fun s : StoreState => ∀ slot, SlotValid (s.edges slot)) (fun _ _ _ _ valid answered => redisAnswers_valid valid answered)
    ?_ path represents valid
  intro program listed s valid
  obtain ⟨clientID,clientIP,cc,payload,now,rfl⟩ := requests program listed
  exact run_safe valid

-- A lawful JSON text for the recent flips: the Encodable code of the list.
def flipCode (f : Flip) : Int × List Nat × List Nat × List Nat :=
  (f.at,f.from.toList.map Char.toNat,f.to.toList.map Char.toNat,f.payload.toList.map Char.toNat)

def flipOfCode (code : Int × List Nat × List Nat × List Nat) : Flip :=
  ⟨code.1,String.ofList (code.2.1.map Char.ofNat),String.ofList (code.2.2.1.map Char.ofNat),
    String.ofList (code.2.2.2.map Char.ofNat)⟩

theorem flipOfCode_flipCode (f : Flip) : flipOfCode (flipCode f) = f := by
  have chars : ∀ text : String, String.ofList ((text.toList.map Char.toNat).map Char.ofNat) = text := by
    intro text
    simp [List.map_map,Function.comp_def,Char.ofNat_toNat]
  simp only [flipOfCode,flipCode,chars]

instance : Encodable Flip := Encodable.ofLeftInverse flipCode flipOfCode flipOfCode_flipCode

def codedFlips : JsonText (List Flip) where
  marshal rs := .ok (Strconv.formatInt (Encodable.encode rs))
  unmarshal text := match Strconv.parseSigned text.toList with
    | none => .error "invalid number"
    | some n => match (Encodable.decode n.toNat : Option (List Flip)) with
      | some rs => .ok rs
      | none => .error "invalid code"

theorem codedFlips_inverse : JsonText.Inverse codedFlips :=
  ⟨fun rs => ⟨_,rfl,by simp [codedFlips,Strconv.parseSigned_formatInt,Encodable.encodek]⟩⟩

def flagSearch : Search Bytes := fun _ payload => .ok (.string (if payload = [] then "on" else "off"))

-- The first request creates the slot and the second flips it.
def twoRequests : List (StoreProg (RunResult Bytes)) :=
  [run bytesJson plainZstd flagSearch "c1" "10.0.0.1" keyedConfig [] 0,
    run bytesJson plainZstd flagSearch "c1" "10.0.0.2" keyedConfig [1] 1]

def twoRequestsServed : List (RedisProg (RunResult Bytes)) :=
  twoRequests.map fun program => program.implement (serveData codedFlips 0)

theorem redis_serves_runs_as_contract_from_empty :
    JsonText.Inverse codedFlips ∧ (0 : Int) ≤ 0 ∧
      (∀ program ∈ twoRequests, ∃ clientID clientIP cc payload now,
        program = run bytesJson plainZstd flagSearch clientID clientIP cc payload now) ∧
      Represents codedFlips 0 ∅ emptyStore ∧ (∀ slot, SlotValid (emptyStore.edges slot)) ∧
      RunsList Redis.Answers twoRequestsServed ∅ (runAll Redis.exec twoRequestsServed ∅).1 (runAll Redis.exec twoRequestsServed ∅).2 ∧
      ∃ s', RunsList redisAnswers twoRequests emptyStore (runAll Redis.exec twoRequestsServed ∅).1 s' ∧
        Represents codedFlips 0 (runAll Redis.exec twoRequestsServed ∅).2 s' := by
  have listed : ∀ program ∈ twoRequests, ∃ clientID clientIP cc payload now,
      program = run bytesJson plainZstd flagSearch clientID clientIP cc payload now := by
    intro program listed
    simp only [twoRequests,List.mem_cons,List.not_mem_nil,or_false] at listed
    rcases listed with rfl | rfl
    · exact ⟨_,_,_,_,_,rfl⟩
    · exact ⟨_,_,_,_,_,rfl⟩
  have served := runsList_of_runAll Redis.answers_exec twoRequestsServed ∅
  exact ⟨codedFlips_inverse,le_refl 0,listed,represents_empty codedFlips 0,fun _ => slotValid_none,served,
    redis_serves_runs_as_contract codedFlips codedFlips_inverse 0 (le_refl 0) bytesJson plainZstd flagSearch twoRequests
      listed (represents_empty codedFlips 0) (fun _ => slotValid_none) served⟩

end RedisBackend

end Enoti
