import Enoti.ClientRegistry
import Enoti.RedisRefinement
import Enoti.SharedBackend

namespace Enoti

-- Both ports on one Redis keyspace. A Get of an absent client answers
-- redis.Nil, where the port promises ErrNotFound.

namespace RedisBackend

open Interaction (Confined Runs Safe runs_call_inv runs_implement runs_of_answer runs_pure_inv)

def serveClient (configs : JsonText ClientConfig) : (call : ClientStoreCall) → RedisProg call.Resp
  | .getClientConfig clientID => getClientConfig configs clientID
  | .listClients => listClients
  | .putClientConfig clientID config => putClientConfig configs clientID config
  | .deleteClientConfig clientID => deleteClientConfig clientID

def servePorts (json : JsonText (List Flip)) (configs : JsonText ClientConfig) (now : Int) :
    (op : PortCall) → RedisProg op.Resp
  | .data call => serveData json now call
  | .client call => serveClient configs call

def HoldsConfig (configs : JsonText ClientConfig) : Option Redis.Value → Option ClientConfig → Prop
  | none,none => True
  | some (.str text),some config => configs.unmarshal text = .ok config
  | _,_ => False

def clientReadBack : (call : ClientStoreCall) → call.Resp → call.Resp
  | .getClientConfig _,.error .notFound => .error (.other "redis: nil")
  | _,r => r

def portsReadAnswers (s : StoreState × Registry) : (op : PortCall) → op.Resp → StoreState × Registry → Prop
  | .data call,r,s' => redisAnswers s.1 call r s'.1 ∧ s'.2 = s.2
  | .client call,r,s' => (∃ r₀, registryAnswers s.2 call r₀ s'.2 ∧ r = clientReadBack call r₀) ∧ s'.1 = s.1

-- The calls the simulation covers: Run's data calls, and the ClientStore
-- without ListClients.
def PortGuard (s : StoreState × Registry) : PortCall → Prop
  | .data call => DigitSlot call ∧ CreatesEmpty s.1 call
  | .client call => NotListing (.client call)

structure RepresentsPorts (json : JsonText (List Flip)) (configs : JsonText ClientConfig) (now : Int) (t : Redis.Store)
    (s : StoreState × Registry) : Prop where
  data : Represents json now t s.1
  configs : ∀ id, HoldsConfig configs (t.lookup (getClientKey id)) (s.2.lookup id)

theorem getClientKey_inj {id id' : String} (same : getClientKey id = getClientKey id') : id = id' := by
  have lists : ("_enoti_cfg_" ++ id).toList = ("_enoti_cfg_" ++ id').toList := congrArg String.toList same
  simp only [String.toList_append] at lists
  exact String.toList_inj.1 (List.append_cancel_left lists)

section
variable {json : JsonText (List Flip)} {configs : JsonText ClientConfig} {now : Int} {t t' : Redis.Store}

theorem Represents.after_config {s : StoreState} {id : String} (represents : Represents json now t s)
    (frame : ∀ other, other ≠ getClientKey id → t'.lookup other = t.lookup other) : Represents json now t' s := by
  refine ⟨fun c k digits => ?_,fun scope => ?_⟩
  · rw [frame _ (dataKey_ne_clientKey c k id)]
    exact represents.edges c k digits
  · rw [frame _ (Ne.symm (clientKey_ne_windowKey id scope (now.tdiv 60)))]
    exact represents.grants scope

theorem HoldsConfig.after_write {r : Registry} {id : String} {v : Option Redis.Value} {config : Option ClientConfig}
    (held : ∀ id', HoldsConfig configs (t.lookup (getClientKey id')) (r.lookup id'))
    (step : HoldsConfig configs v config)
    (written : t'.lookup (getClientKey id) = v) (frame : ∀ other, other ≠ getClientKey id → t'.lookup other = t.lookup other)
    (registered : ∀ id', id' ≠ id → (r' : Registry).lookup id' = r.lookup id') (settled : r'.lookup id = config) :
    ∀ id', HoldsConfig configs (t'.lookup (getClientKey id')) (r'.lookup id') := by
  intro id'
  by_cases same : id' = id
  · subst same
    rw [written,settled]
    exact step
  · rw [frame _ fun keys => same (getClientKey_inj keys),registered id' same]
    exact held id'

theorem RepresentsPorts.after_config {s : StoreState × Registry} {id : String} {v : Redis.Value} {r' : Registry}
    (represents : RepresentsPorts json configs now t s) (step : HoldsConfig configs (some v) (r'.lookup id))
    (registered : ∀ id', id' ≠ id → r'.lookup id' = s.2.lookup id') :
    RepresentsPorts json configs now (t.insert (getClientKey id) v) (s.1,r') :=
  ⟨represents.data.after_config fun _ away => AList.lookup_insert_ne away,
    HoldsConfig.after_write represents.configs step (AList.lookup_insert _) (fun _ away => AList.lookup_insert_ne away)
      registered rfl⟩

end

section
variable {json : JsonText (List Flip)} {configs : JsonText ClientConfig} {now : Int} {t t' : Redis.Store}
  {s : StoreState × Registry}

theorem getClientConfig_runs (represents : RepresentsPorts json configs now t s) (id : String)
    {r : Except ClientStoreError ClientConfig} (path : Runs Redis.Answers (getClientConfig configs id) t r t') :
    t' = t ∧ ∃ r₀, registryAnswers s.2 (.getClientConfig id) r₀ s.2 ∧ r = clientReadBack (.getClientConfig id) r₀ := by
  have held := represents.configs id
  obtain ⟨reply,middle,answered,rest⟩ := runs_call_inv path
  rcases answered with ran | ⟨msg,rfl,rfl⟩
  · cases registered : s.2.lookup id with
    | none =>
      -- an absent client: GET answers redis.Nil where the port promises ErrNotFound
      rw [registered] at held
      have absent : t.lookup (getClientKey id) = none := by
        cases entry : t.lookup (getClientKey id) with
        | none => rfl
        | some value =>
          rw [entry] at held
          cases value <;> cases held
      rw [Redis.exec_get_absent absent] at ran
      obtain ⟨rfl,rfl⟩ := Prod.mk.inj ran
      obtain ⟨rfl,rfl⟩ := runs_pure_inv rest
      exact ⟨rfl,.error .notFound,.inl (by simp [registryAnswer,registered]),rfl⟩
    | some config =>
      rw [registered] at held
      cases entry : t.lookup (getClientKey id) with
      | none =>
        rw [entry] at held
        cases held
      | some value =>
        rw [entry] at held
        cases value with
        | hash _ => cases held
        | str text =>
          have read : configs.unmarshal text = .ok config := held
          have fetched : Redis.exec t (.get (getClientKey id)) = (.ok text,t) := by simp [Redis.exec,entry]
          rw [fetched] at ran
          obtain ⟨rfl,rfl⟩ := Prod.mk.inj ran
          obtain ⟨rfl,rfl⟩ := runs_pure_inv rest
          exact ⟨rfl,.ok config,.inl (by simp [registryAnswer,registered]),by simp [read,Except.mapError,clientReadBack]⟩
  · obtain ⟨rfl,rfl⟩ := runs_pure_inv rest
    exact ⟨rfl,_,.inr ⟨msg,rfl,rfl⟩,rfl⟩

theorem putClientConfig_runs (inverse : JsonText.Inverse configs) (represents : RepresentsPorts json configs now t s)
    (id : String) (config : ClientConfig) {r : Except ClientStoreError Unit}
    (path : Runs Redis.Answers (putClientConfig configs id config) t r t') :
    ∃ r', registryAnswers s.2 (.putClientConfig id config) r r' ∧ RepresentsPorts json configs now t' (s.1,r') := by
  cases checked : config.validate with
  | some err =>
    simp only [putClientConfig,checked] at path
    obtain ⟨rfl,rfl⟩ := runs_pure_inv path
    exact ⟨s.2,.inl (by simp [registryAnswer,checked]),represents⟩
  | none =>
    obtain ⟨text,marshaled,read⟩ := inverse.round_trip config
    simp only [putClientConfig,checked,marshaled] at path
    obtain ⟨reply,middle,answered,rest⟩ := runs_call_inv path
    rcases answered with ran | ⟨msg,rfl,rfl⟩
    · rw [Redis.exec_set] at ran
      obtain ⟨rfl,rfl⟩ := Prod.mk.inj ran
      obtain ⟨rfl,rfl⟩ := runs_pure_inv rest
      refine ⟨s.2.insert id config,.inl (by simp [registryAnswer,checked]),represents.after_config ?_ ?_⟩
      · rw [AList.lookup_insert]
        exact read
      · exact fun _ away => AList.lookup_insert_ne away
    · obtain ⟨rfl,rfl⟩ := runs_pure_inv rest
      exact ⟨s.2,.inr ⟨msg,rfl,rfl⟩,represents⟩

theorem deleteClientConfig_runs (represents : RepresentsPorts json configs now t s) (id : String)
    {r : Except ClientStoreError Unit} (path : Runs Redis.Answers (deleteClientConfig id) t r t') :
    ∃ r', registryAnswers s.2 (.deleteClientConfig id) r r' ∧ RepresentsPorts json configs now t' (s.1,r') := by
  obtain ⟨reply,middle,answered,rest⟩ := runs_call_inv path
  rcases answered with ran | ⟨msg,rfl,rfl⟩
  · simp only [Redis.exec,List.foldl_cons,List.foldl_nil] at ran
    obtain ⟨rfl,rfl⟩ := Prod.mk.inj ran
    obtain ⟨rfl,rfl⟩ := runs_pure_inv rest
    refine ⟨s.2.erase id,.inl rfl,represents.data.after_config fun _ away => AList.lookup_erase_ne away,?_⟩
    exact HoldsConfig.after_write represents.configs (show HoldsConfig configs none none from trivial) (AList.lookup_erase _ _)
      (fun _ away => AList.lookup_erase_ne away) (fun _ away => AList.lookup_erase_ne away) (AList.lookup_erase _ _)
  · obtain ⟨rfl,rfl⟩ := runs_pure_inv rest
    exact ⟨s.2,.inr ⟨msg,rfl,rfl⟩,represents⟩

end

section
variable {json : JsonText (List Flip)} {now : Int} {t t' : Redis.Store} {s : StoreState}

theorem KeyOutcome.frame {β : Type} {key : String} {R : Option Redis.Value → β → Prop} {r : Except String Bool}
    {answer : Bool × β} (outcome : KeyOutcome key R t r t' answer) : ∀ other, other ≠ key → t'.lookup other = t.lookup other := by
  rcases outcome with ⟨-,step⟩ | ⟨-,rfl⟩
  · exact step.frame
  · exact fun _ _ => rfl

theorem serveData_keeps_configs (inverse : JsonText.Inverse json) (represents : Represents json now t s) (call : DataStoreCall)
    (digits : DigitSlot call) (creates : CreatesEmpty s call) {r : call.Resp}
    (path : Runs Redis.Answers (serveData json now call) t r t') (id : String) :
    t'.lookup (getClientKey id) = t.lookup (getClientKey id) := by
  cases call with
  | load clientID scopeKey => rw [(load_runs (represents.edges _ _ digits) path).1]
  | upsertCAS clientID scopeKey prev next =>
    exact (upsertCAS_runs inverse represents digits creates path).frame _ (Ne.symm (dataKey_ne_clientKey _ _ _))
  | acquire scope rate window =>
    rcases acquire_runs (represents.grants scope) path with outcome | ⟨-,step⟩
    · exact outcome.frame _ (clientKey_ne_windowKey _ _ _)
    · exact step.frame _ (clientKey_ne_windowKey _ _ _)

end

section
variable {json : JsonText (List Flip)} {configs : JsonText ClientConfig} {now : Int} {t t' : Redis.Store}
  {s : StoreState × Registry}

theorem servePorts_simulates (inverse : JsonText.Inverse json) (inverse' : JsonText.Inverse configs) (nonneg : 0 ≤ now)
    (represents : RepresentsPorts json configs now t s) (op : PortCall) (allowed : PortGuard s op) {r : op.Resp}
    (path : Runs Redis.Answers (servePorts json configs now op) t r t') :
    ∃ s', portsReadAnswers s op r s' ∧ RepresentsPorts json configs now t' s' := by
  cases op with
  | data call =>
    obtain ⟨digits,creates⟩ := allowed
    obtain ⟨data',answered,data⟩ := serveData_simulates inverse nonneg represents.data call digits creates path
    refine ⟨(data',s.2),⟨answered,rfl⟩,data,fun id => ?_⟩
    rw [serveData_keeps_configs inverse represents.data call digits creates path id]
    exact represents.configs id
  | client call =>
    cases call with
    | getClientConfig id =>
      obtain ⟨rfl,r₀,answered,read⟩ := getClientConfig_runs represents id path
      exact ⟨s,⟨⟨r₀,answered,read⟩,rfl⟩,represents⟩
    | listClients => exact allowed.elim
    | putClientConfig id config =>
      obtain ⟨r',answered,represents'⟩ := putClientConfig_runs inverse' represents id config path
      exact ⟨(s.1,r'),⟨⟨r,answered,rfl⟩,rfl⟩,represents'⟩
    | deleteClientConfig id =>
      obtain ⟨r',answered,represents'⟩ := deleteClientConfig_runs represents id path
      exact ⟨(s.1,r'),⟨⟨r,answered,rfl⟩,rfl⟩,represents'⟩

end

theorem redis_keyspace_serves_both_ports {α : Type} (json : JsonText (List Flip)) (inverse : JsonText.Inverse json)
    (configs : JsonText ClientConfig) (inverse' : JsonText.Inverse configs) (now : Int) (nonneg : 0 ≤ now)
    (program : Interaction PortCall PortCall.Resp α) {t t' : Redis.Store} {s : StoreState × Registry}
    (represents : RepresentsPorts json configs now t s) (safe : Safe portsReadAnswers PortGuard program s) {value : α}
    (path : Runs Redis.Answers (program.implement (servePorts json configs now)) t value t') :
    ∃ s', Runs portsReadAnswers program s value s' ∧ RepresentsPorts json configs now t' s' :=
  runs_implement (RepresentsPorts json configs now)
    (fun _ _ op _ _ related allowed ran => servePorts_simulates inverse inverse' nonneg related op allowed ran) safe path
    represents

-- A lawful JSON text for configs: the Encodable code of the config.
def codedConfigText : JsonText ClientConfig where
  marshal c := .ok (Strconv.formatInt (Encodable.encode c))
  unmarshal text := match Strconv.parseSigned text.toList with
    | none => .error "invalid number"
    | some n => match (Encodable.decode n.toNat : Option ClientConfig) with
      | some c => .ok c
      | none => .error "invalid code"

theorem codedConfigText_inverse : JsonText.Inverse codedConfigText :=
  ⟨fun c => ⟨_,rfl,by simp only [codedConfigText,Strconv.parseSigned_formatInt,Int.toNat_natCast,Encodable.encodek]⟩⟩

def putLoadGetServed : RedisProg (Except ClientStoreError ClientConfig) :=
  putLoadGet.implement (servePorts codedFlips codedConfigText 0)

theorem redis_keyspace_serves_both_ports_on_fresh_keyspace :
    JsonText.Inverse codedFlips ∧ JsonText.Inverse codedConfigText ∧ (0 : Int) ≤ 0 ∧
      RepresentsPorts codedFlips codedConfigText 0 ∅ (emptyStore,∅) ∧ Safe portsReadAnswers PortGuard putLoadGet (emptyStore,∅) ∧
      Runs Redis.Answers putLoadGetServed ∅ (putLoadGetServed.run Redis.exec ∅).1 (putLoadGetServed.run Redis.exec ∅).2 ∧
      ∃ s', Runs portsReadAnswers putLoadGet (emptyStore,∅) (putLoadGetServed.run Redis.exec ∅).1 s' ∧
        RepresentsPorts codedFlips codedConfigText 0 (putLoadGetServed.run Redis.exec ∅).2 s' := by
  have fresh : RepresentsPorts codedFlips codedConfigText 0 ∅ (emptyStore,∅) :=
    ⟨represents_empty codedFlips 0,fun _ => trivial⟩
  have confined : Confined (fun op => ∀ s, PortGuard s op) putLoadGet :=
    .call (fun _ => trivial) fun _ => .call (fun _ => ⟨computeKey_digitKey _,trivial⟩) fun _ =>
      .call (fun _ => trivial) fun _ => .pure
  have safe : Safe portsReadAnswers PortGuard putLoadGet (emptyStore,∅) := Safe.of_confined confined (fun s _ allowed => allowed s) _
  have served := runs_of_answer Redis.answers_exec putLoadGetServed ∅
  exact ⟨codedFlips_inverse,codedConfigText_inverse,le_refl 0,fresh,safe,served,
    redis_keyspace_serves_both_ports codedFlips codedFlips_inverse codedConfigText codedConfigText_inverse 0 (le_refl 0)
      putLoadGet fresh safe served⟩

end RedisBackend

end Enoti
