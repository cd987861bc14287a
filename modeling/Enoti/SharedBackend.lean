import Enoti.DdbRefinement
import Enoti.KeySpace
import Enoti.Runs
import Mathlib.Logic.Equiv.List

namespace Enoti

-- Both ports on one DynamoDB table, under disjoint keys.

inductive PortCall where
  | data (call : DataStoreCall)
  | client (call : ClientStoreCall)

abbrev PortCall.Resp : PortCall → Type
  | .data call => call.Resp
  | .client call => call.Resp

def portsAnswer (dataAnswer : StoreState → (call : DataStoreCall) → call.Resp × StoreState)
    (s : StoreState × Registry) : (op : PortCall) → op.Resp × (StoreState × Registry)
  | .data call => ((dataAnswer s.1 call).1,((dataAnswer s.1 call).2,s.2))
  | .client call => ((registryAnswer s.2 call).1,(s.1,(registryAnswer s.2 call).2))

def PortCall.failed : (op : PortCall) → String → op.Resp
  | .data call,msg => call.failed msg
  | .client call,msg => call.failed msg

-- ListClients meets no contract (client_listing_finds_no_client).
def NotListing : PortCall → Prop
  | .client .listClients => False
  | _ => True

-- UnmarshalMap reads the value back past the PK and SK attributes
-- PutClientConfig adds.
structure ItemCodec.Inverse {α : Type} (codec : ItemCodec α) : Prop where
  marshalMap_ok : ∀ a, ∃ attrs, codec.marshalMap a = .ok attrs
  unmarshal_keyed : ∀ a attrs, codec.marshalMap a = .ok attrs →
    ∀ pk sk, codec.unmarshalMap ((attrs.insert "PK" (.s pk)).insert "SK" (.s sk)) = .ok a

namespace DdbBackend

open Dynamo
open Interaction (Confined Runs runs_pure_inv OrFails simulates_orFails)

def servePorts (codec : ItemCodec ClientConfig) (now : Int) : (op : PortCall) → DdbProg op.Resp
  | .data call => serveData now call
  | .client call => serveClient codec call

def profileKey (id : String) : Key := ⟨pkClient id,skProfile⟩

def HoldsProfile (codec : ItemCodec ClientConfig) : Option Item → Option ClientConfig → Prop
  | none,none => True
  | some item,some config => codec.unmarshalMap item = .ok config
  | _,_ => False

structure RepresentsPorts (codec : ItemCodec ClientConfig) (now : Int) (t : Table) (s : StoreState × Registry) : Prop where
  data : Represents now t s.1
  profiles : ∀ id, HoldsProfile codec (t.lookup (profileKey id)) (s.2.lookup id)

theorem profileKey_inj {id id' : String} (same : profileKey id = profileKey id') : id = id' := by
  simpa [profileKey,pkClient] using same

theorem edgeKey_ne_profileKey (clientID scopeKey id : String) : edgeKey clientID scopeKey ≠ profileKey id := by
  intro same
  have sk := congrArg (fun key : Key => key.sk.toList.head?) same
  simp [edgeKey,profileKey,skEdge,skProfile] at sk

theorem rateKey_ne_profileKey (now : Int) (scope id : String) : rateKey now scope ≠ profileKey id :=
  fun same => pkClient_ne_pkRate id scope (congrArg Key.pk same).symm

def DataKey (now : Int) (key : Key) : Prop :=
  (∃ clientID scopeKey, key = edgeKey clientID scopeKey) ∨ ∃ scope, key = rateKey now scope

theorem serveData_writes (now : Int) (call : DataStoreCall) :
    Confined (fun r : Request => ∀ key, r.writes key → DataKey now key) (serveData now call) := by
  cases call with
  | acquire scope ratePerWindow window =>
    show Confined _ (acquire now scope ratePerWindow window)
    unfold acquire
    split
    · exact .pure
    · exact .call (fun key (writes : _ = key) => .inr ⟨scope,writes.symm⟩) fun _ => .pure
  | load clientID scopeKey =>
    refine .call (fun key writes => writes.elim) fun r => ?_
    rcases r with _ | _ | _ <;> exact .pure
  | upsertCAS clientID scopeKey prevVersion next =>
    show Confined _ (upsertCAS clientID scopeKey prevVersion next)
    unfold upsertCAS
    split
    · refine .call (fun key writes => .inl ⟨clientID,scopeKey,?_⟩) fun _ => .pure
      exact (Option.some_inj.1 ((createdItem_key ..).symm.trans writes)).symm
    · exact .call (fun key (writes : _ = key) => .inl ⟨clientID,scopeKey,writes.symm⟩) fun _ => .pure

theorem serveClient_writes (codec : ItemCodec ClientConfig) (call : ClientStoreCall) :
    Confined (fun r : Request => ∀ key, r.writes key → ∃ id, key = profileKey id) (serveClient codec call) := by
  cases call with
  | getClientConfig clientID =>
    refine .call (fun key writes => writes.elim) fun r => ?_
    rcases r with _ | _ | _ <;> exact .pure
  | listClients =>
    refine .call (fun key writes => writes.elim) fun r => ?_
    rcases r with _ | _ <;> exact .pure
  | putClientConfig clientID config =>
    show Confined _ (putClientConfig codec clientID config)
    unfold putClientConfig
    split
    · exact .pure
    · split
      · exact .pure
      · refine .call (fun key writes => ⟨clientID,?_⟩) fun r => ?_
        · exact (Option.some_inj.1 ((profileItem_key ..).symm.trans writes)).symm
        · rcases r with _ | _ <;> exact .pure
  | deleteClientConfig clientID =>
    refine .call (fun key (writes : _ = key) => ⟨clientID,writes.symm⟩) fun r => ?_
    rcases r with _ | _ <;> exact .pure

theorem serveData_profile (now : Int) (call : DataStoreCall) (t : Table) (id : String) :
    ((serveData now call).run exec t).2.lookup (profileKey id) = t.lookup (profileKey id) := by
  refine run_frame ((serveData_writes now call).mono fun r dataOnly writes => ?_) t
  rcases dataOnly _ writes with ⟨clientID,scopeKey,same⟩ | ⟨scope,same⟩
  · exact edgeKey_ne_profileKey clientID scopeKey id same.symm
  · exact rateKey_ne_profileKey now scope id same.symm

theorem serveClient_keeps_data (codec : ItemCodec ClientConfig) (call : ClientStoreCall) {now : Int} {t : Table}
    {s : StoreState} (represents : Represents now t s) : Represents now ((serveClient codec call).run exec t).2 s := by
  have untouched : ∀ other, DataKey now other → ((serveClient codec call).run exec t).2.lookup other = t.lookup other := by
    intro other data
    refine run_frame ((serveClient_writes codec call).mono fun r profileOnly writes => ?_) t
    obtain ⟨id,same⟩ := profileOnly _ writes
    rcases data with ⟨clientID,scopeKey,rfl⟩ | ⟨scope,rfl⟩
    · exact edgeKey_ne_profileKey clientID scopeKey id same
    · exact rateKey_ne_profileKey now scope id same
  refine ⟨fun clientID scopeKey => ?_,fun scope => ?_⟩
  · rw [untouched _ (.inl ⟨clientID,scopeKey,rfl⟩)]
    exact represents.edges clientID scopeKey
  · rw [untouched _ (.inr ⟨scope,rfl⟩)]
    exact represents.grants scope

section
variable {codec : ItemCodec ClientConfig} {t : Table} {r : Registry}

theorem getClientConfig_refines (profiles : ∀ id, HoldsProfile codec (t.lookup (profileKey id)) (r.lookup id))
    (clientID : String) :
    (getClientConfig codec clientID).run exec t = ((registryAnswer r (.getClientConfig clientID)).1,t) := by
  have held : HoldsProfile codec (t.lookup ⟨pkClient clientID,skProfile⟩) (r.lookup clientID) := profiles clientID
  simp only [getClientConfig,Interaction.run_call,exec_getItem,registryAnswer]
  cases entry : t.lookup ⟨pkClient clientID,skProfile⟩ with
  | none =>
    rw [entry] at held
    cases found : r.lookup clientID with
    | none => rfl
    | some config => rw [found] at held; cases held
  | some item =>
    rw [entry] at held
    cases found : r.lookup clientID with
    | none => rw [found] at held; cases held
    | some config =>
      rw [found] at held
      have decoded : codec.unmarshalMap item = .ok config := held
      simp only [Interaction.run_pure,decoded]
      rfl

variable (inverse : codec.Inverse)
include inverse

theorem putClientConfig_refines (profiles : ∀ id, HoldsProfile codec (t.lookup (profileKey id)) (r.lookup id))
    (clientID : String) (config : ClientConfig) :
    ((putClientConfig codec clientID config).run exec t).1 = (registryAnswer r (.putClientConfig clientID config)).1 ∧
      ∀ id, HoldsProfile codec (((putClientConfig codec clientID config).run exec t).2.lookup (profileKey id))
        ((registryAnswer r (.putClientConfig clientID config)).2.lookup id) := by
  unfold putClientConfig
  cases accepted : config.validate with
  | some err => exact ⟨by simp [registryAnswer,accepted],by simpa [registryAnswer,accepted] using profiles⟩
  | none =>
    obtain ⟨attrs,marshaled⟩ := inverse.marshalMap_ok config
    simp only [marshaled,Interaction.run_call,exec_putItem (profileItem_key attrs clientID),admits,if_true,
      Interaction.run_pure,registryAnswer,accepted]
    refine ⟨trivial,fun id => ?_⟩
    by_cases same : id = clientID
    · subst same
      simp only [profileKey,AList.lookup_insert]
      exact inverse.unmarshal_keyed config attrs marshaled _ _
    · have apart : (⟨pkClient id,skProfile⟩ : Key) ≠ ⟨pkClient clientID,skProfile⟩ := fun keys => same (profileKey_inj keys)
      simp only [profileKey]
      rw [AList.lookup_insert_ne apart,AList.lookup_insert_ne same]
      exact profiles id

end

theorem deleteClientConfig_refines {codec : ItemCodec ClientConfig} {t : Table} {r : Registry}
    (profiles : ∀ id, HoldsProfile codec (t.lookup (profileKey id)) (r.lookup id)) (clientID : String) :
    ((deleteClientConfig clientID).run exec t).1 = (registryAnswer r (.deleteClientConfig clientID)).1 ∧
      ∀ id, HoldsProfile codec (((deleteClientConfig clientID).run exec t).2.lookup (profileKey id))
        ((registryAnswer r (.deleteClientConfig clientID)).2.lookup id) := by
  simp only [deleteClientConfig,Interaction.run_call,exec_deleteItem,Interaction.run_pure,registryAnswer]
  refine ⟨trivial,fun id => ?_⟩
  by_cases same : id = clientID
  · subst same
    rw [show (⟨pkClient id,skProfile⟩ : Key) = profileKey id from rfl,AList.lookup_erase,AList.lookup_erase]
    trivial
  · rw [show (⟨pkClient clientID,skProfile⟩ : Key) = profileKey clientID from rfl,
      AList.lookup_erase_ne fun keys => same (profileKey_inj keys),AList.lookup_erase_ne same]
    exact profiles id

theorem servePorts_refines {codec : ItemCodec ClientConfig} (inverse : codec.Inverse) {now : Int} {t : Table}
    {s : StoreState × Registry} (represents : RepresentsPorts codec now t s) (op : PortCall) (covered : NotListing op) :
    ((servePorts codec now op).run exec t).1 = (portsAnswer versionedAnswer s op).1 ∧
      RepresentsPorts codec now ((servePorts codec now op).run exec t).2 (portsAnswer versionedAnswer s op).2 := by
  cases op with
  | data call =>
    obtain ⟨same,data⟩ := serveData_refines represents.data call
    refine ⟨same,data,fun id => ?_⟩
    rw [show servePorts codec now (.data call) = serveData now call from rfl,serveData_profile]
    exact represents.profiles id
  | client call =>
    have refines : ((serveClient codec call).run exec t).1 = (registryAnswer s.2 call).1 ∧
        ∀ id, HoldsProfile codec (((serveClient codec call).run exec t).2.lookup (profileKey id))
          ((registryAnswer s.2 call).2.lookup id) := by
      cases call with
      | getClientConfig clientID =>
        rw [show serveClient codec (.getClientConfig clientID) = getClientConfig codec clientID from rfl,
          getClientConfig_refines represents.profiles]
        refine ⟨rfl,fun id => ?_⟩
        simp only [registryAnswer]
        split <;> exact represents.profiles id
      | listClients => exact covered.elim
      | putClientConfig clientID config => exact putClientConfig_refines inverse represents.profiles clientID config
      | deleteClientConfig clientID => exact deleteClientConfig_refines represents.profiles clientID
    exact ⟨refines.1,serveClient_keeps_data codec call represents.data,refines.2⟩

theorem serveClient_faults {codec : ItemCodec ClientConfig} {t t' : Table} {call : ClientStoreCall} {r : call.Resp}
    (path : Runs Answers (serveClient codec call) t r t') :
    (serveClient codec call).run exec t = (r,t') ∨ ∃ msg, r = call.failed msg ∧ t' = t := by
  cases call with
  | getClientConfig clientID =>
    simp only [serveClient,getClientConfig] at path ⊢
    rcases Answers.runs_call (fun r => by rcases r with _ | _ | _ <;> exact ⟨_,rfl⟩) path with ran | ⟨msg,failed,rfl⟩
    · exact .inl ran
    · exact .inr ⟨msg,(Interaction.pure.inj failed).symm,rfl⟩
  | listClients =>
    simp only [serveClient,listClients] at path ⊢
    rcases Answers.runs_call (fun r => by rcases r with _ | _ <;> exact ⟨_,rfl⟩) path with ran | ⟨msg,failed,rfl⟩
    · exact .inl ran
    · exact .inr ⟨msg,(Interaction.pure.inj failed).symm,rfl⟩
  | putClientConfig clientID config =>
    simp only [serveClient,putClientConfig] at path ⊢
    -- Validate and MarshalMap may answer before any request
    split at path
    · obtain ⟨rfl,rfl⟩ := runs_pure_inv path
      exact .inl rfl
    split at path
    · obtain ⟨rfl,rfl⟩ := runs_pure_inv path
      exact .inl rfl
    rcases Answers.runs_call (fun r => by rcases r with _ | _ <;> exact ⟨_,rfl⟩) path with ran | ⟨msg,failed,rfl⟩
    · exact .inl ran
    · exact .inr ⟨msg,(Interaction.pure.inj failed).symm,rfl⟩
  | deleteClientConfig clientID =>
    simp only [serveClient,deleteClientConfig] at path ⊢
    rcases Answers.runs_call (fun r => by rcases r with _ | _ <;> exact ⟨_,rfl⟩) path with ran | ⟨msg,failed,rfl⟩
    · exact .inl ran
    · exact .inr ⟨msg,(Interaction.pure.inj failed).symm,rfl⟩

theorem servePorts_faults {codec : ItemCodec ClientConfig} {now : Int} {t t' : Table} {op : PortCall} {r : op.Resp}
    (path : Runs Answers (servePorts codec now op) t r t') :
    (servePorts codec now op).run exec t = (r,t') ∨ ∃ msg, r = op.failed msg ∧ t' = t := by
  cases op with
  | data call => exact serveData_faults path
  | client call => exact serveClient_faults path

theorem ddb_table_serves_both_ports {α : Type} (codec : ItemCodec ClientConfig) (inverse : codec.Inverse) (now : Int)
    (program : Interaction PortCall PortCall.Resp α) (covered : Confined NotListing program) {t t' : Table}
    {s : StoreState × Registry} (represents : RepresentsPorts codec now t s) {value : α}
    (path : Runs Answers (program.implement (servePorts codec now)) t value t') :
    ∃ s', Runs (OrFails (portsAnswer versionedAnswer) PortCall.failed) program s value s' ∧ RepresentsPorts codec now t' s' :=
  Interaction.runs_implement (RepresentsPorts codec now)
    (simulates_orFails (RepresentsPorts codec now) (fun _ _ op related allowed => servePorts_refines inverse related op allowed)
      (fun _ _ _ _ path => servePorts_faults path))
    (Interaction.Safe.of_confined covered (fun _ _ allowed => allowed) s) path represents

end DdbBackend

-- A lawful item codec for the witness: the Encodable code of the config.
instance encodableString : Encodable String :=
  Encodable.ofLeftInverse (fun text : String => text.toList.map Char.toNat)
    (fun codes => String.ofList (codes.map Char.ofNat)) fun text => by
      simp [List.map_map,Function.comp_def,Char.ofNat_toNat]

def configCode (c : ClientConfig) :
    String × String × String × Int × Int × (String × Bool) × (String × (String × Int) × Option (Int × Int × Int × Int × Int)) :=
  (c.clientID,c.clientName,c.clientKey,c.ipRPM,c.clientRPM,(c.passthrough.fieldExpr,c.passthrough.negate),
    (c.trigger.fieldExpr,(c.trigger.target.snsArn,c.trigger.target.snsRPM),
      c.trigger.flapping.map fun f => (f.windowSeconds,f.suppressBelow,f.aggregateAt,f.aggregateMaxItems,f.aggregateCooldownSeconds)))

def configOfCode (code : String × String × String × Int × Int × (String × Bool) ×
    (String × (String × Int) × Option (Int × Int × Int × Int × Int))) : ClientConfig :=
  ⟨code.1,code.2.1,code.2.2.1,code.2.2.2.1,code.2.2.2.2.1,⟨code.2.2.2.2.2.1.1,code.2.2.2.2.2.1.2⟩,
    ⟨code.2.2.2.2.2.2.1,⟨code.2.2.2.2.2.2.2.1.1,code.2.2.2.2.2.2.2.1.2⟩,
      code.2.2.2.2.2.2.2.2.map fun f => ⟨f.1,f.2.1,f.2.2.1,f.2.2.2.1,f.2.2.2.2⟩⟩⟩

theorem configOfCode_configCode (c : ClientConfig) : configOfCode (configCode c) = c := by
  obtain ⟨id,name,key,ip,client,⟨field,negate⟩,⟨expr,⟨arn,rpm⟩,flapping⟩⟩ := c
  cases flapping <;> rfl

instance encodableClientConfig : Encodable ClientConfig := Encodable.ofLeftInverse configCode configOfCode configOfCode_configCode

def codedConfigs : ItemCodec ClientConfig where
  marshalMap c := .ok ((∅ : Dynamo.Item).insert "config" (.n (Encodable.encode c)))
  unmarshalMap item := match item.lookup "config" with
    | some (.n code) => match (Encodable.decode code.toNat : Option ClientConfig) with
      | some c => .ok c
      | none => .error "invalid config code"
    | _ => .error "missing config"

theorem codedConfigs_inverse : codedConfigs.Inverse := by
  refine ⟨fun _ => ⟨_,rfl⟩,fun c attrs marshaled pk sk => ?_⟩
  cases marshaled
  have stored : ((((∅ : Dynamo.Item).insert "config" (.n (Encodable.encode c))).insert "PK" (.s pk)).insert "SK"
      (.s sk)).lookup "config" = some (.n (Encodable.encode c)) := by
    rw [AList.lookup_insert_ne (by decide),AList.lookup_insert_ne (by decide),AList.lookup_insert]
  simp only [codedConfigs,stored,Int.toNat_natCast,Encodable.encodek]

-- An admin Put, the request path's Load of the client's slot, and a Get.
def putLoadGet : Interaction PortCall PortCall.Resp (Except ClientStoreError ClientConfig) :=
  .call (.client (.putClientConfig "c1" keyedConfig)) fun _ =>
    .call (.data (.load "c1" (computeKey "state"))) fun _ =>
      .call (.client (.getClientConfig "c1")) .pure

theorem ddb_table_serves_both_ports_on_fresh_table :
    codedConfigs.Inverse ∧ Interaction.Confined NotListing putLoadGet ∧
      DdbBackend.RepresentsPorts codedConfigs 0 ∅ (emptyStore,∅) ∧
      ∃ s', Interaction.Runs (Interaction.OrFails (portsAnswer DdbBackend.versionedAnswer) PortCall.failed) putLoadGet
          (emptyStore,∅) ((putLoadGet.implement (DdbBackend.servePorts codedConfigs 0)).run Dynamo.serve ∅).1 s' ∧
        DdbBackend.RepresentsPorts codedConfigs 0 ((putLoadGet.implement (DdbBackend.servePorts codedConfigs 0)).run Dynamo.serve ∅).2
          s' := by
  have covered : Interaction.Confined NotListing putLoadGet := .call trivial fun _ => .call trivial fun _ => .call trivial fun _ => .pure
  have fresh : DdbBackend.RepresentsPorts codedConfigs 0 ∅ (emptyStore,∅) := ⟨DdbBackend.represents_empty 0,fun _ => trivial⟩
  exact ⟨codedConfigs_inverse,covered,fresh,
    DdbBackend.ddb_table_serves_both_ports codedConfigs codedConfigs_inverse 0 putLoadGet covered fresh
      (Interaction.runs_of_answer Dynamo.answers_serve _ _)⟩

end Enoti
