import Enoti.SharedBackend
import Enoti.ConfigCache

namespace Enoti

-- DataStore.Suppress: one TTL row per client and hash under attribute_not_exists;
-- only DynamoDB's TTL sweeper, not modelled, ends a window.

namespace DdbBackend

open Dynamo
open Interaction (Confined Runs OrFails simulates_orFails)

def skDedup (hash : String) : String := "DEDUP" ++ "#" ++ hash

def dedupKey (clientID hash : String) : Key := ⟨pkClient clientID,skDedup hash⟩

def dedupItem (clientID hash : String) (expiresAt : Int) : Item :=
  itemOf [("PK",.s (pkClient clientID)),("SK",.s (skDedup hash)),("ttl",.n expiresAt)]

-- ExpiresAt is time.Now().Add(window).Unix(), the sum in whole seconds rounded
-- down; MarshalMap of two strings and an int64 cannot fail.
def suppress (now : Int) (clientID hash : String) (window : Int) : DdbProg (Except String Bool) :=
  .call (.putItem (dedupItem clientID hash ((now + window) / second))
      (some (.and (.attributeNotExists "PK") (.attributeNotExists "SK")))) fun
    | .ok () => .pure (.ok false)
    | .error .conditionalCheckFailed => .pure (.ok true)
    | .error err => .pure (.error err.message)

theorem dedupItem_key (clientID hash : String) (expiresAt : Int) :
    (dedupItem clientID hash expiresAt).key? = some (dedupKey clientID hash) := by
  simp [dedupItem,itemOf,Item.key?,dedupKey,AList.lookup_insert,AList.lookup_insert_ne,-AList.insert_empty]

-- The answer is whether a row is stored, whatever its ttl says.
theorem suppress_run {t : Table} (stored : KeysStored t) (now : Int) (clientID hash : String) (window : Int) :
    (suppress now clientID hash window).run exec t =
      if (t.lookup (dedupKey clientID hash)).isSome then (.ok true,t)
      else (.ok false,t.insert (dedupKey clientID hash) (dedupItem clientID hash ((now + window) / second))) := by
  simp only [suppress,Interaction.run_call]
  rw [exec_putItem_absent stored (dedupItem_key ..)]
  by_cases present : (t.lookup (dedupKey clientID hash)).isSome
  · simp only [if_pos present]
    rfl
  · simp only [if_neg present]
    rfl

theorem dedupKey_inj {clientID clientID' hash hash' : String} (same : dedupKey clientID hash = dedupKey clientID' hash') :
    clientID = clientID' ∧ hash = hash' := by
  simpa [dedupKey,pkClient,skDedup] using same

theorem dedupKey_apart (now : Int) (clientID hash : String) :
    ¬DataKey now (dedupKey clientID hash) ∧ ∀ id, dedupKey clientID hash ≠ profileKey id := by
  refine ⟨?_,fun id same => ?_⟩
  · rintro (⟨clientID',scopeKey,same⟩ | ⟨scope,same⟩)
    · have sk := congrArg (fun key : Key => key.sk.toList.head?) same
      simp [dedupKey,edgeKey,skDedup,skEdge] at sk
    · exact pkClient_ne_pkRate clientID scope (congrArg Key.pk same)
  · have sk := congrArg (fun key : Key => key.sk.toList.head?) same
    simp [dedupKey,profileKey,skDedup,skProfile] at sk

theorem RepresentsPorts.insert_apart {codec : ItemCodec ClientConfig} {now : Int} {t : Table} {s : StoreState × Registry}
    (represents : RepresentsPorts codec now t s) {key : Key} (item : Item) (data : ¬DataKey now key)
    (profile : ∀ id, key ≠ profileKey id) : RepresentsPorts codec now (t.insert key item) s := by
  refine ⟨⟨fun clientID scopeKey => ?_,fun scope => ?_⟩,fun id => ?_⟩
  · rw [AList.lookup_insert_ne fun same => data (.inl ⟨clientID,scopeKey,same.symm⟩)]
    exact represents.data.edges clientID scopeKey
  · rw [AList.lookup_insert_ne fun same => data (.inr ⟨scope,same.symm⟩)]
    exact represents.data.grants scope
  · rw [AList.lookup_insert_ne fun same => profile id same.symm]
    exact represents.profiles id

theorem servePorts_dedup (codec : ItemCodec ClientConfig) (now : Int) (op : PortCall) (t : Table) (clientID hash : String) :
    ((servePorts codec now op).run exec t).2.lookup (dedupKey clientID hash) = t.lookup (dedupKey clientID hash) := by
  cases op with
  | data call =>
    refine run_frame ((serveData_writes now call).mono fun r dataOnly writes => ?_) t
    exact (dedupKey_apart now clientID hash).1 (dataOnly _ writes)
  | client call =>
    refine run_frame ((serveClient_writes codec call).mono fun r profileOnly writes => ?_) t
    obtain ⟨id,same⟩ := profileOnly _ writes
    exact (dedupKey_apart now clientID hash).2 id same

theorem serveData_keepsKeys (now : Int) (call : DataStoreCall) : Confined Request.KeepsKeys (serveData now call) := by
  cases call with
  | acquire scope ratePerWindow window =>
    show Confined _ (acquire now scope ratePerWindow window)
    unfold acquire
    split
    · exact .pure
    · exact .call (by simp [Request.KeepsKeys,Update.name]) fun _ => .pure
  | load clientID scopeKey =>
    refine .call trivial fun r => ?_
    rcases r with _ | _ | _ <;> exact .pure
  | upsertCAS clientID scopeKey prevVersion next =>
    show Confined _ (upsertCAS clientID scopeKey prevVersion next)
    unfold upsertCAS
    split
    · exact .call trivial fun _ => .pure
    · exact .call (by simp [Request.KeepsKeys,updatedFields,Update.name]) fun _ => .pure

theorem serveClient_keepsKeys (codec : ItemCodec ClientConfig) (call : ClientStoreCall) :
    Confined Request.KeepsKeys (serveClient codec call) := by
  cases call with
  | getClientConfig clientID =>
    refine .call trivial fun r => ?_
    rcases r with _ | _ | _ <;> exact .pure
  | listClients =>
    refine .call trivial fun r => ?_
    rcases r with _ | _ <;> exact .pure
  | putClientConfig clientID config =>
    show Confined _ (putClientConfig codec clientID config)
    unfold putClientConfig
    split
    · exact .pure
    · split
      · exact .pure
      · refine .call trivial fun r => ?_
        rcases r with _ | _ <;> exact .pure
  | deleteClientConfig clientID =>
    refine .call trivial fun r => ?_
    rcases r with _ | _ <;> exact .pure

theorem servePorts_keysStored (codec : ItemCodec ClientConfig) (now : Int) (op : PortCall) {t : Table}
    (stored : KeysStored t) : KeysStored ((servePorts codec now op).run exec t).2 := by
  have keeps : Confined Request.KeepsKeys (servePorts codec now op) := by
    cases op with
    | data call => exact serveData_keepsKeys now call
    | client call => exact serveClient_keepsKeys codec call
  exact Interaction.run_invariant KeysStored (fun t r allowed kept => exec_keysStored kept r allowed) keeps t stored

-- What Suppress is for: a set of seen pairs, tested and set at once.

def testAndSet (seen : List (String × String)) (entry : String × String) : Bool × List (String × String) :=
  (decide (entry ∈ seen),seen.insert entry)

inductive DedupCall where
  | port (op : PortCall)
  | suppress (now : Int) (clientID hash : String) (window : Int)

abbrev DedupCall.Resp : DedupCall → Type
  | .port op => op.Resp
  | .suppress .. => Except String Bool

def DedupCall.failed : (op : DedupCall) → String → op.Resp
  | .port op,msg => op.failed msg
  | .suppress ..,msg => .error msg

def serveDedup (codec : ItemCodec ClientConfig) (now : Int) : (op : DedupCall) → DdbProg op.Resp
  | .port op => servePorts codec now op
  | .suppress nanos clientID hash window => suppress nanos clientID hash window

def dedupAnswer (s : (StoreState × Registry) × List (String × String)) :
    (op : DedupCall) → op.Resp × ((StoreState × Registry) × List (String × String))
  | .port op => ((portsAnswer versionedAnswer s.1 op).1,((portsAnswer versionedAnswer s.1 op).2,s.2))
  | .suppress _ clientID hash _ => (.ok (testAndSet s.2 (clientID,hash)).1,(s.1,(testAndSet s.2 (clientID,hash)).2))

def DedupGuard : DedupCall → Prop
  | .port op => NotListing op
  | .suppress .. => True

structure RepresentsDedup (codec : ItemCodec ClientConfig) (now : Int) (t : Table)
    (s : (StoreState × Registry) × List (String × String)) : Prop where
  ports : RepresentsPorts codec now t s.1
  keys : KeysStored t
  seen : ∀ clientID hash, (t.lookup (dedupKey clientID hash)).isSome = decide ((clientID,hash) ∈ s.2)

theorem RepresentsDedup.first {codec : ItemCodec ClientConfig} {now : Int} {t : Table}
    {s : (StoreState × Registry) × List (String × String)} (represents : RepresentsDedup codec now t s)
    (clientID hash : String) (item : Item) (keyed : item.key? = some (dedupKey clientID hash)) :
    RepresentsDedup codec now (t.insert (dedupKey clientID hash) item) (s.1,s.2.insert (clientID,hash)) := by
  obtain ⟨data,profile⟩ := dedupKey_apart now clientID hash
  refine ⟨represents.ports.insert_apart item data profile,represents.keys.insert keyed,fun clientID' hash' => ?_⟩
  by_cases same : (clientID',hash') = (clientID,hash)
  · obtain ⟨rfl,rfl⟩ := Prod.mk.inj same
    simp [AList.lookup_insert]
  · have apart : dedupKey clientID' hash' ≠ dedupKey clientID hash := fun keys =>
      same (Prod.ext (dedupKey_inj keys).1 (dedupKey_inj keys).2)
    rw [AList.lookup_insert_ne apart,represents.seen clientID' hash']
    simp [List.mem_insert_iff,same]

theorem serveDedup_refines {codec : ItemCodec ClientConfig} (inverse : codec.Inverse) {now : Int} {t : Table}
    {s : (StoreState × Registry) × List (String × String)} (represents : RepresentsDedup codec now t s) (op : DedupCall)
    (covered : DedupGuard op) :
    ((serveDedup codec now op).run exec t).1 = (dedupAnswer s op).1 ∧
      RepresentsDedup codec now ((serveDedup codec now op).run exec t).2 (dedupAnswer s op).2 := by
  cases op with
  | port op =>
    obtain ⟨answered,ports⟩ := servePorts_refines inverse represents.ports op covered
    refine ⟨answered,ports,servePorts_keysStored codec now op represents.keys,fun clientID hash => ?_⟩
    rw [show serveDedup codec now (.port op) = servePorts codec now op from rfl,servePorts_dedup]
    exact represents.seen clientID hash
  | suppress nanos clientID hash window =>
    rw [show serveDedup codec now (.suppress nanos clientID hash window) = suppress nanos clientID hash window from rfl,
      suppress_run represents.keys]
    have seen := represents.seen clientID hash
    by_cases stored : (t.lookup (dedupKey clientID hash)).isSome
    · -- a stored row: the pair was seen, and nothing changes
      have member : (clientID,hash) ∈ s.2 := of_decide_eq_true (seen.symm.trans stored)
      simp only [stored,if_true,dedupAnswer,testAndSet,decide_eq_true member,List.insert_of_mem member]
      exact ⟨trivial,represents⟩
    · have fresh : (clientID,hash) ∉ s.2 := fun member => stored (seen.trans (decide_eq_true member))
      simp only [stored,Bool.false_eq_true,if_false,dedupAnswer,testAndSet,decide_eq_false fresh]
      exact ⟨trivial,represents.first clientID hash _ (dedupItem_key ..)⟩

theorem serveDedup_faults {codec : ItemCodec ClientConfig} {now : Int} {t t' : Table} {op : DedupCall} {r : op.Resp}
    (path : Runs Answers (serveDedup codec now op) t r t') :
    (serveDedup codec now op).run exec t = (r,t') ∨ ∃ msg, r = op.failed msg ∧ t' = t := by
  cases op with
  | port op => exact servePorts_faults path
  | suppress nanos clientID hash window =>
    simp only [serveDedup,suppress] at path ⊢
    rcases Answers.runs_call (fun r => by rcases r with (_ | _) | _ <;> exact ⟨_,rfl⟩) path with ran | ⟨msg,failed,rfl⟩
    · exact .inl ran
    · exact .inr ⟨msg,(Interaction.pure.inj failed).symm,rfl⟩

-- Suppress answers true exactly for a pair suppressed before, whatever time and
-- window either call gave, and the ports answer as if Suppress never ran.
theorem suppress_refines_seen_set {α : Type} (codec : ItemCodec ClientConfig) (inverse : codec.Inverse) (now : Int)
    (program : Interaction DedupCall DedupCall.Resp α) (covered : Confined DedupGuard program) {t t' : Table}
    {s : (StoreState × Registry) × List (String × String)} (represents : RepresentsDedup codec now t s) {value : α}
    (path : Runs Answers (program.implement (serveDedup codec now)) t value t') :
    ∃ s', Runs (OrFails dedupAnswer DedupCall.failed) program s value s' ∧ RepresentsDedup codec now t' s' :=
  Interaction.runs_implement (RepresentsDedup codec now)
    (simulates_orFails (RepresentsDedup codec now) (fun _ _ op related allowed => serveDedup_refines inverse related op allowed)
      (fun _ _ _ _ path => serveDedup_faults path))
    (Interaction.Safe.of_confined covered (fun _ _ allowed => allowed) s) path represents

theorem representsDedup_empty (codec : ItemCodec ClientConfig) (now : Int) :
    RepresentsDedup codec now ∅ ((emptyStore,∅),[]) :=
  ⟨⟨represents_empty now,fun _ => trivial⟩,keysStored_empty,fun _ _ => rfl⟩

end DdbBackend

-- The same hash twice, an hour apart with a one-minute window.
def repeatedHash : Interaction DdbBackend.DedupCall DdbBackend.DedupCall.Resp (Except String Bool × Except String Bool) :=
  .call (.suppress 0 "c1" "h" (60 * second)) fun first =>
    .call (.suppress (3600 * second) "c1" "h" (60 * second)) fun again =>
      .call (.port (.data (.load "c1" (computeKey "state")))) fun _ => .pure (first,again)

example : (repeatedHash.run DdbBackend.dedupAnswer ((emptyStore,∅),[])).1 = (.ok false,.ok true) := by decide

theorem suppress_refines_seen_set_on_repeated_hash :
    codedConfigs.Inverse ∧ Interaction.Confined DdbBackend.DedupGuard repeatedHash ∧
      DdbBackend.RepresentsDedup codedConfigs 0 ∅ ((emptyStore,∅),[]) ∧
      ∃ s', Interaction.Runs (Interaction.OrFails DdbBackend.dedupAnswer DdbBackend.DedupCall.failed) repeatedHash
          ((emptyStore,∅),[]) ((repeatedHash.implement (DdbBackend.serveDedup codedConfigs 0)).run Dynamo.serve ∅).1 s' ∧
        DdbBackend.RepresentsDedup codedConfigs 0
          ((repeatedHash.implement (DdbBackend.serveDedup codedConfigs 0)).run Dynamo.serve ∅).2 s' := by
  have covered : Interaction.Confined DdbBackend.DedupGuard repeatedHash :=
    .call trivial fun _ => .call trivial fun _ => .call trivial fun _ => .pure
  exact ⟨codedConfigs_inverse,covered,DdbBackend.representsDedup_empty codedConfigs 0,
    DdbBackend.suppress_refines_seen_set codedConfigs codedConfigs_inverse 0 repeatedHash covered
      (DdbBackend.representsDedup_empty codedConfigs 0) (Interaction.runs_of_answer Dynamo.answers_serve _ _)⟩

end Enoti
