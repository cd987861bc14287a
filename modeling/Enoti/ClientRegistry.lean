import Enoti.DdbBackend
import Enoti.RedisBackend

namespace Enoti

open Dynamo

-- Redis: the listing pattern has no wildcard.

namespace RedisBackend

theorem clientKeyPattern_plain : ∀ c ∈ (getClientKey "").toList, c ≠ '*' ∧ c ≠ '?' ∧ c ≠ '\\' := by
  have plain : (getClientKey "").toList.all (fun c => c != '*' && (c != '?' && c != '\\')) = true := by decide
  intro c mem
  simpa using List.all_eq_true.1 plain c mem

theorem listClients_run (s : Redis.Store) : listClients.run Redis.exec s = (.ok [],s) := by
  simp only [listClients,Interaction.run_call,Redis.exec_keys,Interaction.run_pure,Prod.mk.injEq,and_true]
  rw [List.filter_filter]
  have none_kept : ∀ k ∈ s.keys, (decide (k.utf8ByteSize > (getClientKey "").utf8ByteSize) &&
      Redis.globMatch (getClientKey "").toList k.toList) = false := by
    intro k _
    cases matched : Redis.globMatch (getClientKey "").toList k.toList with
    | false => simp
    | true =>
      have same : k = getClientKey "" := String.toList_inj.1 (Redis.globMatch_literal clientKeyPattern_plain matched)
      simp [same]
  rw [List.filter_eq_nil_iff.2 fun k mem => by simp [none_kept k mem]]
  rfl

theorem getClientConfig_absent (json : JsonText ClientConfig) {s : Redis.Store} {clientID : String}
    (absent : s.lookup (getClientKey clientID) = none) :
    (getClientConfig json clientID).run Redis.exec s = (.error (.other "redis: nil"),s) := by
  simp [getClientConfig,Redis.exec_get_absent absent,redisError,Redis.Error.message]

end RedisBackend

-- DynamoDB: the listing query asks for sort keys that no write produces.

namespace DdbBackend

def Listed (key : Key) : Prop := keyMatches "CLIENT#" "PROFILE#" key = true

def Unlisted (t : Table) : Prop := ∀ key, Listed key → t.lookup key = none

def Unlisting (r : Request) : Prop := ∀ key, r.writes key → ¬Listed key

theorem unlisted_empty : Unlisted ∅ := fun _ _ => rfl

theorem exec_unlisted (t : Table) (r : Request) (unlisting : Unlisting r) (unlisted : Unlisted t) :
    Unlisted (exec t r).2 := by
  intro key listed
  rw [exec_frame t r key fun writes => unlisting key writes listed]
  exact unlisted key listed

theorem edgeKey_unlisted (clientID scopeKey : String) : ¬Listed (edgeKey clientID scopeKey) := by
  simp [Listed,keyMatches,edgeKey,skEdge]

theorem profileKey_unlisted (clientID : String) : ¬Listed ⟨pkClient clientID,skProfile⟩ := by
  simp [Listed,keyMatches,skProfile]

theorem rateKey_unlisted (scope : String) (epochMin : Int) : ¬Listed ⟨pkRate scope,skRateWin epochMin⟩ := by
  simp [Listed,keyMatches,pkRate,skRateWin]

theorem createdItem_key (clientID scopeKey : String) (next : Edge) :
    (createdItem clientID scopeKey next).key? = some (edgeKey clientID scopeKey) := by
  simp [createdItem,itemOf,Item.key?,edgeKey,AList.lookup_insert,AList.lookup_insert_ne,-AList.insert_empty]

theorem profileItem_key (attrs : Item) (clientID : String) :
    Item.key? ((attrs.insert "PK" (.s (pkClient clientID))).insert "SK" (.s skProfile)) = some ⟨pkClient clientID,skProfile⟩ := by
  simp [Item.key?]

theorem serveData_confined (now : Int) (call : DataStoreCall) : Interaction.Confined Unlisting (serveData now call) := by
  cases call with
  | acquire scope ratePerWindow window =>
    show Interaction.Confined Unlisting (acquire now scope ratePerWindow window)
    unfold acquire
    split
    · exact .pure
    · exact .call (fun key writes => writes ▸ rateKey_unlisted scope _) fun _ => .pure
  | load clientID scopeKey =>
    refine .call (fun key writes => writes.elim) fun r => ?_
    rcases r with _ | _ | _ <;> exact .pure
  | upsertCAS clientID scopeKey prevVersion next =>
    show Interaction.Confined Unlisting (upsertCAS clientID scopeKey prevVersion next)
    unfold upsertCAS
    split
    · refine .call (fun key writes => ?_) fun _ => .pure
      have same : some (edgeKey clientID scopeKey) = some key := (createdItem_key ..).symm.trans writes
      exact Option.some_inj.1 same ▸ edgeKey_unlisted clientID scopeKey
    · exact .call (fun key writes => writes ▸ edgeKey_unlisted clientID scopeKey) fun _ => .pure

theorem serveClient_confined (codec : ItemCodec ClientConfig) (call : ClientStoreCall) :
    Interaction.Confined Unlisting (serveClient codec call) := by
  cases call with
  | getClientConfig clientID =>
    refine .call (fun key writes => writes.elim) fun r => ?_
    rcases r with _ | _ | _ <;> exact .pure
  | listClients =>
    refine .call (fun key writes => writes.elim) fun r => ?_
    rcases r with _ | _ <;> exact .pure
  | putClientConfig clientID config =>
    show Interaction.Confined Unlisting (putClientConfig codec clientID config)
    unfold putClientConfig
    split
    · exact .pure
    · split
      · exact .pure
      · refine .call (fun key writes => ?_) fun r => ?_
        · have same := (profileItem_key ..).symm.trans writes
          exact Option.some_inj.1 same ▸ profileKey_unlisted clientID
        · rcases r with _ | _ <;> exact .pure
  | deleteClientConfig clientID =>
    refine .call (fun key writes => writes ▸ profileKey_unlisted clientID) fun r => ?_
    rcases r with _ | _ <;> exact .pure

theorem serve_unlisted (codec : ItemCodec ClientConfig) {t : Table} (call : BackendCall) (unlisted : Unlisted t) :
    Unlisted (serve codec t call) := by
  cases call with
  | data now call =>
    exact Interaction.run_invariant Unlisted exec_unlisted (serveData_confined now call) t unlisted
  | client call =>
    exact Interaction.run_invariant Unlisted exec_unlisted (serveClient_confined codec call) t unlisted

theorem serveAll_unlisted (codec : ItemCodec ClientConfig) (calls : List BackendCall) {t : Table} (unlisted : Unlisted t) :
    Unlisted (serveAll codec t calls) := by
  induction calls generalizing t with
  | nil => exact unlisted
  | cons call rest ih => exact ih (serve_unlisted codec call unlisted)

theorem listClients_unlisted {t : Table} (unlisted : Unlisted t) : listClients.run exec t = (.ok [],t) := by
  have none_listed : t.entries.filter (fun e => keyMatches "CLIENT#" "PROFILE#" e.1) = [] := by
    refine List.filter_eq_nil_iff.2 fun e mem listed => ?_
    have stored : t.lookup e.1 = some e.2 := AList.mem_lookup_iff.2 mem
    rw [unlisted e.1 listed] at stored
    cases stored
  simp [listClients,exec,none_listed,collectClientIDs]

end DdbBackend

theorem client_listing_finds_no_client (codec : ItemCodec ClientConfig) (json : JsonText ClientConfig) :
    (∀ s : Redis.Store, (RedisBackend.listClients.run Redis.exec s).1 = .ok []) ∧
      (∀ clientID, ((RedisBackend.getClientConfig json clientID).run Redis.exec ∅).1 = .error (.other "redis: nil")) ∧
      (∀ calls : List DdbBackend.BackendCall,
        (DdbBackend.listClients.run exec (DdbBackend.serveAll codec ∅ calls)).1 = .ok []) := by
  refine ⟨fun s => ?_,fun clientID => ?_,fun calls => ?_⟩
  · rw [RedisBackend.listClients_run]
  · rw [RedisBackend.getClientConfig_absent json rfl]
  · rw [DdbBackend.listClients_unlisted (DdbBackend.serveAll_unlisted codec calls DdbBackend.unlisted_empty)]

end Enoti
