import Enoti.ClientRegistry
import Enoti.ConfigCache
import Enoti.DynamoControl
import Enoti.KeySpace

namespace Enoti

-- ClientStore.ClearAll: Redis deletes the config keys and each client's data
-- keys but never the rate windows; DynamoDB deletes and recreates the table.

namespace RedisBackend

open Interaction (Runs forEach run_bind run_call run_pure runs_call_inv runs_of_bind runs_pure_inv)

-- len(fmt.Sprintf(configKeyNameTemplate, "")): key[stubLen:] drops that many bytes.
def stubLen : Nat := (getClientKey "").utf8ByteSize

def dataPattern (key : String) : String := getDataKeyName (String.ofList (key.toList.drop stubLen)) "*"

-- A failure of either command is logged and the loop goes on.
def clearClientData (key : String) : RedisProg Unit :=
  .call (.keys (dataPattern key)) fun
    | .error _ => .pure ()
    | .ok dataKeys => if dataKeys.length > 0 then .call (.del dataKeys) fun _ => .pure () else .pure ()

def clearAll : RedisProg (Except ClientStoreError Unit) :=
  .call (.keys (getClientKey "*")) fun
    | .error err => .pure (.error (redisError err))
    | .ok keys =>
      if keys.length = 0 then .pure (.ok ()) else
      (forEach clearClientData (fun _ _ _ => ()) () keys).bind fun _ =>
        .call (.del keys) fun
          | .error err => .pure (.error (redisError err))
          | .ok _ => .pure (.ok ())

def found (t : Redis.Store) (pattern : String) : List String :=
  t.keys.filter fun k => Redis.globMatch pattern.toList k.toList

theorem lookup_erase_found (t : Redis.Store) (pattern k : String) :
    ((found t pattern).foldl (fun acc key => acc.erase key) t).lookup k =
      if Redis.globMatch pattern.toList k.toList then none else t.lookup k := by
  rw [Redis.lookup_foldl_erase]
  by_cases matched : Redis.globMatch pattern.toList k.toList
  · by_cases present : k ∈ t.keys
    · simp [found,matched,present]
    · simp [found,matched,present,AList.lookup_eq_none.2 present]
  · simp [found,matched]

theorem clearClientData_run (key : String) (t : Redis.Store) :
    (clearClientData key).run Redis.exec t = ((),(found t (dataPattern key)).foldl (fun acc k => acc.erase k) t) := by
  simp only [clearClientData,run_call,Redis.exec_keys]
  by_cases nonempty : (found t (dataPattern key)).length > 0
  · simp only [found] at nonempty
    simp only [nonempty,if_true,run_call,run_pure]
    rfl
  · have nothing : found t (dataPattern key) = [] := List.eq_nil_of_length_eq_zero (by omega)
    rw [nothing,List.foldl_nil]
    simp only [found] at nothing
    simp only [nothing,List.length_nil,gt_iff_lt,Nat.lt_irrefl,if_false,run_pure]

theorem clearData_lookup (keys : List String) (t : Redis.Store) (k : String) :
    ((forEach clearClientData (fun _ _ _ => ()) () keys).run Redis.exec t).2.lookup k =
      if keys.any (fun key => Redis.globMatch (dataPattern key).toList k.toList) then none else t.lookup k := by
  induction keys generalizing t with
  | nil => rfl
  | cons key rest ih =>
    rw [forEach,run_bind,clearClientData_run,ih,lookup_erase_found]
    by_cases matched : Redis.globMatch (dataPattern key).toList k.toList <;> simp [matched]

theorem clearAll_lookup (t : Redis.Store) (k : String) :
    (clearAll.run Redis.exec t).2.lookup k =
      if Redis.globMatch (getClientKey "*").toList k.toList ∨
          (found t (getClientKey "*")).any (fun key => Redis.globMatch (dataPattern key).toList k.toList)
      then none else t.lookup k := by
  simp only [clearAll,run_call,Redis.exec_keys]
  by_cases empty : (found t (getClientKey "*")).length = 0
  · have nothing : found t (getClientKey "*") = [] := List.eq_nil_of_length_eq_zero empty
    simp only [nothing,List.any_nil,Bool.false_eq_true,or_false]
    simp only [found] at nothing
    simp only [nothing,List.length_nil,if_true,run_pure]
    by_cases matched : Redis.globMatch (getClientKey "*").toList k.toList
    · have absent : k ∉ t.keys := fun present => by
        have listed : k ∈ t.keys.filter fun k => Redis.globMatch (getClientKey "*").toList k.toList :=
          List.mem_filter.2 ⟨present,matched⟩
        rw [nothing] at listed
        cases listed
      simp [matched,AList.lookup_eq_none.2 absent]
    · simp [matched]
  · simp only [found] at empty
    simp only [empty,if_false,run_bind,run_call]
    show ((found t (getClientKey "*")).foldl (fun (acc : Redis.Store) key => acc.erase key) _).lookup k = _
    rw [Redis.lookup_foldl_erase,clearData_lookup]
    by_cases matched : Redis.globMatch (getClientKey "*").toList k.toList
    · by_cases present : k ∈ t.keys
      · simp [found,matched,present]
      · simp [found,matched,present,AList.lookup_eq_none.2 present]
    · simp [found,matched]

theorem clearAll_answer (t : Redis.Store) : (clearAll.run Redis.exec t).1 = .ok () := by
  simp only [clearAll,run_call,Redis.exec_keys]
  split
  · rfl
  · simp only [run_bind,run_call]
    rfl

theorem stubLen_eq : stubLen = (getClientKey "").toList.length := by decide

theorem dataPattern_clientKey (id : String) : dataPattern (getClientKey id) = getDataKeyName id "*" := by
  have dropped : (getClientKey id).toList.drop stubLen = id.toList := by
    rw [stubLen_eq]
    show ("_enoti_cfg_" ++ id).toList.drop ("_enoti_cfg_" ++ "").toList.length = id.toList
    rw [String.toList_append,String.toList_append,String.toList_empty,List.append_nil,List.drop_left]
  show getDataKeyName (String.ofList ((getClientKey id).toList.drop stubLen)) "*" = _
  rw [dropped,String.ofList_toList]

theorem clientPattern_spelled : (getClientKey "*").toList = (getClientKey "").toList ++ ['*'] := by
  show ("_enoti_cfg_" ++ "*").toList = ("_enoti_cfg_" ++ "").toList ++ ['*']
  rw [String.toList_append,String.toList_append,String.toList_empty,List.append_nil]
  rfl

theorem dataKey_spelled (clientID scopeKey : String) :
    (getDataKeyName clientID scopeKey).toList = "_enoti_data_".toList ++ (clientID ++ "_s" ++ scopeKey).toList := by
  show ("_enoti_data_" ++ clientID ++ "_s" ++ scopeKey).toList = _
  simp only [String.toList_append,List.append_assoc]

theorem clientKey_matched (id : String) : Redis.globMatch (getClientKey "*").toList (getClientKey id).toList = true := by
  rw [clientPattern_spelled,Redis.globMatch_prefix_star clientKeyPattern_plain]
  show ("_enoti_cfg_" ++ "").toList <+: ("_enoti_cfg_" ++ id).toList
  rw [String.toList_append,String.toList_append,String.toList_empty,List.append_nil]
  exact List.prefix_append _ _

-- An ID with none of the characters KEYS reads as pattern syntax.
def PlainID (id : String) : Prop := ∀ c ∈ id.toList, c ≠ '*' ∧ c ≠ '?' ∧ c ≠ '\\' ∧ c ≠ '['

instance decidablePlainID : DecidablePred PlainID := fun id =>
  decidable_of_iff (id.toList.all fun c => c != '*' && (c != '?' && (c != '\\' && c != '['))) (by simp [PlainID])

theorem dataKey_matched {id : String} (plain : PlainID id) (scopeKey : String) :
    Redis.globMatch (getDataKeyName id "*").toList (getDataKeyName id scopeKey).toList = true := by
  have spelled : ∀ s, (getDataKeyName id s).toList = ("_enoti_data_".toList ++ id.toList ++ "_s".toList) ++ s.toList :=
    fun s => by simp only [dataKey_spelled,String.toList_append,List.append_assoc]
  have fixed : ∀ c ∈ "_enoti_data_".toList ++ "_s".toList, c ≠ '*' ∧ c ≠ '?' ∧ c ≠ '\\' := Redis.plain_of_all (by decide)
  rw [spelled,spelled,show "*".toList = ['*'] from rfl,Redis.globMatch_prefix_star]
  · exact List.prefix_append _ _
  · -- the template's characters, and the ID's
    intro c mem
    simp only [List.mem_append] at mem
    rcases mem with (front | inID) | back
    · exact fixed c (List.mem_append_left _ front)
    · exact ⟨(plain c inID).1,(plain c inID).2.1,(plain c inID).2.2.1⟩
    · exact fixed c (List.mem_append_right _ back)

theorem not_prefix_of_template {p : List Char} {template rest : String} (n : Nat) (within : n ≤ p.length)
    (within' : n ≤ template.toList.length) (differ : p.take n ≠ template.toList.take n) :
    ¬p <+: (template ++ rest).toList := by
  rintro ⟨tail,spelled⟩
  have front := congrArg (List.take n) spelled
  rw [String.toList_append,List.take_append_of_le_length within,List.take_append_of_le_length within'] at front
  exact differ front

theorem windowKey_unmatched {p q : List Char} (plain : ∀ c ∈ p, c ≠ '*' ∧ c ≠ '?' ∧ c ≠ '\\') (within : 8 ≤ p.length)
    (differ : p.take 8 ≠ "_enoti_rwin_".toList.take 8) (key : String) (epochMin : Int) :
    Redis.globMatch (p ++ q) (getWindowKeyName key epochMin).toList = false := by
  rw [Bool.eq_false_iff]
  intro matched
  have spelled : getWindowKeyName key epochMin = "_enoti_rwin_" ++ (key ++ "_" ++ Strconv.formatInt epochMin) := by
    show "_enoti_rwin_" ++ key ++ "_" ++ Strconv.formatInt epochMin = _
    simp only [String.append_assoc]
  rw [spelled] at matched
  exact not_prefix_of_template 8 within (by decide) differ (Redis.isPrefix_of_globMatch_plain plain matched)

theorem clientKey_unmatched_data (x id : String) :
    Redis.globMatch (dataPattern x).toList (getClientKey id).toList = false := by
  rw [Bool.eq_false_iff]
  intro matched
  rw [show dataPattern x = getDataKeyName _ "*" from rfl,dataKey_spelled] at matched
  exact not_prefix_of_template 8 (by decide) (by decide) (by decide)
    (Redis.isPrefix_of_globMatch_plain (Redis.plain_of_all (by decide)) matched)

theorem dataKey_unmatched_config (id scopeKey : String) :
    Redis.globMatch (getClientKey "*").toList (getDataKeyName id scopeKey).toList = false := by
  rw [Bool.eq_false_iff]
  intro matched
  have spelled : getDataKeyName id scopeKey = "_enoti_data_" ++ (id ++ "_s" ++ scopeKey) := by
    show "_enoti_data_" ++ id ++ "_s" ++ scopeKey = _
    simp only [String.append_assoc]
  rw [clientPattern_spelled,spelled] at matched
  exact not_prefix_of_template 8 (by decide) (by decide) (by decide)
    (Redis.isPrefix_of_globMatch_plain clientKeyPattern_plain matched)

theorem windowKey_unmatched_config (key : String) (epochMin : Int) :
    Redis.globMatch (getClientKey "*").toList (getWindowKeyName key epochMin).toList = false := by
  rw [clientPattern_spelled]
  exact windowKey_unmatched clientKeyPattern_plain (by decide) (by decide) key epochMin

theorem windowKey_unmatched_data (x key : String) (epochMin : Int) :
    Redis.globMatch (dataPattern x).toList (getWindowKeyName key epochMin).toList = false := by
  show Redis.globMatch (getDataKeyName _ "*").toList _ = false
  rw [dataKey_spelled]
  exact windowKey_unmatched (Redis.plain_of_all (by decide)) (by decide) (by decide) key epochMin

-- A failed KEYS or DEL of a client's data keys is only logged.

section
variable {t t' : Redis.Store}

theorem clearClientData_runs_frame {key : String} {u : Unit} (path : Runs Redis.Answers (clearClientData key) t u t')
    (k : String) (unmatched : Redis.globMatch (dataPattern key).toList k.toList = false) : t'.lookup k = t.lookup k := by
  obtain ⟨reply,middle,answered,rest⟩ := runs_call_inv path
  rcases answered with ran | ⟨msg,rfl,rfl⟩
  · rw [Redis.exec_keys] at ran
    obtain ⟨rfl,rfl⟩ := Prod.mk.inj ran
    dsimp only at rest
    split at rest
    · obtain ⟨reply',middle',answered',rest'⟩ := runs_call_inv rest
      obtain ⟨rfl,rfl⟩ := runs_pure_inv rest'
      rcases answered' with ran' | ⟨msg',rfl,rfl⟩
      · -- DEL removed what KEYS found, which the pattern matches
        rw [Redis.exec_del] at ran'
        obtain ⟨-,rfl⟩ := Prod.mk.inj ran'
        have erased := lookup_erase_found t (dataPattern key) k
        simp only [unmatched,Bool.false_eq_true,if_false] at erased
        exact erased
      · rfl
    · obtain ⟨rfl,rfl⟩ := runs_pure_inv rest
      rfl
  · obtain ⟨rfl,rfl⟩ := runs_pure_inv rest
    rfl

theorem clearData_runs_frame {keys : List String} {u : Unit}
    (path : Runs Redis.Answers (forEach clearClientData (fun _ _ _ => ()) () keys) t u t') (k : String)
    (unmatched : ∀ key ∈ keys, Redis.globMatch (dataPattern key).toList k.toList = false) : t'.lookup k = t.lookup k := by
  induction keys generalizing t with
  | nil =>
    obtain ⟨rfl,rfl⟩ := runs_pure_inv path
    rfl
  | cons key rest ih =>
    obtain ⟨v,middle,first,later⟩ := runs_of_bind path
    rw [ih later fun key' mem => unmatched key' (List.mem_cons_of_mem _ mem)]
    exact clearClientData_runs_frame first k (unmatched key List.mem_cons_self)

theorem clearAll_runs_frame {r : Except ClientStoreError Unit} (path : Runs Redis.Answers clearAll t r t') (k : String)
    (config : Redis.globMatch (getClientKey "*").toList k.toList = false)
    (data : ∀ x, Redis.globMatch (dataPattern x).toList k.toList = false) : t'.lookup k = t.lookup k := by
  obtain ⟨reply,middle,answered,rest⟩ := runs_call_inv path
  rcases answered with ran | ⟨msg,rfl,rfl⟩
  · rw [Redis.exec_keys] at ran
    obtain ⟨rfl,rfl⟩ := Prod.mk.inj ran
    dsimp only at rest
    split at rest
    · obtain ⟨rfl,rfl⟩ := runs_pure_inv rest
      rfl
    · obtain ⟨u,middle,looped,deleting⟩ := runs_of_bind rest
      rw [← clearData_runs_frame looped k fun key _ => data key]
      obtain ⟨reply',middle',answered',rest'⟩ := runs_call_inv deleting
      rcases answered' with ran' | ⟨msg',rfl,rfl⟩
      · rw [Redis.exec_del] at ran'
        obtain ⟨rfl,rfl⟩ := Prod.mk.inj ran'
        obtain ⟨rfl,rfl⟩ := runs_pure_inv rest'
        rw [Redis.lookup_foldl_erase,if_neg fun listed => by simp [config] at listed]
      · obtain ⟨rfl,rfl⟩ := runs_pure_inv rest'
        rfl
  · obtain ⟨rfl,rfl⟩ := runs_pure_inv rest
    rfl

theorem clearAll_runs_purges (path : Runs Redis.Answers clearAll t (.ok ()) t') (id : String) :
    t'.lookup (getClientKey id) = none := by
  have unfound : getClientKey id ∉ found t (getClientKey "*") → t.lookup (getClientKey id) = none := fun unlisted =>
    AList.lookup_eq_none.2 fun present => unlisted (List.mem_filter.2 ⟨present,clientKey_matched id⟩)
  obtain ⟨reply,middle,answered,rest⟩ := runs_call_inv path
  rcases answered with ran | ⟨msg,rfl,rfl⟩
  · rw [Redis.exec_keys] at ran
    obtain ⟨rfl,rfl⟩ := Prod.mk.inj ran
    dsimp only at rest
    split at rest
    · rename_i empty
      obtain ⟨-,rfl⟩ := runs_pure_inv rest
      exact unfound fun listed => by
        simp only [found] at listed
        rw [List.eq_nil_of_length_eq_zero empty] at listed
        cases listed
    · obtain ⟨u,middle,looped,deleting⟩ := runs_of_bind rest
      have kept := clearData_runs_frame looped (getClientKey id) fun key _ => clientKey_unmatched_data _ id
      obtain ⟨reply',middle',answered',rest'⟩ := runs_call_inv deleting
      rcases answered' with ran' | ⟨msg',rfl,rfl⟩
      · rw [Redis.exec_del] at ran'
        obtain ⟨rfl,rfl⟩ := Prod.mk.inj ran'
        obtain ⟨-,rfl⟩ := runs_pure_inv rest'
        rw [Redis.lookup_foldl_erase]
        split
        · rfl
        · rename_i unlisted
          rw [kept]
          exact unfound unlisted
      · cases (runs_pure_inv rest').1
  · cases (runs_pure_inv rest).1

-- Every per-client KEYS fails: ClearAll answers nil and removes no data key.
theorem clearAll_skips_data (t : Redis.Store) :
    ∃ t', Runs Redis.Answers clearAll t (.ok ()) t' ∧
      ∀ id scopeKey, t'.lookup (getDataKeyName id scopeKey) = t.lookup (getDataKeyName id scopeKey) := by
  have skipped : ∀ keys : List String, Runs Redis.Answers (forEach clearClientData (fun _ _ _ => ()) () keys) t () t := by
    intro keys
    induction keys with
    | nil => exact .pure
    | cons key rest ih => exact Runs.bind (.call (.inr ⟨"i/o timeout",rfl,rfl⟩) .pure) ih
  by_cases empty : (found t (getClientKey "*")).length = 0
  · refine ⟨t,.call (.inl (Redis.exec_keys t _)) ?_,fun _ _ => rfl⟩
    simp only [found] at empty
    simp only [empty,if_true]
    exact .pure
  · refine ⟨(found t (getClientKey "*")).foldl (fun acc k => acc.erase k) t,.call (.inl (Redis.exec_keys t _)) ?_,?_⟩
    · simp only [found] at empty
      simp only [empty,if_false]
      exact Runs.bind (skipped _) (.call (.inl (Redis.exec_del t _)) .pure)
    · intro id scopeKey
      rw [Redis.lookup_foldl_erase,if_neg fun listed => by simp [found,dataKey_unmatched_config] at listed]

end

theorem clear_all_purges_clients_keeps_windows (t : Redis.Store) :
    (∀ r t', Runs Redis.Answers clearAll t r t' →
      (∀ key epochMin, t'.lookup (getWindowKeyName key epochMin) = t.lookup (getWindowKeyName key epochMin)) ∧
      (r = .ok () → ∀ id, t'.lookup (getClientKey id) = none)) ∧
    (∃ t', Runs Redis.Answers clearAll t (.ok ()) t' ∧
      ∀ id scopeKey, t'.lookup (getDataKeyName id scopeKey) = t.lookup (getDataKeyName id scopeKey)) ∧
    ((clearAll.run Redis.exec t).1 = .ok () ∧
      ∀ id scopeKey, PlainID id → (t.lookup (getClientKey id)).isSome →
        (clearAll.run Redis.exec t).2.lookup (getDataKeyName id scopeKey) = none) := by
  refine ⟨fun r t' path => ⟨fun key epochMin => ?_,?_⟩,clearAll_skips_data t,clearAll_answer t,fun id scopeKey plain present => ?_⟩
  · exact clearAll_runs_frame path _ (windowKey_unmatched_config key epochMin) fun x => windowKey_unmatched_data x key epochMin
  · rintro rfl
    exact clearAll_runs_purges path
  · -- the config key is among those KEYS found, and its data pattern covers the key
    have listed : getClientKey id ∈ found t (getClientKey "*") :=
      List.mem_filter.2 ⟨AList.mem_keys.1 (AList.lookup_isSome.1 present),clientKey_matched id⟩
    have covered : Redis.globMatch (dataPattern (getClientKey id)).toList (getDataKeyName id scopeKey).toList = true := by
      rw [dataPattern_clientKey]
      exact dataKey_matched plain scopeKey
    rw [clearAll_lookup,if_pos (.inr (List.any_eq_true.2 ⟨_,listed,covered⟩))]

def seededKeyspace : Redis.Store :=
  ((∅ : Redis.Store).insert (getClientKey "c1") (.str "{}")).insert (getDataKeyName "c1" (computeKey "state"))
    (.hash ∅) |>.insert (getWindowKeyName "IP:1.2.3.4" 7) (.hash ∅)

theorem clear_all_purges_clients_keeps_windows_on_seeded_keyspace :
    PlainID "c1" ∧ (seededKeyspace.lookup (getClientKey "c1")).isSome ∧
    (clearAll.run Redis.exec seededKeyspace).2.lookup (getDataKeyName "c1" (computeKey "state")) = none :=
  ⟨by decide,by decide,(clear_all_purges_clients_keeps_windows seededKeyspace).2.2.2 "c1" _ (by decide) (by decide)⟩

end RedisBackend

-- ddb.ClientStore.ClearAll: DeleteTable, the TableNotExists waiter, then
-- createTableIfNotExists, whose failure ends the process.

namespace DdbBackend

open Dynamo
open Interaction (Runs runs_call_inv runs_pure_inv runs_of_bind)

abbrev DdbControl := Interaction ControlRequest ControlRequest.Resp

-- What a call that may end the process by log.Fatalf gives back.
inductive Ending (α : Type) where
  | returned (value : α)
  | fatal (msg : String)

-- A table that exists already is fine; any other failure is log.Fatalf.
def createTableIfNotExists (table : String) : DdbControl (Ending Unit) :=
  .call .createTable fun
    | .ok () => .pure (.returned ())
    | .error .resourceInUse => .pure (.returned ())
    | .error err => .pure (.fatal ("Failed to create table " ++ table ++ ": " ++ err.message))

def clearAll (table : String) : DdbControl (Ending (Except ClientStoreError Unit)) :=
  .call .deleteTable fun
    | .error err => .pure (.returned (.error (.other err.message)))
    | .ok () =>
      .call (.waitNotExists (30 * second)) fun
        | .error err => .pure (.returned (.error (.other err.message)))
        | .ok () => (createTableIfNotExists table).bind fun
          | .returned () => .pure (.returned (.ok ()))
          | .fatal msg => .pure (.fatal msg)

theorem createTableIfNotExists_runs {table : String} {s s' : TableStatus} {result : Ending Unit}
    (path : Runs controlAnswers (createTableIfNotExists table) s result s') :
    (s' = s ∧ (s = .absent → ∃ msg, result = .fatal msg)) ∨ (s = .absent ∧ s' = .active ∅ ∧ result = .returned ()) := by
  obtain ⟨answer,middle,answered,rest⟩ := runs_call_inv path
  rcases answer with err | ⟨⟩
  · have kept := createTable_error answered
    subst kept
    cases err with
    | resourceInUse =>
      obtain ⟨rfl,rfl⟩ := runs_pure_inv rest
      refine .inl ⟨rfl,fun absent => ?_⟩
      subst absent
      exact (createTable_absent_refused answered).elim
    | resourceNotFound =>
      obtain ⟨rfl,rfl⟩ := runs_pure_inv rest
      exact .inl ⟨rfl,fun _ => ⟨_,rfl⟩⟩
    | failure msg =>
      obtain ⟨rfl,rfl⟩ := runs_pure_inv rest
      exact .inl ⟨rfl,fun _ => ⟨_,rfl⟩⟩
  · obtain ⟨absent,created⟩ := createTable_ok answered
    obtain ⟨rfl,rfl⟩ := runs_pure_inv rest
    exact .inr ⟨absent,created,rfl⟩

theorem clearAll_runs {table : String} {s s' : TableStatus} {result : Ending (Except ClientStoreError Unit)}
    (path : Runs controlAnswers (clearAll table) s result s') :
    (result = .returned (.ok ()) → s' = .active ∅) ∧
      (∀ err, result = .returned (.error err) → s' = s ∨ s' = .deleting ∨ s' = .absent) ∧
      (∀ msg, result = .fatal msg → s' = .absent) := by
  obtain ⟨deleted,middle,answered,rest⟩ := runs_call_inv path
  rcases deleted with err | ⟨⟩
  · -- DeleteTable failed: the table is as it was
    have kept := deleteTable_error answered
    obtain ⟨rfl,rfl⟩ := runs_pure_inv rest
    exact ⟨(fun returned => by cases returned),fun _ _ => .inl kept,(fun _ fatal => by cases fatal)⟩
  · have deleting := deleteTable_ok answered
    subst deleting
    obtain ⟨waited,middle',answered',rest'⟩ := runs_call_inv rest
    rcases waited with err | ⟨⟩
    · -- the waiter gave up: the table is still being deleted, or gone, and not created again
      have left := waitNotExists_error answered'
      obtain ⟨rfl,rfl⟩ := runs_pure_inv rest'
      refine ⟨(fun returned => by cases returned),fun _ _ => .inr left,(fun _ fatal => by cases fatal)⟩
    · have gone := waitNotExists_ok answered'
      subst gone
      obtain ⟨created,middle'',creating,rest''⟩ := runs_of_bind rest'
      rcases createTableIfNotExists_runs creating with ⟨kept,fatal⟩ | ⟨-,fresh,rfl⟩
      · obtain ⟨msg,rfl⟩ := fatal rfl
        obtain ⟨rfl,rfl⟩ := runs_pure_inv rest''
        exact ⟨(fun returned => by cases returned),(fun _ returned => by cases returned),fun _ _ => kept⟩
      · obtain ⟨rfl,rfl⟩ := runs_pure_inv rest''
        exact ⟨fun _ => fresh,(fun _ returned => by cases returned),(fun _ fatal => by cases fatal)⟩

end DdbBackend

end Enoti
