import Enoti.ClientRegistry
import Enoti.Flow
import Enoti.Suffix
import Mathlib.Data.Set.Operations

namespace Enoti

-- The storage keys of both backends, read back only through the shape of their
-- last part: ComputeKey's e and digits, or a non-negative epoch minute.

open Interaction

def DigitKey (s : String) : Prop := ∃ digits : List Char, s.toList = 'e' :: digits ∧ ∀ c ∈ digits, c.isDigit

theorem computeKey_digitKey (field : String) : DigitKey (computeKey field) := by
  refine ⟨Nat.toDigits 10 (fnv32a (utf8Bytes field)).toNat,?_,fun c mem => Nat.isDigit_of_mem_toDigits (by decide) (by decide) mem⟩
  rw [computeKey,String.toList_append,Strconv.formatInt_natCast]
  rfl

inductive RateScope : String → Prop where
  | ip (clientIP : String) : RateScope ("IP:" ++ clientIP)
  | client (clientID : String) : RateScope ("CLIENT:" ++ clientID)
  | target (clientID snsArn : String) : RateScope (targetScope clientID snsArn)

theorem formatInt_digits {m : Int} (nonneg : 0 ≤ m) : ∀ c ∈ (Strconv.formatInt m).toList, c.isDigit := by
  obtain ⟨n,rfl⟩ := Int.eq_ofNat_of_zero_le nonneg
  rw [Strconv.formatInt_natCast]
  exact fun c mem => Nat.isDigit_of_mem_toDigits (by decide) (by decide) mem

theorem template_ne {template template' rest rest' : String} (n : Nat) (within : n ≤ template.toList.length)
    (within' : n ≤ template'.toList.length) (differ : template.toList.take n ≠ template'.toList.take n) :
    template ++ rest ≠ template' ++ rest' := by
  intro same
  have front := congrArg (fun s : String => s.toList.take n) same
  simp only [String.toList_append,List.take_append_of_le_length within,List.take_append_of_le_length within'] at front
  exact differ front

namespace RedisBackend

theorem getDataKeyName_inj {clientID clientID' scopeKey scopeKey' : String} (digits : DigitKey scopeKey)
    (digits' : DigitKey scopeKey') (same : getDataKeyName clientID scopeKey = getDataKeyName clientID' scopeKey') :
    clientID = clientID' ∧ scopeKey = scopeKey' := by
  obtain ⟨ds,spelled,isDigit⟩ := digits
  obtain ⟨ds',spelled',isDigit'⟩ := digits'
  -- unfolding the template by its definition, not by an equation lemma
  have lists : ("_enoti_data_" ++ clientID ++ "_s" ++ scopeKey).toList =
      ("_enoti_data_" ++ clientID' ++ "_s" ++ scopeKey').toList := congrArg String.toList same
  simp only [String.toList_append,spelled,spelled'] at lists
  -- the scope key's digits are the digit run after the last e, whatever the client ID holds
  obtain ⟨fronts,-,rfl⟩ := List.append_cons_inj_of_cut (p := Char.isDigit) (by decide) (by decide) isDigit isDigit' lists
  have ids : clientID.toList = clientID'.toList := List.append_cancel_left (List.append_cancel_right fronts)
  exact ⟨String.toList_inj.1 ids,String.toList_inj.1 (spelled.trans spelled'.symm)⟩

theorem getWindowKeyName_inj {key key' : String} {epochMin epochMin' : Int} (nonneg : 0 ≤ epochMin)
    (nonneg' : 0 ≤ epochMin') (same : getWindowKeyName key epochMin = getWindowKeyName key' epochMin') :
    key = key' ∧ epochMin = epochMin' := by
  have lists : ("_enoti_rwin_" ++ key ++ "_" ++ Strconv.formatInt epochMin).toList =
      ("_enoti_rwin_" ++ key' ++ "_" ++ Strconv.formatInt epochMin').toList := congrArg String.toList same
  have cut : ∀ front minute : List Char, front ++ "_".toList ++ minute = front ++ '_' :: minute := fun front minute => by
    rw [List.append_assoc]
    rfl
  simp only [String.toList_append] at lists
  rw [cut,cut] at lists
  obtain ⟨fronts,-,minutes⟩ :=
    List.append_cons_inj_of_cut (p := Char.isDigit) (by decide) (by decide) (formatInt_digits nonneg) (formatInt_digits nonneg') lists
  exact ⟨String.toList_inj.1 (List.append_cancel_left fronts),Strconv.formatInt_inj (String.toList_inj.1 minutes)⟩

theorem dataKey_ne_clientKey (clientID scopeKey id : String) : getDataKeyName clientID scopeKey ≠ getClientKey id := by
  show "_enoti_data_" ++ clientID ++ "_s" ++ scopeKey ≠ "_enoti_cfg_" ++ id
  rw [String.append_assoc,String.append_assoc]
  exact template_ne 8 (by decide) (by decide) (by decide)

theorem dataKey_ne_windowKey (clientID scopeKey key : String) (epochMin : Int) :
    getDataKeyName clientID scopeKey ≠ getWindowKeyName key epochMin := by
  show "_enoti_data_" ++ clientID ++ "_s" ++ scopeKey ≠ "_enoti_rwin_" ++ key ++ "_" ++ Strconv.formatInt epochMin
  rw [String.append_assoc,String.append_assoc,String.append_assoc,String.append_assoc]
  exact template_ne 8 (by decide) (by decide) (by decide)

theorem clientKey_ne_windowKey (id key : String) (epochMin : Int) : getClientKey id ≠ getWindowKeyName key epochMin := by
  show "_enoti_cfg_" ++ id ≠ "_enoti_rwin_" ++ key ++ "_" ++ Strconv.formatInt epochMin
  rw [String.append_assoc,String.append_assoc]
  exact template_ne 8 (by decide) (by decide) (by decide)

end RedisBackend

namespace DdbBackend

theorem pkClient_ne_pkRate (id scope : String) : pkClient id ≠ pkRate scope := by
  show "CLIENT" ++ "#" ++ id ≠ "RATE" ++ "#" ++ scope
  rw [String.append_assoc,String.append_assoc]
  exact template_ne 1 (by decide) (by decide) (by decide)

end DdbBackend

def OnSlot (clientID scopeKey : String) : DataStoreCall → Prop
  | .acquire .. => False
  | .load id key => id = clientID ∧ key = scopeKey
  | .upsertCAS id key _ _ => id = clientID ∧ key = scopeKey

-- The request's own slot at its trigger's key, and the three rate scopes.
def RunCall (clientID clientIP : String) (cc : ClientConfig) : DataStoreCall → Prop
  | .acquire scope _ _ => scope = "IP:" ++ clientIP ∨ scope = "CLIENT:" ++ clientID ∨ scope = targetScope clientID cc.trigger.target.snsArn
  | .load id key => id = clientID ∧ key = computeKey cc.trigger.fieldExpr
  | .upsertCAS id key _ _ => id = clientID ∧ key = computeKey cc.trigger.fieldExpr

section
variable {π : Type} {json : JsonCodec π} {zstd : Zstd} {search : Search π} {clientID clientIP newVal : String}
  {cc : ClientConfig} {payload : π} {now : Int}

theorem evaluateEdgeAndFlap_onSlot {scopeKey : String} {f : Option FlapConfig} :
    Confined (OnSlot clientID scopeKey) (evaluateEdgeAndFlap json zstd clientID scopeKey newVal f payload now) := by
  have written : ∀ {ver next}, OnSlot clientID scopeKey (.upsertCAS clientID scopeKey ver next) := ⟨rfl,rfl⟩
  refine .call ⟨rfl,rfl⟩ fun loaded => ?_
  match loaded with
  | .error _ => exact .pure
  | .ok (none,_) => exact .call written fun r => by rcases r with _ | _ | _ <;> exact .pure
  | .ok (some edgeInfo,ver) =>
    simp only [evaluateLoaded]
    split
    · exact .pure
    split
    · exact .pure
    split
    · exact .call written fun r => by rcases r with _ | _ | _ <;> exact .pure
    · unfold flapControl
      dsimp only
      split
      · exact .call written fun _ => .pure
      split
      · exact .call written fun r => by rcases r with _ | _ | _ <;> exact .pure
      · exact .call written fun r => by rcases r with _ | _ | _ <;> exact .pure

theorem rateLimit_confined {allowed : DataStoreCall → Prop} {rpm : Int} {scope refusal : String}
    {rest : StoreProg (RunResult π)} (permitted : rpm > 0 → allowed (.acquire scope rpm 60)) (confined : Confined allowed rest) :
    Confined allowed (rateLimit rpm scope refusal payload rest) := by
  unfold rateLimit
  split
  · rename_i positive
    refine .call (permitted positive) fun r => ?_
    match r with
    | .error _ => exact .pure
    | .ok false => exact .pure
    | .ok true => exact confined
  · exact confined

theorem targetLimit_confined {allowed : DataStoreCall → Prop} {out : RunResult π}
    (permitted : cc.trigger.target.snsRPM > 0 →
      allowed (.acquire (targetScope clientID cc.trigger.target.snsArn) cc.trigger.target.snsRPM 60)) :
    Confined allowed (targetLimit cc clientID out) := by
  unfold targetLimit
  split
  · rename_i limited
    exact .call (permitted limited.2) fun r => by rcases r with _ | _ | _ <;> exact .pure
  · exact .pure

theorem run_confined {allowed : DataStoreCall → Prop}
    (ip : cc.ipRPM > 0 → allowed (.acquire ("IP:" ++ clientIP) cc.ipRPM 60))
    (client : cc.clientRPM > 0 → allowed (.acquire ("CLIENT:" ++ clientID) cc.clientRPM 60))
    (target : cc.trigger.target.snsRPM > 0 →
      allowed (.acquire (targetScope clientID cc.trigger.target.snsArn) cc.trigger.target.snsRPM 60))
    (slot : ∀ call, OnSlot clientID (computeKey cc.trigger.fieldExpr) call → allowed call) :
    Confined allowed (run json zstd search clientID clientIP cc payload now) := by
  have evaluated : ∀ newVal, Confined allowed (evaluateTrigger json zstd clientID cc payload now newVal) := by
    intro newVal
    cases newVal with
    | none => exact targetLimit_confined target
    | some v =>
      refine Confined.bind (evaluateEdgeAndFlap_onSlot.mono slot) fun ev => ?_
      split
      · exact .pure
      · exact targetLimit_confined target
  have dispatched : Confined allowed (dispatchTrigger json zstd search clientID cc payload now) := by
    unfold dispatchTrigger
    split
    · exact .pure
    split
    · exact .pure
    split
    · exact .pure
    · exact evaluated _
  exact rateLimit_confined ip (rateLimit_confined client dispatched)

theorem run_calls : Confined (RunCall clientID clientIP cc) (run json zstd search clientID clientIP cc payload now) := by
  refine run_confined (fun _ => .inl rfl) (fun _ => .inr (.inl rfl)) (fun _ => .inr (.inr rfl)) fun call onSlot => ?_
  cases call with
  | acquire => exact onSlot.elim
  | load => exact onSlot
  | upsertCAS => exact onSlot

end

theorem RunCall.rateScope {clientID clientIP scope : String} {cc : ClientConfig} {rate window : Int}
    (called : RunCall clientID clientIP cc (.acquire scope rate window)) : RateScope scope := by
  rcases called with rfl | rfl | rfl
  · exact .ip clientIP
  · exact .client clientID
  · exact .target clientID cc.trigger.target.snsArn

theorem run_acquires_rateScopes {π : Type} {json : JsonCodec π} {zstd : Zstd} {search : Search π}
    {clientID clientIP : String} {cc : ClientConfig} {payload : π} {now : Int} :
    Confined (fun call => ∀ scope rate window, call = .acquire scope rate window → RateScope scope)
      (run json zstd search clientID clientIP cc payload now) :=
  run_calls.mono fun _ called _ _ _ acquired => (acquired ▸ called).rateScope

def DataStoreCall.slot : DataStoreCall → Option (String × String)
  | .acquire .. => none
  | .load clientID scopeKey => some (clientID,scopeKey)
  | .upsertCAS clientID scopeKey _ _ => some (clientID,scopeKey)

theorem RunCall.slot_key {clientID clientIP id key : String} {cc : ClientConfig} {call : DataStoreCall}
    (called : RunCall clientID clientIP cc call) (addressed : call.slot = some (id,key)) :
    id = clientID ∧ key = computeKey cc.trigger.fieldExpr := by
  cases call with
  | acquire => cases addressed
  | load =>
    obtain ⟨rfl,rfl⟩ := Prod.mk.inj (Option.some.inj addressed)
    exact called
  | upsertCAS =>
    obtain ⟨rfl,rfl⟩ := Prod.mk.inj (Option.some.inj addressed)
    exact called

-- Tenants are isolated in Redis: calls of two Runs that reach one data key come
-- from one client and address one slot.
theorem run_data_keys_isolate_clients {clientID clientID' clientIP clientIP' id id' key key' : String}
    {cc cc' : ClientConfig} {call call' : DataStoreCall} (called : RunCall clientID clientIP cc call)
    (called' : RunCall clientID' clientIP' cc' call') (addressed : call.slot = some (id,key))
    (addressed' : call'.slot = some (id',key'))
    (same : RedisBackend.getDataKeyName id key = RedisBackend.getDataKeyName id' key') :
    clientID = clientID' ∧ (id,key) = (id',key') := by
  obtain ⟨rfl,rfl⟩ := called.slot_key addressed
  obtain ⟨rfl,rfl⟩ := called'.slot_key addressed'
  obtain ⟨ids,keys⟩ := RedisBackend.getDataKeyName_inj (computeKey_digitKey _) (computeKey_digitKey _) same
  rw [ids,keys]
  exact ⟨rfl,rfl⟩

def keyedConfig : ClientConfig := ⟨"c1","client one","key12345",0,0,⟨"",false⟩,⟨"state",⟨"arn:target",1⟩,none⟩⟩

theorem run_data_keys_isolate_clients_on_one_slot :
    RunCall "c1" "10.0.0.1" keyedConfig (.load "c1" (computeKey "state")) ∧
      RunCall "c1" "10.0.0.2" keyedConfig (.upsertCAS "c1" (computeKey "state") 0 {}) ∧
      (DataStoreCall.load "c1" (computeKey "state")).slot = some ("c1",computeKey "state") ∧
      (DataStoreCall.upsertCAS "c1" (computeKey "state") 0 {}).slot = some ("c1",computeKey "state") ∧
      RedisBackend.getDataKeyName "c1" (computeKey "state") = RedisBackend.getDataKeyName "c1" (computeKey "state") ∧
    "c1" = "c1" ∧ ("c1",computeKey "state") = ("c1",computeKey "state") := by
  have loaded : RunCall "c1" "10.0.0.1" keyedConfig (.load "c1" (computeKey "state")) := ⟨rfl,rfl⟩
  have written : RunCall "c1" "10.0.0.2" keyedConfig (.upsertCAS "c1" (computeKey "state") 0 {}) := ⟨rfl,rfl⟩
  exact ⟨loaded,written,rfl,rfl,rfl,run_data_keys_isolate_clients loaded written rfl rfl rfl⟩

theorem storage_keys_never_alias :
    (∀ c₁ c₂ s₁ s₂, s₁ ∈ Set.range computeKey → s₂ ∈ Set.range computeKey →
      (RedisBackend.getDataKeyName c₁ s₁ = RedisBackend.getDataKeyName c₂ s₂ → (c₁,s₁) = (c₂,s₂)) ∧
      ((DdbBackend.pkClient c₁,DdbBackend.skEdge s₁) = (DdbBackend.pkClient c₂,DdbBackend.skEdge s₂) → (c₁,s₁) = (c₂,s₂))) ∧
    (∀ k₁ k₂ (m₁ m₂ : Int), RateScope k₁ → RateScope k₂ → 0 ≤ m₁ → 0 ≤ m₂ →
      (RedisBackend.getWindowKeyName k₁ m₁ = RedisBackend.getWindowKeyName k₂ m₂ → (k₁,m₁) = (k₂,m₂)) ∧
      ((DdbBackend.pkRate k₁,DdbBackend.skRateWin m₁) = (DdbBackend.pkRate k₂,DdbBackend.skRateWin m₂) → (k₁,m₁) = (k₂,m₂))) ∧
    (∀ c s id k (m : Int), RedisBackend.getDataKeyName c s ≠ RedisBackend.getClientKey id ∧
      RedisBackend.getDataKeyName c s ≠ RedisBackend.getWindowKeyName k m ∧
      RedisBackend.getClientKey id ≠ RedisBackend.getWindowKeyName k m) ∧
    (∀ id k, DdbBackend.pkClient id ≠ DdbBackend.pkRate k) := by
  refine ⟨?edges,?rates,?families,fun id k => DdbBackend.pkClient_ne_pkRate id k⟩
  case edges =>
    rintro c₁ c₂ s₁ s₂ ⟨field₁,rfl⟩ ⟨field₂,rfl⟩
    constructor
    · intro same
      obtain ⟨ids,keys⟩ := RedisBackend.getDataKeyName_inj (computeKey_digitKey field₁) (computeKey_digitKey field₂) same
      rw [ids,keys]
    · intro same
      simp only [Prod.mk.injEq,DdbBackend.pkClient,DdbBackend.skEdge,String.append_right_inj] at same
      rw [same.1,same.2]
  case rates =>
    intro k₁ k₂ m₁ m₂ _ _ nonneg₁ nonneg₂
    constructor
    · intro same
      obtain ⟨keys,minutes⟩ := RedisBackend.getWindowKeyName_inj nonneg₁ nonneg₂ same
      rw [keys,minutes]
    · intro same
      simp only [Prod.mk.injEq,DdbBackend.pkRate,DdbBackend.skRateWin,String.append_right_inj] at same
      rw [same.1,Strconv.formatInt_inj same.2]
  case families =>
    intro c s id k m
    exact ⟨RedisBackend.dataKey_ne_clientKey c s id,RedisBackend.dataKey_ne_windowKey c s k m,
      RedisBackend.clientKey_ne_windowKey id k m⟩

-- A client ID that spells another's key suffix, and a client-chosen IP.
theorem storage_keys_never_alias_on_crafted_ids :
    computeKey "state" ∈ Set.range computeKey ∧ computeKey "x" ∈ Set.range computeKey ∧
      RateScope ("IP:" ++ "1_2") ∧ RateScope ("IP:" ++ "1") ∧ (0 : Int) ≤ 3 ∧ (0 : Int) ≤ 23 ∧
    (RedisBackend.getDataKeyName "a_se1" (computeKey "state") = RedisBackend.getDataKeyName "a" (computeKey "x") →
      ("a_se1",computeKey "state") = ("a",computeKey "x")) ∧
    (RedisBackend.getWindowKeyName ("IP:" ++ "1_2") 3 = RedisBackend.getWindowKeyName ("IP:" ++ "1") 23 →
      ("IP:" ++ "1_2",(3 : Int)) = ("IP:" ++ "1",23)) := by
  have edges := (storage_keys_never_alias.1 "a_se1" "a" _ _ ⟨"state",rfl⟩ ⟨"x",rfl⟩).1
  have rates := (storage_keys_never_alias.2.1 _ _ 3 23 (.ip "1_2") (.ip "1") (by decide) (by decide)).1
  exact ⟨⟨"state",rfl⟩,⟨"x",rfl⟩,.ip "1_2",.ip "1",by decide,by decide,edges,rates⟩

end Enoti
