import Enoti.ClientRegistry
import Enoti.Simulation

namespace Enoti

namespace DdbBackend

open Dynamo
open Interaction (Runs runs_pure_inv OrFails)

-- The create path marshals these attributes and the update path sets them.
def edgeAttributes (e : Edge) : List (String × AttributeValue) :=
  [("scope_key",.s e.scopeKey),("last_value",.s e.lastValue),("last_change_ts",.n e.lastChangeTS),
    ("window_start",.n e.windowStart),("flip_count",.n e.flipCount),("recent",recentValue e.recent),
    ("agg_until_ts",.n e.aggUntilTS),("ver",.n e.version)]

def Encodes (item : Item) (e : Edge) : Prop := ∀ p ∈ edgeAttributes e, item.lookup p.1 = some p.2

@[simp] theorem except_ok_bind {ε α β : Type} (a : α) (f : α → Except ε β) : (Except.ok a >>= f) = f a := rfl

theorem readFlip_flipValue (f : Flip) : readFlip (flipValue f) = .ok f := by
  simp [readFlip,flipValue,readNumber,readString,List.lookup_cons]

theorem readRecent_recentValue (rs : List Flip) : readRecent (some (recentValue rs)) = .ok rs := by
  cases rs with
  | nil => rfl
  | cons f rest =>
    have mapped : ∀ rs : List Flip, (rs.map flipValue).mapM readFlip = .ok rs := by
      intro rs
      induction rs with
      | nil => rfl
      | cons f rest ih => simp [readFlip_flipValue,ih]
    exact mapped (f :: rest)

theorem unmarshalEdge_of_encodes {item : Item} {e : Edge} (encoded : Encodes item e) : unmarshalEdge item = .ok e := by
  simp only [Encodes,edgeAttributes,List.forall_mem_cons] at encoded
  obtain ⟨sk,lv,lcts,ws,fc,rc,aut,ver,-⟩ := encoded
  simp [unmarshalEdge,sk,lv,lcts,ws,fc,rc,aut,ver,readString,readNumber,readRecent_recentValue]

theorem createdItem_encodes (clientID scopeKey : String) (e : Edge) : Encodes (createdItem clientID scopeKey e) e := by
  simp [Encodes,edgeAttributes,createdItem,itemOf,AList.lookup_insert,AList.lookup_insert_ne,-AList.insert_empty]

theorem createdItem_pk (clientID scopeKey : String) (e : Edge) :
    (createdItem clientID scopeKey e).lookup "PK" = some (.s (pkClient clientID)) := by
  simp [createdItem,itemOf,AList.lookup_insert,AList.lookup_insert_ne,-AList.insert_empty]

theorem updated_encodes {item item' : Item} {e next : Edge} {newVer : Int} (encoded : Encodes item e)
    (applied : applyAll item (updatedFields next newVer) = .ok item') :
    Encodes item' {next with scopeKey:=e.scopeKey,version:=newVer} ∧ item'.lookup "PK" = item.lookup "PK" := by
  simp only [applyAll,updatedFields,Update.apply,Except.ok.injEq] at applied
  subst applied
  have kept := encoded ("scope_key",.s e.scopeKey) (by simp [edgeAttributes])
  constructor
  · simp [Encodes,edgeAttributes,AList.lookup_insert,AList.lookup_insert_ne,kept]
  · simp [AList.lookup_insert_ne]

def HoldsSlot (scopeKey : String) : Option Item → Slot → Prop
  | none,none => True
  | some item,some (e,v) => (item.lookup "PK").isSome ∧ e.scopeKey = scopeKey ∧ Encodes item {e with version:=v}
  | _,_ => False

structure KeyStep {β : Type} (key : Key) (R : Option Item → β → Prop) (t : Table) (answer : Except String Bool × Table)
    (r : Bool × β) : Prop where
  answered : answer.1 = .ok r.1
  related : R (answer.2.lookup key) r.2
  frame : ∀ other, other ≠ key → answer.2.lookup other = t.lookup other

theorem KeyStep.unchanged {β : Type} {key : Key} {R : Option Item → β → Prop} {t : Table} {ok : Bool} {b : β}
    (related : R (t.lookup key) b) : KeyStep key R t (.ok ok,t) (ok,b) :=
  ⟨rfl,related,fun _ _ => rfl⟩

theorem KeyStep.written {β : Type} {key : Key} {R : Option Item → β → Prop} {t : Table} {ok : Bool} {b : β} {item : Item}
    (related : R (some item) b) : KeyStep key R t (.ok ok,t.insert key item) (ok,b) :=
  ⟨rfl,by rw [AList.lookup_insert]; exact related,fun _ away => AList.lookup_insert_ne away⟩

section
variable {t : Table} {clientID scopeKey : String} {next : Edge}

theorem upsertCAS_create {slot : Slot} (held : HoldsSlot scopeKey (t.lookup (edgeKey clientID scopeKey)) slot) :
    KeyStep (edgeKey clientID scopeKey) (HoldsSlot scopeKey) t ((upsertCAS clientID scopeKey 0 next).run exec t)
      (upsertSlot scopeKey 0 next slot) := by
  simp only [upsertCAS,if_true,Interaction.run_call,Interaction.run_pure]
  rw [exec_putItem (createdItem_key ..)]
  cases entry : t.lookup (edgeKey clientID scopeKey) with
  | none =>
    rw [entry] at held
    cases slot with
    | none =>
      simp only [admits,Condition.holds,Option.getD_none,AList.lookup_empty,Option.isNone_none,Bool.and_self,if_true,
        conditional,upsertSlot]
      apply KeyStep.written
      exact ⟨by simp [createdItem_pk],rfl,createdItem_encodes _ _ _⟩
    | some stored => cases held
  | some item =>
    rw [entry] at held
    cases slot with
    | none => cases held
    | some stored =>
      obtain ⟨e,v⟩ := stored
      have refused : admits (some (.and (.attributeNotExists "PK") (.attributeNotExists "SK"))) item = false := by
        simp [admits,Condition.holds,Option.isSome_iff_ne_none.1 held.1]
      simp only [Option.getD_some,refused,Bool.false_eq_true,if_false,conditional,upsertSlot]
      exact .unchanged (by rw [entry]; exact held)
theorem upsertCAS_update {slot : Slot} {prev : Int} (nonzero : prev ≠ 0)
    (held : HoldsSlot scopeKey (t.lookup (edgeKey clientID scopeKey)) slot) :
    KeyStep (edgeKey clientID scopeKey) (HoldsSlot scopeKey) t ((upsertCAS clientID scopeKey prev next).run exec t)
      (upsertSlot scopeKey prev next slot) := by
  simp only [upsertCAS,if_neg nonzero,Interaction.run_call,Interaction.run_pure]
  rw [exec_updateItem]
  cases entry : t.lookup (edgeKey clientID scopeKey) with
  | none =>
    rw [entry] at held
    cases slot with
    | none =>
      -- the version condition on a missing item fails
      simp only [admits,Condition.holds,Option.getD_none,AList.lookup_empty,Bool.false_eq_true,if_false,conditional,
        upsertSlot,if_neg nonzero]
      exact .unchanged (by rw [entry]; exact held)
    | some stored => cases held
  | some item =>
    rw [entry] at held
    cases slot with
    | none => cases held
    | some stored =>
      obtain ⟨e,v⟩ := stored
      have version : item.lookup "ver" = some (.n v) := held.2.2 ("ver",.n v) (by simp [edgeAttributes])
      by_cases same : v = prev
      · subst same
        cases applied : applyAll item (updatedFields {next with scopeKey:=scopeKey} (v + 1)) with
        | error err =>
          simp [applyAll,updatedFields,Update.apply] at applied
        | ok item' =>
          obtain ⟨encoded,keyed⟩ := updated_encodes held.2.2 applied
          simp only [admits,Condition.holds,Option.getD_some,version,decide_true,if_true,applied,conditional,upsertSlot,
            ne_eq,nonzero,not_false_eq_true,and_self]
          apply KeyStep.written
          refine ⟨by rw [keyed]; exact held.1,rfl,?_⟩
          have scopeOf : e.scopeKey = scopeKey := held.2.1
          rw [scopeOf] at encoded
          exact encoded
      · simp only [admits,Condition.holds,Option.getD_some,version,same,decide_false,Bool.false_eq_true,if_false,
          conditional,upsertSlot,ne_eq,nonzero,not_false_eq_true,true_and]
        exact .unchanged (by rw [entry]; exact held)

-- Load as UnmarshalMap reads it: the edge carries the version in its Version field.
def versioned : Option Edge × Int → Option Edge × Int
  | (some e,v) => (some {e with version:=v},v)
  | (none,v) => (none,v)

theorem load_refines {slot : Slot} (held : HoldsSlot scopeKey (t.lookup (edgeKey clientID scopeKey)) slot) :
    (load clientID scopeKey).run exec t = (.ok (versioned (loadSlot slot)),t) := by
  cases entry : t.lookup (edgeKey clientID scopeKey) with
  | none =>
    rw [entry] at held
    cases slot with
    | none => simp [load,entry,loadSlot,versioned]
    | some _ => cases held
  | some item =>
    rw [entry] at held
    cases slot with
    | none => cases held
    | some stored =>
      obtain ⟨e,v⟩ := stored
      simp [load,entry,unmarshalEdge_of_encodes held.2.2,loadSlot,versioned]

end

def rateKey (now : Int) (scope : String) : Key := ⟨pkRate scope,skRateWin (now.tdiv 60)⟩

def Counts (entry : Option Item) (granted : Nat) : Prop :=
  entry.bind (·.lookup "count") = if granted = 0 then none else some (.n granted)

theorem applyAll_grant {base : Item} {granted : Nat} (ttl : AttributeValue)
    (count : base.lookup "count" = if granted = 0 then none else some (.n granted)) :
    ∃ item, applyAll base [.setIfNotExists "ttl" ttl,.add "count" 1] = .ok item ∧
      item.lookup "count" = some (.n (granted + 1 : Nat)) := by
  have kept : (if (base.lookup "ttl").isSome then base else base.insert "ttl" ttl).lookup "count" = base.lookup "count" := by
    split
    · rfl
    · exact AList.lookup_insert_ne (by decide)
  by_cases first : granted = 0
  · rw [if_pos first] at count
    subst first
    simp [applyAll,Update.apply,kept,count]
  · rw [if_neg first] at count
    simp [applyAll,Update.apply,kept,count]

theorem acquire_refines {t : Table} {now : Int} {scope : String} {rate window : Int} {granted : Nat}
    (counted : Counts (t.lookup (rateKey now scope)) granted) :
    KeyStep (rateKey now scope) Counts t ((acquire now scope rate window).run exec t) (acquireSlot rate granted) := by
  unfold acquire
  split
  · rename_i nonpositive
    simp only [Interaction.run_pure,acquireSlot,if_pos nonpositive]
    exact .unchanged counted
  rename_i positive
  simp only [Interaction.run_call,Interaction.run_pure]
  rw [exec_updateItem,show (⟨pkRate scope,skRateWin (now.tdiv 60)⟩ : Key) = rateKey now scope from rfl]
  -- the condition and the update read the same count
  have condition : ((t.lookup (rateKey now scope)).getD ∅).lookup "count" = if granted = 0 then none else some (.n granted) := by
    cases entry : t.lookup (rateKey now scope) <;> simp_all [Counts]
  have base : ((t.lookup (rateKey now scope)).getD (rateKey now scope).item).lookup "count" =
      if granted = 0 then none else some (.n granted) := by
    cases entry : t.lookup (rateKey now scope) <;> simp_all [Counts,Key.item,AList.lookup_insert_ne,-AList.insert_empty]
  by_cases below : (granted : Int) < rate
  · have admitted : admits (some (.or (.attributeNotExists "count") (.numberLess "count" rate)))
        ((t.lookup (rateKey now scope)).getD ∅) = true := by
      by_cases first : granted = 0 <;> simp [admits,Condition.holds,condition,first,below]
    obtain ⟨item,applied,added⟩ := applyAll_grant (.n (now + window + 120)) base
    have counted : (acquireSlot rate granted) = (true,granted + 1) := by
      rw [acquireSlot,if_neg (by omega),if_pos below]
    simp only [admitted,if_true,applied,conditional,counted]
    apply KeyStep.written
    simp [Counts,added]
  · have first : granted ≠ 0 := fun zero => below (by rw [zero]; omega)
    have refused : admits (some (.or (.attributeNotExists "count") (.numberLess "count" rate)))
        ((t.lookup (rateKey now scope)).getD ∅) = false := by
      simp [admits,Condition.holds,condition,first,below]
    have unchanged : (acquireSlot rate granted) = (false,granted) := by
      rw [acquireSlot,if_neg (by omega),if_neg below]
    simp only [refused,Bool.false_eq_true,if_false,conditional,unchanged]
    exact .unchanged counted

theorem edgeKey_inj {clientID clientID' scopeKey scopeKey' : String}
    (same : edgeKey clientID scopeKey = edgeKey clientID' scopeKey') : clientID = clientID' ∧ scopeKey = scopeKey' := by
  simpa [edgeKey,pkClient,skEdge] using same

theorem rateKey_inj {now : Int} {scope scope' : String} (same : rateKey now scope = rateKey now scope') : scope = scope' := by
  simpa [rateKey,pkRate] using same

theorem rateKey_ne_edgeKey (now : Int) (scope clientID scopeKey : String) : rateKey now scope ≠ edgeKey clientID scopeKey := by
  intro same
  have first := congrArg (fun key : Key => key.pk.toList.head?) same
  simp [rateKey,edgeKey,pkRate,pkClient] at first

structure Represents (now : Int) (t : Table) (s : StoreState) : Prop where
  edges : ∀ clientID scopeKey, HoldsSlot scopeKey (t.lookup (edgeKey clientID scopeKey)) (s.edges (clientID,scopeKey))
  grants : ∀ scope, Counts (t.lookup (rateKey now scope)) (s.grants scope)

theorem represents_empty (now : Int) : Represents now ∅ ⟨fun _ => none,fun _ => 0⟩ :=
  ⟨fun _ _ => trivial,fun _ => rfl⟩

def readBack : (call : DataStoreCall) → call.Resp → call.Resp
  | .load .., r => r.map versioned
  | .acquire .., r => r
  | .upsertCAS .., r => r

theorem serveData_refines {now : Int} {t : Table} {s : StoreState} (represents : Represents now t s) (call : DataStoreCall) :
    ((serveData now call).run exec t).1 = readBack call (storeAnswer s call).1 ∧
      Represents now ((serveData now call).run exec t).2 (storeAnswer s call).2 := by
  cases call with
  | load clientID scopeKey =>
    rw [show serveData now (.load clientID scopeKey) = load clientID scopeKey from rfl,load_refines (represents.edges _ _)]
    exact ⟨rfl,represents⟩
  | upsertCAS clientID scopeKey prev next =>
    have step : KeyStep (edgeKey clientID scopeKey) (HoldsSlot scopeKey) t ((serveData now (.upsertCAS clientID scopeKey prev next)).run exec t)
        (upsertSlot scopeKey prev next (s.edges (clientID,scopeKey))) := by
      by_cases zero : prev = 0
      · subst zero
        exact upsertCAS_create (represents.edges _ _)
      · exact upsertCAS_update zero (represents.edges _ _)
    refine ⟨step.answered,⟨fun c k => ?_,fun scope => ?_⟩⟩
    · by_cases same : (c,k) = (clientID,scopeKey)
      · obtain ⟨rfl,rfl⟩ := Prod.mk.inj same
        simpa using step.related
      · have away : edgeKey c k ≠ edgeKey clientID scopeKey := fun keys => same (Prod.ext_iff.2 (edgeKey_inj keys))
        rw [step.frame _ away]
        simpa [Function.update_of_ne same] using represents.edges c k
    · rw [step.frame _ (rateKey_ne_edgeKey now scope _ _)]
      exact represents.grants scope
  | acquire scope rate window =>
    have step : KeyStep (rateKey now scope) Counts t ((serveData now (.acquire scope rate window)).run exec t)
        (acquireSlot rate (s.grants scope)) := acquire_refines (represents.grants scope)
    refine ⟨step.answered,⟨fun c k => ?_,fun other => ?_⟩⟩
    · rw [step.frame _ (Ne.symm (rateKey_ne_edgeKey now scope c k))]
      exact represents.edges c k
    · by_cases same : other = scope
      · subst same
        simpa using step.related
      · rw [step.frame _ fun keys => same (rateKey_inj keys)]
        simpa [Function.update_of_ne same] using represents.grants other

def versionedAnswer (s : StoreState) (call : DataStoreCall) : call.Resp × StoreState :=
  (readBack call (storeAnswer s call).1,(storeAnswer s call).2)

theorem serveData_faults {now : Int} {t t' : Table} {call : DataStoreCall} {r : call.Resp}
    (path : Runs Answers (serveData now call) t r t') :
    (serveData now call).run exec t = (r,t') ∨ ∃ msg, r = call.failed msg ∧ t' = t := by
  cases call with
  | acquire scope rate window =>
    by_cases nonpositive : rate ≤ 0
    · simp only [serveData,acquire,if_pos nonpositive] at path ⊢
      obtain ⟨rfl,rfl⟩ := runs_pure_inv path
      exact .inl rfl
    · simp only [serveData,acquire,if_neg nonpositive] at path ⊢
      rcases Answers.runs_call (fun _ => ⟨_,rfl⟩) path with ran | ⟨msg,failed,rfl⟩
      · exact .inl ran
      · exact .inr ⟨msg,(Interaction.pure.inj failed).symm,rfl⟩
  | load clientID scopeKey =>
    simp only [serveData,load] at path ⊢
    rcases Answers.runs_call (fun r => by rcases r with _ | _ | _ <;> exact ⟨_,rfl⟩) path with ran | ⟨msg,failed,rfl⟩
    · exact .inl ran
    · exact .inr ⟨msg,(Interaction.pure.inj failed).symm,rfl⟩
  | upsertCAS clientID scopeKey prev next =>
    by_cases zero : prev = 0
    · simp only [serveData,upsertCAS,if_pos zero] at path ⊢
      rcases Answers.runs_call (fun _ => ⟨_,rfl⟩) path with ran | ⟨msg,failed,rfl⟩
      · exact .inl ran
      · exact .inr ⟨msg,(Interaction.pure.inj failed).symm,rfl⟩
    · simp only [serveData,upsertCAS,if_neg zero] at path ⊢
      rcases Answers.runs_call (fun _ => ⟨_,rfl⟩) path with ran | ⟨msg,failed,rfl⟩
      · exact .inl ran
      · exact .inr ⟨msg,(Interaction.pure.inj failed).symm,rfl⟩

end DdbBackend

end Enoti
