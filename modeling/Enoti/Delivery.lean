import Enoti.Handler
import Enoti.Runs

namespace Enoti

-- When a notification is published, against a store and a publisher that may
-- fail any call.

open Interaction

variable {π : Type}

def Holds (v : String) (slot : Slot) : Prop := ∃ e ver, slot = some (e,ver) ∧ e.lastValue = v

theorem holds_iff {v : String} {slot : Slot} : Holds v slot ↔ slot.map (·.1.lastValue) = some v := by
  cases slot with
  | none => simp [Holds]
  | some stored =>
    obtain ⟨e,ver⟩ := stored
    simp [Holds]

instance (v : String) (slot : Slot) : Decidable (Holds v slot) := decidable_of_iff _ holds_iff.symm

section
variable {json : JsonCodec π} {zstd : Zstd} {clientID scopeKey newVal : String} {f : Option FlapConfig} {payload : π}
  {now : Int}

theorem plannedWrite_lastValue {loaded : Option Edge × Int} {ver : Int} {next : Edge} {result : Evaluation π}
    (planned : plannedWrite json zstd f newVal payload now loaded = some (ver,next,result)) : next.lastValue = newVal := by
  obtain ⟨stored,v⟩ := loaded
  cases stored with
  | none =>
    cases planned
    rfl
  | some edgeInfo =>
    by_cases stable : edgeInfo.lastValue = newVal
    · simp [plannedWrite,stable] at planned
    · cases encoded : encodePayload json zstd payload with
      | error err => simp [plannedWrite,stable,encoded] at planned
      | ok enc =>
        simp only [plannedWrite,stable,if_false,encoded,Option.some.injEq,Prod.mk.injEq] at planned
        have first : (flipOutcome json zstd f now (recordFlip edgeInfo newVal now enc)).1 = next := by rw [planned.2]
        rw [← first,(flipOutcome_edge ..).1]
        rfl

theorem plannedWrite_holds {slot : Slot} (holds : Holds newVal slot) :
    plannedWrite json zstd f newVal payload now (loadSlot slot) = none := by
  obtain ⟨e,ver,rfl,same⟩ := holds
  exact plannedWrite_stable same

structure EvaluationEffect (clientID scopeKey newVal : String) (s s' : StoreState) (ev : Evaluation π) : Prop where
  grants : s'.grants = s.grants
  committed : Publishes ev → Holds newVal (s'.edges (clientID,scopeKey))
  stable : Holds newVal (s.edges (clientID,scopeKey)) → ev.action = .noOp

theorem EvaluationEffect.unchanged {s : StoreState} {ev : Evaluation π} (noop : ev.action = .noOp) :
    EvaluationEffect clientID scopeKey newVal s s ev where
  grants := rfl
  committed := fun publishes => by rcases publishes with forward | sent <;> simp_all
  stable := fun _ => noop

theorem write_effect {s m s' : StoreState} {ver : Int} {next : Edge} {result ev : Evaluation π}
    {k : Except String Bool → StoreProg (Evaluation π)} (written : next.lastValue = newVal)
    (fresh : ¬Holds newVal (s.edges (clientID,scopeKey))) (settles : Settles k result) {r : Except String Bool}
    (answered : storeAnswers s (.upsertCAS clientID scopeKey ver next) r m) (rest : Runs storeAnswers (k r) m ev s') :
    EvaluationEffect clientID scopeKey newVal s s' ev := by
  by_cases commit : r = .ok true
  · subst commit
    rw [settles.1] at rest
    obtain ⟨rfl,rfl⟩ := runs_pure_inv rest
    rcases storeAnswers_upsertCAS answered with ⟨answer,rfl⟩ | ⟨err,failed,_⟩
    · obtain ⟨v,stored⟩ := upsertSlot_committed (Except.ok.inj answer).symm
      have holds : Holds newVal (Function.update s.edges (clientID,scopeKey)
          (upsertSlot scopeKey ver next (s.edges (clientID,scopeKey))).2 (clientID,scopeKey)) :=
        ⟨{next with scopeKey:=scopeKey},v,by rw [Function.update_self,stored],written⟩
      exact ⟨rfl,fun _ => holds,fun held => absurd held fresh⟩
    · cases failed
  · obtain ⟨x,answer,quiet⟩ := settles.2 r commit
    rw [answer] at rest
    obtain ⟨rfl,rfl⟩ := runs_pure_inv rest
    have kept : s'.grants = s.grants := by
      rcases storeAnswers_upsertCAS answered with ⟨_,rfl⟩ | ⟨_,_,rfl⟩ <;> rfl
    exact ⟨kept,fun publishes => absurd publishes quiet,fun held => absurd held fresh⟩

theorem evaluate_effect {s s' : StoreState} {ev : Evaluation π}
    (path : Runs storeAnswers (evaluateEdgeAndFlap json zstd clientID scopeKey newVal f payload now) s ev s') :
    EvaluationEffect clientID scopeKey newVal s s' ev := by
  obtain ⟨r,m,answered,rest⟩ := runs_call_inv path
  obtain ⟨rfl,loaded⟩ := storeAnswers_load answered
  rcases loaded with rfl | ⟨err,rfl⟩
  · -- Load answered from the slot: the write it plans decides the rest
    have shape := evaluateLoaded_shape json zstd clientID scopeKey newVal f payload now (loadSlot (m.edges (clientID,scopeKey)))
    cases planned : plannedWrite json zstd f newVal payload now (loadSlot (m.edges (clientID,scopeKey))) with
    | none =>
      rw [planned] at shape
      obtain ⟨x,program,noop,_⟩ := shape
      rw [program] at rest
      obtain ⟨rfl,rfl⟩ := runs_pure_inv rest
      exact .unchanged noop
    | some w =>
      obtain ⟨ver,next,result⟩ := w
      rw [planned] at shape
      obtain ⟨k,program,settles⟩ := shape
      rw [program] at rest
      obtain ⟨r',m',answered',rest'⟩ := runs_call_inv rest
      have fresh : ¬Holds newVal (m.edges (clientID,scopeKey)) := fun held => by
        rw [plannedWrite_holds held] at planned
        cases planned
      exact write_effect (plannedWrite_lastValue planned) fresh settles answered' rest'
  · -- a failed Load answers NoOp with the error
    obtain ⟨rfl,rfl⟩ := runs_pure_inv rest
    exact .unchanged rfl

end

def OnEdge (ev : Evaluation π) : Prop := ev.action ≠ .forwardedAsIs

section
variable {json : JsonCodec π} {zstd : Zstd} {clientID scopeKey newVal : String} {ver now : Int}

theorem createEdge_onEdge : Yields OnEdge (createEdge (π := π) clientID scopeKey newVal now) :=
  .call fun r => by rcases r with _ | _ | _ <;> exact .pure (by simp [OnEdge,Evaluation.ok,Evaluation.failed])

theorem commitSuppressed_onEdge {edgeInfo : Edge} : Yields OnEdge (commitSuppressed (π := π) clientID scopeKey ver edgeInfo) :=
  .call fun _ => .pure (by simp [OnEdge,Evaluation.ok])

theorem commitForward_onEdge {edgeInfo : Edge} : Yields OnEdge (commitForward (π := π) clientID scopeKey ver edgeInfo) :=
  .call fun r => by rcases r with _ | _ | _ <;> exact .pure (by simp [OnEdge,Evaluation.ok,Evaluation.failed])

theorem aggregatePath_onEdge {f : FlapConfig} {edgeInfo : Edge} :
    Yields OnEdge (aggregatePath json zstd clientID scopeKey ver f now edgeInfo) := by
  have decided : (aggregateDecision json zstd f now edgeInfo).2.2 ≠ .forwardedAsIs := by
    unfold aggregateDecision
    split <;> simp
  exact .call fun r => by rcases r with _ | _ | _ <;> exact .pure (by simp [OnEdge,Evaluation.ok,Evaluation.failed,decided])

theorem evaluateEdgeAndFlap_onEdge {f : Option FlapConfig} {payload : π} :
    Yields OnEdge (evaluateEdgeAndFlap json zstd clientID scopeKey newVal f payload now) := by
  refine .call fun loaded => ?_
  match loaded with
  | .error _ => exact .pure (by simp [OnEdge,Evaluation.failed])
  | .ok (none,_) => exact createEdge_onEdge
  | .ok (some edgeInfo,ver) =>
    simp only [evaluateLoaded]
    split
    · exact .pure (by simp [OnEdge,Evaluation.ok])
    split
    · exact .pure (by simp [OnEdge,Evaluation.failed])
    split
    · exact commitForward_onEdge
    · -- the three branches of the flapping control
      unfold flapControl
      dsimp only
      split
      · exact commitSuppressed_onEdge
      split
      · exact aggregatePath_onEdge
      · exact commitForward_onEdge

end

theorem scope_ne_of_head {a b : String} (differ : a.toList.head? ≠ b.toList.head?) : a ≠ b :=
  fun same => differ (by rw [same])

theorem ipScope_ne_target (ip clientID arn : String) : "IP:" ++ ip ≠ targetScope clientID arn :=
  scope_ne_of_head (by simp [targetScope])

theorem clientScope_ne_target (id clientID arn : String) : "CLIENT:" ++ id ≠ targetScope clientID arn :=
  scope_ne_of_head (by simp [targetScope])

theorem ipScope_ne_clientScope (ip id : String) : "IP:" ++ ip ≠ "CLIENT:" ++ id :=
  scope_ne_of_head (by simp)

theorem acquire_frame {s s' : StoreState} {scope : String} {rate window : Int} {r : Except String Bool}
    (answered : storeAnswers s (.acquire scope rate window) r s') :
    s'.edges = s.edges ∧ ∀ other, other ≠ scope → s'.grants other = s.grants other := by
  rcases storeAnswers_acquire answered with ⟨_,rfl⟩ | ⟨_,_,rfl⟩
  · exact ⟨rfl,fun other ne => Function.update_of_ne ne _ _⟩
  · exact ⟨rfl,fun _ _ => rfl⟩

theorem acquire_unchanged {s s' : StoreState} {scope : String} {rate window : Int} {r : Except String Bool}
    (answered : storeAnswers s (.acquire scope rate window) r s') (ungranted : r ≠ .ok true) : s' = s := by
  rcases storeAnswers_acquire answered with ⟨rfl,rfl⟩ | ⟨_,_,rfl⟩
  · have refused : (acquireSlot rate (s.grants scope)).1 = false := by simpa using ungranted
    rw [acquireSlot_refused refused,Function.update_eq_self]
  · rfl

theorem acquire_granted {s s' : StoreState} {scope : String} {rate window : Int}
    (answered : storeAnswers s (.acquire scope rate window) (.ok true) s') :
    (s.grants scope : Int) < rate ∧ s'.grants scope = s.grants scope + 1 := by
  rcases storeAnswers_acquire answered with ⟨granted,rfl⟩ | ⟨_,failed,_⟩
  · have below := (acquireSlot_granted _ _).1 (Except.ok.inj granted).symm
    refine ⟨below,?_⟩
    simp only [Function.update_self]
    unfold acquireSlot
    rw [if_neg (by omega),if_pos below]
  · cases failed

def AgreeOff (scope : String) (s s' : StoreState) : Prop := s'.edges = s.edges ∧ ∀ other, other ≠ scope → s'.grants other = s.grants other

theorem AgreeOff.trans {scope scope' : String} {s m s' : StoreState} (first : AgreeOff scope s m) (second : AgreeOff scope' m s')
    (other : String) (away : other ≠ scope) (away' : other ≠ scope') : s'.edges = s.edges ∧ s'.grants other = s.grants other :=
  ⟨second.1.trans first.1,(second.2 other away').trans (first.2 other away)⟩

theorem rateLimit_grants {rpm : Int} {scope refusal : String} {payload : π} {rest : StoreProg (RunResult π)}
    {s s' : StoreState} {out : RunResult π} (path : Runs storeAnswers (rateLimit rpm scope refusal payload rest) s out s') :
    (out.action = .noOp ∧ out.statusCode = statusAccepted ∧ out.err ≠ none ∧ s' = s) ∨
      (rpm ≤ 0 ∧ Runs storeAnswers rest s out s') ∨
      ∃ m, (s.grants scope : Int) < rpm ∧ m.grants scope = s.grants scope + 1 ∧ AgreeOff scope s m ∧
        Runs storeAnswers rest m out s' := by
  unfold rateLimit at path
  split at path
  · obtain ⟨r,m,answered,next⟩ := runs_call_inv path
    match r,answered,next with
    | .error _,answered,next =>
      obtain ⟨rfl,rfl⟩ := runs_pure_inv next
      exact .inl ⟨rfl,rfl,by simp,acquire_unchanged answered (by simp)⟩
    | .ok false,answered,next =>
      obtain ⟨rfl,rfl⟩ := runs_pure_inv next
      exact .inl ⟨rfl,rfl,by simp,acquire_unchanged answered (by simp)⟩
    | .ok true,answered,next =>
      obtain ⟨below,taken⟩ := acquire_granted answered
      exact .inr (.inr ⟨m,below,taken,acquire_frame answered,next⟩)
  · rename_i nonpositive
    exact .inr (.inl ⟨by omega,path⟩)

theorem rateLimit_runs {rpm : Int} {scope refusal : String} {payload : π} {rest : StoreProg (RunResult π)}
    {s s' : StoreState} {out : RunResult π} (path : Runs storeAnswers (rateLimit rpm scope refusal payload rest) s out s') :
    (out.action = .noOp ∧ out.statusCode = statusAccepted ∧ out.err ≠ none ∧ s' = s) ∨
      ∃ m, AgreeOff scope s m ∧ Runs storeAnswers rest m out s' := by
  rcases rateLimit_grants path with stopped | ⟨_,rest⟩ | ⟨m,_,_,agree,rest⟩
  · exact .inl stopped
  · exact .inr ⟨s,⟨rfl,fun _ _ => rfl⟩,rest⟩
  · exact .inr ⟨m,agree,rest⟩

-- Never given back, never past the rate, and one more for each counted result.
structure ScopeStep (scope : String) (rate : Int) (counted : RunResult π → Prop) (s s' : StoreState) (out : RunResult π) :
    Prop where
  monotone : s.grants scope ≤ s'.grants scope
  bounded : (s.grants scope : Int) ≤ rate → (s'.grants scope : Int) ≤ rate
  granted : counted out → 0 < rate → s'.grants scope = s.grants scope + 1

section
variable {scope : String} {rate : Int} {counted : RunResult π → Prop} {s m s' : StoreState} {out : RunResult π}

theorem ScopeStep.untouched (same : s'.grants scope = s.grants scope) (uncounted : ¬counted out) :
    ScopeStep scope rate counted s s' out :=
  ⟨by rw [same],by rw [same]; exact id,fun holds => absurd holds uncounted⟩

theorem ScopeStep.unlimited (nonpositive : rate ≤ 0) (same : s'.grants scope = s.grants scope) :
    ScopeStep scope rate counted s s' out :=
  ⟨by rw [same],by rw [same]; exact id,fun _ positive => absurd positive (by omega)⟩

theorem ScopeStep.acquired (below : (s.grants scope : Int) < rate) (taken : m.grants scope = s.grants scope + 1)
    (same : s'.grants scope = m.grants scope) : ScopeStep scope rate counted s s' out :=
  ⟨by omega,fun _ => by omega,fun _ _ => by omega⟩

theorem ScopeStep.after (same : m.grants scope = s.grants scope) (step : ScopeStep scope rate counted m s' out) :
    ScopeStep scope rate counted s s' out :=
  ⟨same ▸ step.monotone,same ▸ step.bounded,fun holds positive => same ▸ step.granted holds positive⟩

end

section
variable {cc : ClientConfig} {clientID : String}

def Publishing (action : Action) : Prop := action = .edgeTriggeredForward ∨ action = .aggregateSent

instance (action : Action) : Decidable (Publishing action) := inferInstanceAs (Decidable (_ ∨ _))

def Forwards (out : RunResult π) : Prop := out.err = none ∧ Publishing out.action

structure TargetEffect (cc : ClientConfig) (clientID : String) (o out : RunResult π) (s s' : StoreState) : Prop
    extends ScopeStep (targetScope clientID cc.trigger.target.snsArn) cc.trigger.target.snsRPM Forwards s s' out where
  frame : AgreeOff (targetScope clientID cc.trigger.target.snsArn) s s'
  -- a publishing action or a 429 comes from a publishing evaluation
  decided : Publishing out.action ∨ out.statusCode = statusTooManyRequests → Publishing o.action ∨ o.statusCode = statusTooManyRequests
  kept : out.action = o.action ∨ out.action = .noOp

theorem TargetEffect.quiet {o out : RunResult π} {s s' : StoreState} (effect : TargetEffect cc clientID o out s s')
    (noop : o.action = .noOp) : out.action = .noOp := by
  rcases effect.kept with same | refused
  · rw [same,noop]
  · exact refused

theorem TargetEffect.passed {o : RunResult π} {s : StoreState} (skipped : ¬(Publishing o.action ∧ cc.trigger.target.snsRPM > 0)) :
    TargetEffect cc clientID o o s s where
  monotone := le_refl _
  bounded := id
  granted := fun forwards positive => absurd ⟨forwards.2,positive⟩ skipped
  frame := ⟨rfl,fun _ _ => rfl⟩
  decided := id
  kept := .inl rfl

theorem targetLimit_effect {o out : RunResult π} {s s' : StoreState}
    (path : Runs storeAnswers (targetLimit cc clientID o) s out s') : TargetEffect cc clientID o out s s' := by
  unfold targetLimit at path
  split at path
  · rename_i limited
    obtain ⟨r,m,answered,next⟩ := runs_call_inv path
    match r,answered,next with
    | .error _,answered,next =>
      obtain ⟨rfl,rfl⟩ := runs_pure_inv next
      rw [acquire_unchanged answered (by simp)]
      exact ⟨.untouched rfl (by simp [Forwards]),⟨rfl,fun _ _ => rfl⟩,fun _ => .inl limited.1,.inl rfl⟩
    | .ok false,answered,next =>
      obtain ⟨rfl,rfl⟩ := runs_pure_inv next
      rw [acquire_unchanged answered (by simp)]
      exact ⟨.untouched rfl (by simp [Forwards,Publishing]),⟨rfl,fun _ _ => rfl⟩,fun _ => .inl limited.1,.inr rfl⟩
    | .ok true,answered,next =>
      obtain ⟨rfl,rfl⟩ := runs_pure_inv next
      obtain ⟨below,taken⟩ := acquire_granted answered
      exact ⟨.acquired below taken rfl,acquire_frame answered,id,.inl rfl⟩
  · rename_i skipped
    obtain ⟨rfl,rfl⟩ := runs_pure_inv path
    exact .passed skipped

end

section
variable {json : JsonCodec π} {zstd : Zstd} {search : Search π} {clientID clientIP : String} {cc : ClientConfig}
  {payload : π} {now : Int}

def AgreeOnTarget (cc : ClientConfig) (clientID : String) (s s' : StoreState) : Prop :=
  s'.edges = s.edges ∧
    s'.grants (targetScope clientID cc.trigger.target.snsArn) = s.grants (targetScope clientID cc.trigger.target.snsArn)

theorem run_limits {s s' : StoreState} {out : RunResult π}
    (path : Runs storeAnswers (run json zstd search clientID clientIP cc payload now) s out s') :
    (out.action = .noOp ∧ out.statusCode = statusAccepted ∧ out.err ≠ none ∧ AgreeOnTarget cc clientID s s') ∨
      ∃ m, AgreeOnTarget cc clientID s m ∧ Runs storeAnswers (dispatchTrigger json zstd search clientID cc payload now) m out s' := by
  rcases rateLimit_runs path with ⟨noop,status,err,rfl⟩ | ⟨m,ipAgree,rest⟩
  · exact .inl ⟨noop,status,err,rfl,rfl⟩
  have afterIP : AgreeOnTarget cc clientID s m := ⟨ipAgree.1,ipAgree.2 _ (Ne.symm (ipScope_ne_target _ _ _))⟩
  rcases rateLimit_runs rest with ⟨noop,status,err,rfl⟩ | ⟨m',clientAgree,rest'⟩
  · exact .inl ⟨noop,status,err,afterIP⟩
  · exact .inr ⟨m',ipAgree.trans clientAgree _ (Ne.symm (ipScope_ne_target _ _ _)) (Ne.symm (clientScope_ne_target _ _ _)),rest'⟩

section Dispatch

variable (unmatched : checkPassthrough search cc.passthrough payload = false) (watched : cc.trigger.fieldExpr ≠ "")
include unmatched watched

theorem dispatchTrigger_failed {err : String} (failed : evalString search cc.trigger.fieldExpr payload = .error err) :
    dispatchTrigger json zstd search clientID cc payload now =
      .pure ⟨.noOp,statusBadRequest,.request payload,some "trigger field eval error"⟩ := by
  rw [dispatchTrigger,if_neg (by simp [unmatched]),if_neg watched,failed]

theorem dispatchTrigger_evaluated {newVal : Option String} (evaluated : evalString search cc.trigger.fieldExpr payload = .ok newVal) :
    dispatchTrigger json zstd search clientID cc payload now = evaluateTrigger json zstd clientID cc payload now newVal := by
  rw [dispatchTrigger,if_neg (by simp [unmatched]),if_neg watched,evaluated]

end Dispatch

theorem evaluateTrigger_grants {newVal : Option String} {m s' : StoreState} {out : RunResult π}
    (path : Runs storeAnswers (evaluateTrigger json zstd clientID cc payload now newVal) m out s') :
    ScopeStep (targetScope clientID cc.trigger.target.snsArn) cc.trigger.target.snsRPM Forwards m s' out := by
  cases newVal with
  | none => exact (targetLimit_effect path).toScopeStep
  | some v =>
    obtain ⟨ev,m',evaluated,post⟩ := runs_of_bind path
    have effect := evaluate_effect evaluated
    have same := congrFun effect.grants (targetScope clientID cc.trigger.target.snsArn)
    cases failed : ev.err with
    | some err =>
      rw [failed] at post
      obtain ⟨rfl,rfl⟩ := runs_pure_inv post
      exact .untouched same (by simp [Forwards])
    | none =>
      rw [failed] at post
      exact .after same (targetLimit_effect post).toScopeStep

theorem run_grants (unmatched : checkPassthrough search cc.passthrough payload = false) (watched : cc.trigger.fieldExpr ≠ "")
    {s s' : StoreState} {out : RunResult π}
    (path : Runs storeAnswers (run json zstd search clientID clientIP cc payload now) s out s') :
    ScopeStep (targetScope clientID cc.trigger.target.snsArn) cc.trigger.target.snsRPM Forwards s s' out := by
  rcases run_limits path with ⟨_,_,err,agree⟩ | ⟨m,agree,rest⟩
  · exact .untouched agree.2 fun forwards => err forwards.1
  cases evaluated : evalString search cc.trigger.fieldExpr payload with
  | error err =>
    rw [dispatchTrigger_failed unmatched watched evaluated] at rest
    obtain ⟨rfl,rfl⟩ := runs_pure_inv rest
    exact .untouched agree.2 (by simp [Forwards])
  | ok newVal =>
    rw [dispatchTrigger_evaluated unmatched watched evaluated] at rest
    exact .after agree.2 (evaluateTrigger_grants rest)

theorem evaluateTrigger_frame {newVal : Option String} {m s' : StoreState} {out : RunResult π}
    (path : Runs storeAnswers (evaluateTrigger json zstd clientID cc payload now newVal) m out s') (other : String)
    (away : other ≠ targetScope clientID cc.trigger.target.snsArn) : s'.grants other = m.grants other := by
  cases newVal with
  | none => exact (targetLimit_effect path).frame.2 other away
  | some v =>
    obtain ⟨ev,m',evaluated,post⟩ := runs_of_bind path
    have same := congrFun (evaluate_effect evaluated).grants other
    cases failed : ev.err with
    | some err =>
      rw [failed] at post
      obtain ⟨rfl,rfl⟩ := runs_pure_inv post
      exact same
    | none =>
      rw [failed] at post
      exact ((targetLimit_effect post).frame.2 other away).trans same

theorem dispatchTrigger_frame {m s' : StoreState} {out : RunResult π}
    (path : Runs storeAnswers (dispatchTrigger json zstd search clientID cc payload now) m out s') (other : String)
    (away : other ≠ targetScope clientID cc.trigger.target.snsArn) : s'.grants other = m.grants other := by
  unfold dispatchTrigger at path
  split at path
  · obtain ⟨rfl,rfl⟩ := runs_pure_inv path
    rfl
  split at path
  · obtain ⟨rfl,rfl⟩ := runs_pure_inv path
    rfl
  split at path
  · obtain ⟨rfl,rfl⟩ := runs_pure_inv path
    rfl
  · exact evaluateTrigger_frame path other away

theorem run_clientGrants {s s' : StoreState} {out : RunResult π}
    (path : Runs storeAnswers (run json zstd search clientID clientIP cc payload now) s out s') :
    ScopeStep ("CLIENT:" ++ clientID) cc.clientRPM (fun out => out.err = none) s s' out := by
  have dispatched : ∀ {m}, Runs storeAnswers (dispatchTrigger json zstd search clientID cc payload now) m out s' →
      s'.grants ("CLIENT:" ++ clientID) = m.grants ("CLIENT:" ++ clientID) :=
    fun rest => dispatchTrigger_frame rest _ (clientScope_ne_target _ _ _)
  rcases rateLimit_runs path with ⟨_,_,err,rfl⟩ | ⟨m,ipAgree,rest⟩
  · exact .untouched rfl err
  refine .after (ipAgree.2 _ (Ne.symm (ipScope_ne_clientScope _ _))) ?_
  rcases rateLimit_grants rest with ⟨_,_,err,rfl⟩ | ⟨nonpositive,rest'⟩ | ⟨m',below,taken,_,rest'⟩
  · exact .untouched rfl err
  · exact .unlimited nonpositive (dispatched rest')
  · exact .acquired below taken (dispatched rest')

structure RunEdge (cc : ClientConfig) (clientID v : String) (s s' : StoreState) (out : RunResult π) : Prop where
  committed : Publishing out.action ∨ out.statusCode = statusTooManyRequests →
    Holds v (s'.edges (clientID,computeKey cc.trigger.fieldExpr))
  stable : Holds v (s.edges (clientID,computeKey cc.trigger.fieldExpr)) → out.action = .noOp

theorem RunEdge.stopped {v : String} {s s' : StoreState} {out : RunResult π} (noop : out.action = .noOp)
    (status : out.statusCode ≠ statusTooManyRequests) : RunEdge cc clientID v s s' out :=
  ⟨fun decided => by rcases decided with publishing | limited <;> simp_all [Publishing],fun _ => noop⟩

theorem run_edge {v : String} (unmatched : checkPassthrough search cc.passthrough payload = false)
    (watched : cc.trigger.fieldExpr ≠ "") (triggered : evalString search cc.trigger.fieldExpr payload = .ok (some v))
    {s s' : StoreState} {out : RunResult π}
    (path : Runs storeAnswers (run json zstd search clientID clientIP cc payload now) s out s') :
    RunEdge cc clientID v s s' out := by
  rcases run_limits path with ⟨noop,status,_,_⟩ | ⟨m,agree,rest⟩
  · exact .stopped noop (by rw [status]; decide)
  rw [dispatchTrigger_evaluated unmatched watched triggered] at rest
  obtain ⟨ev,m',evaluated,post⟩ := runs_of_bind rest
  have effect := evaluate_effect evaluated
  have stable : Holds v (s.edges (clientID,computeKey cc.trigger.fieldExpr)) → ev.action = .noOp := fun held =>
    effect.stable (by rw [agree.1]; exact held)
  cases failed : ev.err with
  | some err =>
    rw [failed] at post
    obtain ⟨rfl,rfl⟩ := runs_pure_inv post
    refine ⟨fun decided => effect.committed ?_,stable⟩
    rcases decided with publishing | limited
    · exact publishing
    · cases limited
  | none =>
    rw [failed] at post
    have target := targetLimit_effect post
    refine ⟨fun decided => ?_,fun held => target.quiet (stable held)⟩
    rw [target.frame.1]
    rcases target.decided decided with publishing | limited
    · exact effect.committed publishing
    · cases limited

theorem run_onEdge (unmatched : checkPassthrough search cc.passthrough payload = false) (watched : cc.trigger.fieldExpr ≠ "")
    {s s' : StoreState} {out : RunResult π}
    (path : Runs storeAnswers (run json zstd search clientID clientIP cc payload now) s out s') :
    out.action ≠ .forwardedAsIs := by
  rcases run_limits path with ⟨noop,_⟩ | ⟨m,_,rest⟩
  · simp [noop]
  cases evaluated : evalString search cc.trigger.fieldExpr payload with
  | error err =>
    rw [dispatchTrigger_failed unmatched watched evaluated] at rest
    obtain ⟨rfl,rfl⟩ := runs_pure_inv rest
    simp
  | ok newVal =>
    rw [dispatchTrigger_evaluated unmatched watched evaluated] at rest
    cases newVal with
    | none => simp [(targetLimit_effect rest).quiet rfl]
    | some v =>
      obtain ⟨ev,m',evaluated,post⟩ := runs_of_bind rest
      have onEdge : OnEdge ev := runs_yields evaluateEdgeAndFlap_onEdge evaluated
      cases failed : ev.err with
      | some err =>
        rw [failed] at post
        obtain ⟨rfl,rfl⟩ := runs_pure_inv post
        exact onEdge
      | none =>
        rw [failed] at post
        rcases (targetLimit_effect post).kept with same | refused
        · rw [same]
          exact onEdge
        · simp [refused]

end

end Enoti
