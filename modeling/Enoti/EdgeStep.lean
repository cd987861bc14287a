import Enoti.EdgeFlap

namespace Enoti

variable {π : Type}

def aggregateOutcome (json : JsonCodec π) (zstd : Zstd) (f : FlapConfig) (now : Int) (edgeInfo : Edge) :
    Edge × Evaluation π :=
  let decision := aggregateDecision json zstd f now edgeInfo
  (decision.1,⟨decision.2.2,decision.2.1,none⟩)

def flipOutcome (json : JsonCodec π) (zstd : Zstd) (f : Option FlapConfig) (now : Int) (recorded : Edge) :
    Edge × Evaluation π :=
  match f with
  | none => (recorded,.ok .edgeTriggeredForward)
  | some f =>
    let windowed := checkWindow f now recorded
    if windowed.1.flipCount ≤ f.suppressBelow then (windowed.1,.ok .suppressFlapping)
    else if f.aggregateAt > 0 ∧ ¬windowed.2 then aggregateOutcome json zstd f now windowed.1
    else (windowed.1,.ok .edgeTriggeredForward)

@[simp] theorem checkWindow_lastValue (f : FlapConfig) (now : Int) (edgeInfo : Edge) :
    (checkWindow f now edgeInfo).1.lastValue = edgeInfo.lastValue := by
  unfold checkWindow
  split <;> rfl

@[simp] theorem checkWindow_lastChangeTS (f : FlapConfig) (now : Int) (edgeInfo : Edge) :
    (checkWindow f now edgeInfo).1.lastChangeTS = edgeInfo.lastChangeTS := by
  unfold checkWindow
  split <;> rfl

theorem flipOutcome_edge (json : JsonCodec π) (zstd : Zstd) (f : Option FlapConfig) (now : Int) (recorded : Edge) :
    (flipOutcome json zstd f now recorded).1.lastValue = recorded.lastValue ∧
      (flipOutcome json zstd f now recorded).1.lastChangeTS = recorded.lastChangeTS := by
  cases f with
  | none => exact ⟨rfl,rfl⟩
  | some f =>
    simp only [flipOutcome,aggregateOutcome,aggregateDecision]
    split_ifs <;> simp

theorem flipOutcome_answers (json : JsonCodec π) (zstd : Zstd) (f : Option FlapConfig) (now : Int) (recorded : Edge) :
    (flipOutcome json zstd f now recorded).2.action ≠ .noOp := by
  cases f with
  | none => exact (by decide : Action.edgeTriggeredForward ≠ .noOp)
  | some f =>
    simp only [flipOutcome,aggregateOutcome,aggregateDecision]
    split_ifs <;> simp [Evaluation.ok]

section
variable {json : JsonCodec π} {zstd : Zstd} {f : FlapConfig} {now : Int} {e : Edge}

theorem checkWindow_opens (opens : f.windowSeconds > 0 ∧ now - e.windowStart > f.windowSeconds) :
    checkWindow f now e = ({e with
      windowStart:=now
      flipCount:=1
      recent:=if e.recent.length > 0 then e.recent.drop (e.recent.length - 1) else e.recent},true) :=
  if_pos opens

theorem checkWindow_stays (stays : ¬(f.windowSeconds > 0 ∧ now - e.windowStart > f.windowSeconds)) :
    checkWindow f now e = ({e with flipCount:=e.flipCount+1},false) :=
  if_neg stays

theorem recordFlip_recent_pos (e : Edge) (v : String) (t : Int) (enc : String) :
    0 < (recordFlip e v t enc).recent.length := by
  have capped : hardLimitRecentItems = 128 := rfl
  simp only [recordFlip,appendRecent_length]
  omega

theorem checkWindow_recent_pos (f : FlapConfig) (now : Int) {e : Edge} (nonempty : 0 < e.recent.length) :
    0 < (checkWindow f now e).1.recent.length := by
  unfold checkWindow
  split
  · dsimp only
    rw [List.length_drop]
    omega
  · exact nonempty

theorem flipOutcome_suppressed (suppressed : (checkWindow f now e).1.flipCount ≤ f.suppressBelow) :
    (flipOutcome json zstd (some f) now e : Edge × Evaluation π) = ((checkWindow f now e).1,.ok .suppressFlapping) :=
  if_pos suppressed

theorem flipOutcome_aggregating (passed : ¬(checkWindow f now e).1.flipCount ≤ f.suppressBelow)
    (aggregating : f.aggregateAt > 0 ∧ ¬(checkWindow f now e).2 = true) :
    (flipOutcome json zstd (some f) now e : Edge × Evaluation π) = aggregateOutcome json zstd f now (checkWindow f now e).1 := by
  unfold flipOutcome
  dsimp only
  rw [if_neg passed,if_pos aggregating]

theorem flipOutcome_forwarded (passed : ¬(checkWindow f now e).1.flipCount ≤ f.suppressBelow)
    (direct : ¬(f.aggregateAt > 0 ∧ ¬(checkWindow f now e).2 = true)) :
    (flipOutcome json zstd (some f) now e : Edge × Evaluation π) = ((checkWindow f now e).1,.ok .edgeTriggeredForward) := by
  unfold flipOutcome
  dsimp only
  rw [if_neg passed,if_neg direct]

theorem aggregateOutcome_due (due : aggregateDue f now e) :
    (aggregateOutcome json zstd f now e : Edge × Evaluation π) =
      ({e with aggUntilTS:=addInt64 now f.aggregateCooldownSeconds, recent:=[]},
        ⟨.aggregateSent,some (buildAggregate json zstd {e with aggUntilTS:=addInt64 now f.aggregateCooldownSeconds}
          f.aggregateMaxItems),none⟩) := by
  unfold aggregateOutcome aggregateDecision
  rw [if_pos due]

theorem aggregateOutcome_not_due (due : ¬aggregateDue f now e) :
    (aggregateOutcome json zstd f now e : Edge × Evaluation π) = (e,.ok .suppressFlapping) := by
  unfold aggregateOutcome aggregateDecision
  rw [if_neg due]
  rfl

end

def opensWindow : Option FlapConfig → Int → Int → Bool
  | none, _, _ => false
  | some f, now, windowStart => decide (f.windowSeconds > 0 ∧ now - windowStart > f.windowSeconds)

theorem flipOutcome_window (json : JsonCodec π) (zstd : Zstd) (f : Option FlapConfig) (now : Int) (r : Edge) :
    (flipOutcome json zstd f now r).1.windowStart = (if opensWindow f now r.windowStart then now else r.windowStart) ∧
      (flipOutcome json zstd f now r).1.recent =
        (if opensWindow f now r.windowStart then (if r.recent.length > 0 then r.recent.drop (r.recent.length - 1) else r.recent)
        else if (flipOutcome json zstd f now r).2.action = .aggregateSent then [] else r.recent) ∧
      (opensWindow f now r.windowStart = true → (flipOutcome json zstd f now r).2.action ≠ .aggregateSent) := by
  cases f with
  | none => exact ⟨rfl,rfl,fun opens => absurd opens Bool.false_ne_true⟩
  | some f =>
    by_cases opens : f.windowSeconds > 0 ∧ now - r.windowStart > f.windowSeconds
    · have flag : opensWindow (some f) now r.windowStart = true := decide_eq_true opens
      rw [flag,if_pos rfl,if_pos rfl]
      -- a window-opening flip is never aggregated, so both remaining exits keep the windowed edge
      by_cases suppressed : (checkWindow f now r).1.flipCount ≤ f.suppressBelow
      · rw [flipOutcome_suppressed suppressed,checkWindow_opens opens]
        exact ⟨rfl,rfl,fun _ => by simp [Evaluation.ok]⟩
      · have direct : ¬(f.aggregateAt > 0 ∧ ¬(checkWindow f now r).2 = true) := by
          rw [checkWindow_opens opens]
          exact fun aggregating => aggregating.2 rfl
        rw [flipOutcome_forwarded suppressed direct,checkWindow_opens opens]
        exact ⟨rfl,rfl,fun _ => by simp [Evaluation.ok]⟩
    · have flag : opensWindow (some f) now r.windowStart = false := decide_eq_false opens
      rw [flag,if_neg Bool.false_ne_true,if_neg Bool.false_ne_true]
      have closed : ¬false = true := Bool.false_ne_true
      by_cases suppressed : (checkWindow f now r).1.flipCount ≤ f.suppressBelow
      · rw [flipOutcome_suppressed suppressed,checkWindow_stays opens]
        exact ⟨rfl,by simp [Evaluation.ok],fun opened => absurd opened closed⟩
      by_cases aggregating : f.aggregateAt > 0 ∧ ¬(checkWindow f now r).2 = true
      · rw [flipOutcome_aggregating suppressed aggregating]
        by_cases due : aggregateDue f now (checkWindow f now r).1
        · rw [aggregateOutcome_due due,checkWindow_stays opens]
          exact ⟨rfl,rfl,fun opened => absurd opened closed⟩
        · rw [aggregateOutcome_not_due due,checkWindow_stays opens]
          exact ⟨rfl,by simp [Evaluation.ok],fun opened => absurd opened closed⟩
      · rw [flipOutcome_forwarded suppressed aggregating,checkWindow_stays opens]
        exact ⟨rfl,by simp [Evaluation.ok],fun opened => absurd opened closed⟩

theorem flipOutcome_aggregate (json : JsonCodec π) (zstd : Zstd) (f : Option FlapConfig) (now : Int) (r : Edge) :
    (flipOutcome json zstd f now r).2.aggregate.map (·.recent) =
      if (flipOutcome json zstd f now r).2.action = .aggregateSent then
        some (buildAggregate json zstd ({recent:=r.recent} : Edge) ((f.map (·.aggregateMaxItems)).getD 0)).recent
      else none := by
  cases f with
  | none => rfl
  | some f =>
    by_cases suppressed : (checkWindow f now r).1.flipCount ≤ f.suppressBelow
    · rw [flipOutcome_suppressed suppressed]
      rfl
    by_cases aggregating : f.aggregateAt > 0 ∧ ¬(checkWindow f now r).2 = true
    · rw [flipOutcome_aggregating suppressed aggregating]
      by_cases due : aggregateDue f now (checkWindow f now r).1
      · -- aggregating means the window did not open, so the windowed Recent is the recorded one
        have stays : ¬(f.windowSeconds > 0 ∧ now - r.windowStart > f.windowSeconds) := by
          intro opens
          rw [checkWindow_opens opens] at aggregating
          exact aggregating.2 rfl
        rw [aggregateOutcome_due due,checkWindow_stays stays]
        rfl
      · rw [aggregateOutcome_not_due due]
        rfl
    · rw [flipOutcome_forwarded suppressed aggregating]
      rfl

-- After Load: the version the write expects, the edge it writes and the answer
-- if it commits; none when nothing is written.
def plannedWrite (json : JsonCodec π) (zstd : Zstd) (f : Option FlapConfig) (newVal : String) (payload : π)
    (now : Int) : Option Edge × Int → Option (Int × Edge × Evaluation π)
  | (none,_) => some (0,firstEdge newVal now,.ok .edgeTriggeredForward)
  | (some edgeInfo,ver) =>
    if edgeInfo.lastValue = newVal then none else
    match encodePayload json zstd payload with
    | .error _ => none
    | .ok encoded => some (ver,flipOutcome json zstd f now (recordFlip edgeInfo newVal now encoded))

def Publishes (x : Evaluation π) : Prop := x.action = .edgeTriggeredForward ∨ x.action = .aggregateSent

def Settles (k : Except String Bool → StoreProg (Evaluation π)) (result : Evaluation π) : Prop :=
  k (.ok true) = .pure result ∧ ∀ r, r ≠ .ok true → ∃ x, k r = .pure x ∧ ¬Publishes x

theorem ok_quiet {action : Action} (quiet : action ≠ .edgeTriggeredForward ∧ action ≠ .aggregateSent) :
    ¬Publishes (Evaluation.ok action : Evaluation π) := by
  rintro (forward | sent)
  · exact quiet.1 forward
  · exact quiet.2 sent

theorem failed_quiet {action : Action} (err : String) (quiet : action ≠ .edgeTriggeredForward ∧ action ≠ .aggregateSent) :
    ¬Publishes (Evaluation.failed action err : Evaluation π) := by
  rintro (forward | sent)
  · exact quiet.1 forward
  · exact quiet.2 sent

theorem quiet_unless_committed {k : Except String Bool → StoreProg (Evaluation π)} {onError : String → Evaluation π}
    {onFalse : Evaluation π} (errored : ∀ err, k (.error err) = .pure (onError err)) (refused : k (.ok false) = .pure onFalse)
    (errQuiet : ∀ err, ¬Publishes (onError err)) (falseQuiet : ¬Publishes onFalse) :
    ∀ r, r ≠ .ok true → ∃ x, k r = .pure x ∧ ¬Publishes x := by
  intro r uncommitted
  match r with
  | .error err => exact ⟨_,errored err,errQuiet err⟩
  | .ok true => exact absurd rfl uncommitted
  | .ok false => exact ⟨_,refused,falseQuiet⟩

theorem createEdge_settles (clientID scopeKey newVal : String) (now : Int) :
    ∃ k, (createEdge clientID scopeKey newVal now : StoreProg (Evaluation π)) =
      .call (.upsertCAS clientID scopeKey 0 (firstEdge newVal now)) k ∧ Settles k (.ok .edgeTriggeredForward) :=
  ⟨_,rfl,rfl,quiet_unless_committed (fun _ => rfl) rfl (fun err => failed_quiet err (by decide)) (ok_quiet (by decide))⟩

theorem commitForward_settles (clientID scopeKey : String) (ver : Int) (edgeInfo : Edge) :
    ∃ k, (commitForward clientID scopeKey ver edgeInfo : StoreProg (Evaluation π)) =
      .call (.upsertCAS clientID scopeKey ver edgeInfo) k ∧ Settles k (.ok .edgeTriggeredForward) :=
  ⟨_,rfl,rfl,quiet_unless_committed (fun _ => rfl) rfl (fun err => failed_quiet err (by decide)) (ok_quiet (by decide))⟩

theorem commitSuppressed_settles (clientID scopeKey : String) (ver : Int) (edgeInfo : Edge) :
    ∃ k, (commitSuppressed clientID scopeKey ver edgeInfo : StoreProg (Evaluation π)) =
      .call (.upsertCAS clientID scopeKey ver edgeInfo) k ∧ Settles k (.ok .suppressFlapping) :=
  ⟨_,rfl,rfl,fun _ _ => ⟨_,rfl,ok_quiet (by decide)⟩⟩

theorem aggregatePath_settles (json : JsonCodec π) (zstd : Zstd) (clientID scopeKey : String) (ver : Int)
    (f : FlapConfig) (now : Int) (edgeInfo : Edge) :
    ∃ k, aggregatePath json zstd clientID scopeKey ver f now edgeInfo =
      .call (.upsertCAS clientID scopeKey ver (aggregateOutcome json zstd f now edgeInfo).1) k ∧
      Settles k (aggregateOutcome json zstd f now edgeInfo).2 :=
  ⟨_,rfl,rfl,quiet_unless_committed (fun _ => rfl) rfl (fun err => failed_quiet err (by decide)) (ok_quiet (by decide))⟩

theorem flapControl_settles (json : JsonCodec π) (zstd : Zstd) (clientID scopeKey : String) (ver : Int)
    (f : FlapConfig) (now : Int) (recorded next : Edge) (result : Evaluation π)
    (outcome : flipOutcome json zstd (some f) now recorded = (next,result)) :
    ∃ k, flapControl json zstd clientID scopeKey ver f now recorded = .call (.upsertCAS clientID scopeKey ver next) k ∧
      Settles k result := by
  unfold flapControl
  unfold flipOutcome at outcome
  dsimp only at outcome ⊢
  by_cases suppressed : (checkWindow f now recorded).1.flipCount ≤ f.suppressBelow
  · rw [if_pos suppressed] at outcome ⊢
    obtain ⟨rfl,rfl⟩ := Prod.mk.inj outcome
    exact commitSuppressed_settles clientID scopeKey ver _
  · rw [if_neg suppressed] at outcome ⊢
    by_cases aggregating : f.aggregateAt > 0 ∧ ¬(checkWindow f now recorded).2 = true
    · rw [if_pos aggregating] at outcome ⊢
      have written : next = (aggregateOutcome json zstd f now (checkWindow f now recorded).1).1 := by rw [outcome]
      have answered : result = (aggregateOutcome json zstd f now (checkWindow f now recorded).1).2 := by rw [outcome]
      rw [written,answered]
      exact aggregatePath_settles json zstd clientID scopeKey ver f now _
    · rw [if_neg aggregating] at outcome ⊢
      obtain ⟨rfl,rfl⟩ := Prod.mk.inj outcome
      exact commitForward_settles clientID scopeKey ver _

theorem evaluateLoaded_shape (json : JsonCodec π) (zstd : Zstd) (clientID scopeKey newVal : String)
    (f : Option FlapConfig) (payload : π) (now : Int) (loaded : Option Edge × Int) :
    match plannedWrite json zstd f newVal payload now loaded with
    | none => ∃ x, evaluateLoaded json zstd clientID scopeKey newVal f payload now (.ok loaded) = .pure x ∧
        x.action = .noOp ∧ x.aggregate = none
    | some (ver,next,result) => ∃ k,
        evaluateLoaded json zstd clientID scopeKey newVal f payload now (.ok loaded) =
          .call (.upsertCAS clientID scopeKey ver next) k ∧ Settles k result := by
  obtain ⟨stored,ver⟩ := loaded
  cases stored with
  | none => exact createEdge_settles clientID scopeKey newVal now
  | some edgeInfo =>
    by_cases stable : edgeInfo.lastValue = newVal
    · simp only [plannedWrite,evaluateLoaded,stable,if_true]
      exact ⟨_,rfl,rfl,rfl⟩
    · cases encoded : encodePayload json zstd payload with
      | error err => simp only [plannedWrite,evaluateLoaded,stable,if_false,encoded]; exact ⟨_,rfl,rfl,rfl⟩
      | ok enc =>
        simp only [plannedWrite,evaluateLoaded,stable,if_false,encoded]
        cases f with
        | none => exact commitForward_settles clientID scopeKey ver _
        | some f => exact flapControl_settles json zstd clientID scopeKey ver f now _ _ _ rfl

end Enoti
