import Enoti.DataStore
import Enoti.Payload

namespace Enoti

-- flow/edge_flap.go: BuildAggregate and EvaluateEdgeAndFlap.

variable {π : Type}

structure AggregateItem (π : Type) where
  «at» : Int
  «from» : String
  «to» : String
  payload : Option π

structure FlapAggregate (π : Type) where
  «type» : String
  scope : String
  lastValue : String
  windowStart : Int
  flipCount : Int
  recent : List (AggregateItem π)

def aggregateItem (json : JsonCodec π) (zstd : Zstd) (it : Flip) : AggregateItem π :=
  ⟨it.at,it.from,it.to,
    if it.payload ≠ "" then (decodePayload zstd it.payload).bind fun b => (json.unmarshal b).toOption else none⟩

-- The indices visited by for i := i; i > stop; i--.
def countDown (i stop : Int) : List Int :=
  if i > stop then i :: countDown (i - 1) stop else []
termination_by (i - stop).toNat

instance : Inhabited Flip := ⟨⟨0,"","",""⟩⟩

-- Go panics on an index outside Recent; loop_in_bounds shows none is visited.
def buildAggregate (json : JsonCodec π) (zstd : Zstd) (edgeInfo : Edge) (k : Int) : FlapAggregate π :=
  let num : Int := edgeInfo.recent.length
  let items :=
    if k > 0 ∧ num > 0 then
      let k := if k > num then num else k
      (countDown (num - 1) (num - k - 1)).map fun i => aggregateItem json zstd edgeInfo.recent[i.toNat]!
    else []
  ⟨"flap_aggregate",edgeInfo.scopeKey,edgeInfo.lastValue,edgeInfo.windowStart,edgeInfo.flipCount,items⟩

structure Evaluation (π : Type) where
  action : Action
  aggregate : Option (FlapAggregate π)
  err : Option String

def Evaluation.ok (action : Action) : Evaluation π := ⟨action,none,none⟩
def Evaluation.failed (action : Action) (err : String) : Evaluation π := ⟨action,none,some err⟩

def firstEdge (newVal : String) (now : Int) : Edge :=
  {lastValue:=newVal,lastChangeTS:=now,windowStart:=now,flipCount:=0}

def createEdge (clientID scopeKey newVal : String) (now : Int) : StoreProg (Evaluation π) :=
  .call (.upsertCAS clientID scopeKey 0 (firstEdge newVal now)) fun
    | .error err => .pure (.failed .noOp err)
    | .ok true => .pure (.ok .edgeTriggeredForward)
    | .ok false => .pure (.ok .suppressFlapping)

def recordFlip (edgeInfo : Edge) (newVal : String) (now : Int) (encoded : String) : Edge :=
  {edgeInfo with
    recent:=appendRecent edgeInfo.recent ⟨now,edgeInfo.lastValue,newVal,encoded⟩ hardLimitRecentItems
    lastValue:=newVal
    lastChangeTS:=now}

-- A flip more than WindowSeconds after the window start opens a new window.
def checkWindow (f : FlapConfig) (now : Int) (edgeInfo : Edge) : Edge × Bool :=
  if f.windowSeconds > 0 ∧ now - edgeInfo.windowStart > f.windowSeconds then
    ({edgeInfo with
      windowStart:=now
      flipCount:=1
      recent:=if edgeInfo.recent.length > 0 then edgeInfo.recent.drop (edgeInfo.recent.length - 1) else edgeInfo.recent},true)
  else ({edgeInfo with flipCount:=edgeInfo.flipCount+1},false)

def commitSuppressed (clientID scopeKey : String) (ver : Int) (edgeInfo : Edge) : StoreProg (Evaluation π) :=
  .call (.upsertCAS clientID scopeKey ver edgeInfo) fun _ => .pure (.ok .suppressFlapping)

def aggregateDue (f : FlapConfig) (now : Int) (edgeInfo : Edge) : Prop :=
  edgeInfo.flipCount.tmod f.aggregateAt = 0 ∧ now ≥ edgeInfo.aggUntilTS ∧ (edgeInfo.recent.length : Int) ≥ f.aggregateAt

instance (f : FlapConfig) (now : Int) (edgeInfo : Edge) : Decidable (aggregateDue f now edgeInfo) :=
  inferInstanceAs (Decidable (_ ∧ _ ∧ _))

-- The aggregate is built from the edge after AggUntilTS moves, and only then is
-- Recent emptied.
def aggregateDecision (json : JsonCodec π) (zstd : Zstd) (f : FlapConfig) (now : Int) (edgeInfo : Edge) :
    Edge × Option (FlapAggregate π) × Action :=
  if aggregateDue f now edgeInfo then
    let sent := {edgeInfo with aggUntilTS:=addInt64 now f.aggregateCooldownSeconds}
    ({sent with recent:=[]},some (buildAggregate json zstd sent f.aggregateMaxItems),.aggregateSent)
  else (edgeInfo,none,.suppressFlapping)

def aggregatePath (json : JsonCodec π) (zstd : Zstd) (clientID scopeKey : String) (ver : Int) (f : FlapConfig)
    (now : Int) (edgeInfo : Edge) : StoreProg (Evaluation π) :=
  let decision := aggregateDecision json zstd f now edgeInfo
  .call (.upsertCAS clientID scopeKey ver decision.1) fun
    | .error err => .pure (.failed .suppressFlapping err)
    | .ok true => .pure ⟨decision.2.2,decision.2.1,none⟩
    | .ok false => .pure (.ok .noOp)

def commitForward (clientID scopeKey : String) (ver : Int) (edgeInfo : Edge) : StoreProg (Evaluation π) :=
  .call (.upsertCAS clientID scopeKey ver edgeInfo) fun
    | .error err => .pure (.failed .noOp err)
    | .ok true => .pure (.ok .edgeTriggeredForward)
    | .ok false => .pure (.ok .noOp)

def flapControl (json : JsonCodec π) (zstd : Zstd) (clientID scopeKey : String) (ver : Int) (f : FlapConfig)
    (now : Int) (edgeInfo : Edge) : StoreProg (Evaluation π) :=
  let windowed := checkWindow f now edgeInfo
  if windowed.1.flipCount ≤ f.suppressBelow then commitSuppressed clientID scopeKey ver windowed.1
  else if f.aggregateAt > 0 ∧ ¬windowed.2 then aggregatePath json zstd clientID scopeKey ver f now windowed.1
  else commitForward clientID scopeKey ver windowed.1

def evaluateLoaded (json : JsonCodec π) (zstd : Zstd) (clientID scopeKey newVal : String) (f : Option FlapConfig)
    (payload : π) (now : Int) : Except String (Option Edge × Int) → StoreProg (Evaluation π)
  | .error err => .pure (.failed .noOp err)
  | .ok (none,_) => createEdge clientID scopeKey newVal now
  | .ok (some edgeInfo,ver) =>
    if edgeInfo.lastValue = newVal then .pure (.ok .noOp) else
    match encodePayload json zstd payload with
    | .error err => .pure (.failed .noOp err)
    | .ok encoded =>
      match f with
      | none => commitForward clientID scopeKey ver (recordFlip edgeInfo newVal now encoded)
      | some f => flapControl json zstd clientID scopeKey ver f now (recordFlip edgeInfo newVal now encoded)

def evaluateEdgeAndFlap (json : JsonCodec π) (zstd : Zstd) (clientID scopeKey newVal : String) (f : Option FlapConfig)
    (payload : π) (now : Int) : StoreProg (Evaluation π) :=
  .call (.load clientID scopeKey) (evaluateLoaded json zstd clientID scopeKey newVal f payload now)

end Enoti
