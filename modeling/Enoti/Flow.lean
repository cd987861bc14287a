import Enoti.EdgeFlap
import Enoti.Strconv

namespace Enoti

-- flow/flow.go, jmes.go and passthrough.go; jmespath.Search is a parameter.

variable {π : Type}

-- Another JSON value comes with the text json.Marshal gives it, empty if it fails.
inductive SearchValue where
  | null
  | boolean (b : Bool)
  | string (s : String)
  | other (marshaled : String)

abbrev Search (π : Type) := String → π → Except String SearchValue

def evalAny (search : Search π) (expression : String) (payload : π) : Except String SearchValue :=
  match search expression payload with
  | .error err => .error ("jmespath: " ++ err)
  | .ok v => .ok v

def evalString (search : Search π) (expression : String) (payload : π) : Except String (Option String) :=
  match evalAny search expression payload with
  | .error err => .error err
  | .ok .null => .ok none
  | .ok (.string t) => .ok (some t)
  | .ok (.boolean b) => .ok (some (if b then "true" else "false"))
  | .ok (.other marshaled) => .ok (some marshaled)

def checkPassthrough (search : Search π) (passthroughCfg : Passthrough) (payload : π) : Bool :=
  if passthroughCfg.fieldExpr = "" then false else
  match evalAny search passthroughCfg.fieldExpr payload with
  | .ok (.boolean matched) => if passthroughCfg.negate then !matched else matched
  | _ => false

def auth (cc : ClientConfig) (clientID clientKey : String) : Option String :=
  if clientID = "" ∨ clientKey = "" then some "missing headers"
  else if clientKey ≠ cc.clientKey then some "invalid credentials"
  else none

def utf8Bytes (s : String) : List UInt8 := s.toList.flatMap String.utf8EncodeChar

def fnv32a (bytes : List UInt8) : UInt32 :=
  bytes.foldl (fun h b => (h ^^^ b.toUInt32) * 16777619) 2166136261

def computeKey (s : String) : String := "e" ++ Strconv.formatInt (fnv32a (utf8Bytes s)).toNat

example : computeKey "a" = "e3826002220" := by decide

-- Run's newPayload: the request's payload until EvaluateEdgeAndFlap replaces it
-- with its map, nil unless an aggregate.
inductive NewPayload (π : Type) where
  | request (payload : π)
  | evaluated (aggregate : Option (FlapAggregate π))

structure RunResult (π : Type) where
  action : Action
  statusCode : Nat
  newPayload : NewPayload π
  err : Option String

def statusAccepted : Nat := 202
def statusBadRequest : Nat := 400
def statusTooManyRequests : Nat := 429
def statusInternalServerError : Nat := 500

-- An error or a refusal ends Run with status 202 and that error.
def rateLimit (rpm : Int) (scope refusal : String) (payload : π) (rest : StoreProg (RunResult π)) :
    StoreProg (RunResult π) :=
  if rpm > 0 then
    .call (.acquire scope rpm 60) fun
      | .error _ => .pure ⟨.noOp,statusAccepted,.request payload,some "rate limit check failed"⟩
      | .ok false => .pure ⟨.noOp,statusAccepted,.request payload,some refusal⟩
      | .ok true => rest
  else rest

def targetScope (clientID snsArn : String) : String := "TARGET:" ++ clientID ++ ":" ++ snsArn

-- Only an edge forward or an aggregate takes a slot of the target limit.
def targetLimit (cc : ClientConfig) (clientID : String) (out : RunResult π) : StoreProg (RunResult π) :=
  if (out.action = .edgeTriggeredForward ∨ out.action = .aggregateSent) ∧ cc.trigger.target.snsRPM > 0 then
    .call (.acquire (targetScope clientID cc.trigger.target.snsArn) cc.trigger.target.snsRPM 60) fun
      | .error _ => .pure {out with statusCode:=statusInternalServerError,err:=some "rate limit check failed"}
      | .ok false => .pure {out with action:=.noOp,statusCode:=statusTooManyRequests}
      | .ok true => .pure out
  else .pure out

def evaluateTrigger (json : JsonCodec π) (zstd : Zstd) (clientID : String) (cc : ClientConfig) (payload : π) (now : Int) :
    Option String → StoreProg (RunResult π)
  | none => targetLimit cc clientID ⟨.noOp,statusAccepted,.request payload,none⟩
  | some newVal =>
    (evaluateEdgeAndFlap json zstd clientID (computeKey cc.trigger.fieldExpr) newVal cc.trigger.flapping payload now).bind
      fun ev => match ev.err with
        | some _ => .pure ⟨ev.action,statusInternalServerError,.evaluated ev.aggregate,some "edge evaluation error"⟩
        | none => targetLimit cc clientID ⟨ev.action,statusAccepted,.evaluated ev.aggregate,none⟩

def dispatchTrigger (json : JsonCodec π) (zstd : Zstd) (search : Search π) (clientID : String) (cc : ClientConfig)
    (payload : π) (now : Int) : StoreProg (RunResult π) :=
  if checkPassthrough search cc.passthrough payload then .pure ⟨.forwardedAsIs,statusAccepted,.request payload,none⟩
  else if cc.trigger.fieldExpr = "" then .pure ⟨.forwardedAsIs,statusAccepted,.request payload,none⟩
  else match evalString search cc.trigger.fieldExpr payload with
    | .error _ => .pure ⟨.noOp,statusBadRequest,.request payload,some "trigger field eval error"⟩
    | .ok newVal => evaluateTrigger json zstd clientID cc payload now newVal

def run (json : JsonCodec π) (zstd : Zstd) (search : Search π) (clientID clientIP : String) (cc : ClientConfig)
    (payload : π) (now : Int) : StoreProg (RunResult π) :=
  rateLimit cc.ipRPM ("IP:" ++ clientIP) "rate limit (ip)" payload <|
    rateLimit cc.clientRPM ("CLIENT:" ++ clientID) "rate limit (client)" payload <|
      dispatchTrigger json zstd search clientID cc payload now

end Enoti
