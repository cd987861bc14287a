import Enoti.Flow
import Enoti.Ttl

namespace Enoti

-- api/httphandler.go and cmd/lambda-sqs/main.go over the services they call.

variable {π : Type}

inductive ServiceCall where
  | store (call : DataStoreCall)
  | config (call : ConfigCall)
  | publishRaw (arn : String) (payload : Bytes)

abbrev ServiceCall.Resp : ServiceCall → Type
  | .store call => call.Resp
  | .config call => call.Resp
  | .publishRaw .. => Except String Unit

abbrev ServiceProg := Interaction ServiceCall ServiceCall.Resp

def toService {α : Type} (p : StoreProg α) : ServiceProg α := p.translate ServiceCall.store fun _ r => r

def loadConfig (clientID : String) : ServiceProg (Except ClientStoreError ClientConfig) :=
  (loadCachedClientConfig clientID).translate ServiceCall.config fun _ r => r

structure Services where
  store : StoreState
  registry : Registry
  cache : TTL String ClientConfig
  clock : Int
  -- Every PublishRaw call, in order, delivered or not.
  published : List (String × Bytes)

def Services.clients (s : Services) (clientID : String) : Except ClientStoreError ClientConfig :=
  match s.cache.get s.clock clientID with
  | some v => .ok v
  | none => (registryAnswer s.registry (.getClientConfig clientID)).1

-- A DataStore or ClientStore call meets its contract or fails without effect.
def servicesAnswers (s : Services) : (op : ServiceCall) → op.Resp → Services → Prop
  | .store call,r,s' => ∃ store',storeAnswers s.store call r store' ∧ s' = {s with store:=store'}
  | .config (.cacheLookup clientID),r,s' => r = s.cache.data clientID ∧ s' = s
  | .config .timeNow,r,s' => r = s.clock ∧ s' = s
  | .config (.store call),r,s' => ∃ registry',registryAnswers s.registry call r registry' ∧ s' = {s with registry:=registry'}
  | .config (.cacheSet clientID cc ttl),_,s' => s' = {s with cache:=s.cache.set s.clock clientID cc ttl}
  | .publishRaw arn payload,_,s' => s' = {s with published:=s.published ++ [(arn,payload)]}

def servicesAnswer (s : Services) : (op : ServiceCall) → op.Resp × Services
  | .store call => ((storeAnswer s.store call).1,{s with store:=(storeAnswer s.store call).2})
  | .config (.cacheLookup clientID) => (s.cache.data clientID,s)
  | .config .timeNow => (s.clock,s)
  | .config (.store call) => ((registryAnswer s.registry call).1,{s with registry:=(registryAnswer s.registry call).2})
  | .config (.cacheSet clientID cc ttl) => ((),{s with cache:=s.cache.set s.clock clientID cc ttl})
  | .publishRaw arn payload => (.ok (),{s with published:=s.published ++ [(arn,payload)]})

theorem servicesAnswer_answers (s : Services) (op : ServiceCall) :
    servicesAnswers s op (servicesAnswer s op).1 (servicesAnswer s op).2 := by
  cases op with
  | store call => exact ⟨_,.inl rfl,rfl⟩
  | config call =>
    cases call with
    | cacheLookup clientID => exact ⟨rfl,rfl⟩
    | timeNow => exact ⟨rfl,rfl⟩
    | store call => exact ⟨_,.inl rfl,rfl⟩
    | cacheSet clientID cc ttl => rfl
  | publishRaw arn payload => rfl

structure Codecs (π : Type) where
  json : JsonCodec π
  aggregateJson : Option (FlapAggregate π) → Except String Bytes
  zstd : Zstd
  search : Search π

def marshalNewPayload (codecs : Codecs π) : NewPayload π → Except String Bytes
  | .request payload => codecs.json.marshal payload
  | .evaluated aggregate => codecs.aggregateJson aggregate

-- The publishing switch both front ends share.
def publication (codecs : Codecs π) (payload : π) (out : RunResult π) : Option (Except String Bytes) :=
  match out.action with
  | .aggregateSent => some (marshalNewPayload codecs out.newPayload)
  | .edgeTriggeredForward | .forwardedAsIs => some (codecs.json.marshal payload)
  | .noOp | .suppressFlapping | .suppressDedup => none

structure HttpRequest where
  method : String
  header : String → String
  remoteAddr : String
  body : Except String Bytes

-- http.Error(w, text, status), or writeJSON(w, status, {status: text}).
inductive Response where
  | error (status : Nat) (text : String)
  | json (status : Nat) (statusText : String)
deriving DecidableEq, Repr

def Response.status : Response → Nat
  | .error status _ => status
  | .json status _ => status

def lastIndex (c : Char) (cs : List Char) : Option Nat :=
  (cs.reverse.findIdx? (· = c)).map fun j => cs.length - 1 - j

def splitHostPort (hostport : String) : Option String :=
  let cs := hostport.toList
  match lastIndex ':' cs with
  | none => none
  | some i =>
    let parsed : Option (List Char × Nat × Nat) :=
      if cs.head? = some '[' then
        match cs.findIdx? (· = ']') with
        | none => none
        | some e => if e + 1 = i then some ((cs.take e).drop 1,1,e + 1) else none
      else if (cs.take i).contains ':' then none
      else some (cs.take i,0,0)
    match parsed with
    | none => none
    | some (host,j,k) => if (cs.drop j).contains '[' || (cs.drop k).contains ']' then none else some (String.ofList host)

def trimSpace (cs : List Char) : List Char :=
  ((cs.dropWhile isSpace).reverse.dropWhile isSpace).reverse

def clientIP (r : HttpRequest) : String :=
  let xff := r.header "X-Forwarded-For"
  if xff ≠ "" then String.ofList (trimSpace (xff.toList.takeWhile (· ≠ ',')))
  else (splitHostPort r.remoteAddr).getD r.remoteAddr

def bodyLimit : Nat := 1 <<< 20

def respondHttp (codecs : Codecs π) (cc : ClientConfig) (payload : π) (out : RunResult π) : ServiceProg Response :=
  match out.err with
  | some err => .pure (.error out.statusCode err)
  | none =>
    match publication codecs payload out with
    | none => .pure (.json out.statusCode (statusText out.action))
    | some (.error _) => .pure (.error statusInternalServerError "failed to marshal payload")
    | some (.ok b) =>
      .call (.publishRaw cc.trigger.target.snsArn b) fun
        | .error _ => .pure (.error statusInternalServerError "failed to publish")
        | .ok () => .pure (.json statusAccepted (statusText out.action))

def handleNotify (codecs : Codecs π) (now : Int) (r : HttpRequest) : ServiceProg Response :=
  if r.method ≠ "POST" then .pure (.error 405 "method not allowed") else
  let clientID := r.header clientIDHdrName
  let clientKey := r.header clientKeyHdrName
  (loadConfig clientID).bind fun
    | .error _ => .pure (.error 401 "unknown client")
    | .ok cc =>
      match auth cc clientID clientKey with
      | some err => .pure (.error 401 err)
      | none =>
        match r.body with
        | .error _ => .pure (.error statusBadRequest "read error")
        | .ok raw =>
          if raw.take bodyLimit = [] then .pure (.error statusBadRequest "empty body") else
          match codecs.json.unmarshal (raw.take bodyLimit) with
          | .error _ => .pure (.error statusBadRequest "invalid json")
          | .ok payload =>
            (toService (run codecs.json codecs.zstd codecs.search clientID (clientIP r) cc payload now)).bind
              (respondHttp codecs cc payload)

-- An error makes the message a batch item failure, which SQS delivers again.

structure SqsMessage where
  attributes : String → Option String
  body : Bytes

structure MessageAttributes where
  clientID : String
  clientKey : String
  clientIP : String

def extractMessageAttributes (m : SqsMessage) : Except String MessageAttributes :=
  let clientID := (m.attributes clientIDHdrName).getD ""
  if clientID = "" then .error ("missing required attribute: " ++ clientIDHdrName) else
  let clientKey := (m.attributes clientKeyHdrName).getD ""
  if clientKey = "" then .error ("missing required attribute: " ++ clientKeyHdrName) else
  let clientIP := match m.attributes "ClientIP" with
    | some ip => if ip ≠ "" then ip else "lambda"
    | none => "lambda"
  .ok ⟨clientID,clientKey,clientIP⟩

def respondSqs (codecs : Codecs π) (cc : ClientConfig) (payload : π) (out : RunResult π) : ServiceProg (Option String) :=
  match out.err with
  | some err => .pure (some ("flow.Run: " ++ err))
  | none =>
    let aggregate := decide (out.action = .aggregateSent)
    match publication codecs payload out with
    | none => .pure none
    | some (.error err) => .pure (some ((if aggregate then "marshal aggregate payload: " else "marshal payload: ") ++ err))
    | some (.ok b) =>
      .call (.publishRaw cc.trigger.target.snsArn b) fun
        | .error err => .pure (some ((if aggregate then "publish aggregate to SNS: " else "publish to SNS: ") ++ err))
        | .ok () => .pure none

def processMessage (codecs : Codecs π) (now : Int) (m : SqsMessage) : ServiceProg (Option String) :=
  match extractMessageAttributes m with
  | .error err => .pure (some ("extract attributes: " ++ err))
  | .ok attrs =>
    (loadConfig attrs.clientID).bind fun
      | .error err => .pure (some ("load client config: " ++ err.message))
      | .ok cc =>
        match auth cc attrs.clientID attrs.clientKey with
        | some err => .pure (some ("authentication failed: " ++ err))
        | none =>
          match codecs.json.unmarshal m.body with
          | .error err => .pure (some ("parse message body: " ++ err))
          | .ok payload =>
            (toService (run codecs.json codecs.zstd codecs.search attrs.clientID attrs.clientIP cc payload now)).bind
              (respondSqs codecs cc payload)

end Enoti
