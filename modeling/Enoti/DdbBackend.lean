import Enoti.ClientStore
import Enoti.DataStore
import Enoti.Dynamo
import Enoti.Strconv

namespace Enoti

-- backends/ddb: DataStore and ClientStore over one DynamoDB table.

abbrev DdbProg := Interaction Dynamo.Request Dynamo.Request.Resp

structure ItemCodec (α : Type) where
  marshalMap : α → Except String Dynamo.Item
  unmarshalMap : Dynamo.Item → Except String α

namespace DdbBackend

open Dynamo

def pkClient (id : String) : String := "CLIENT" ++ "#" ++ id
def skProfile : String := "PROFILE"
def pkRate (scope : String) : String := "RATE" ++ "#" ++ scope
def skRateWin (epochMin : Int) : String := "WIN" ++ "#" ++ Strconv.formatInt epochMin
def skEdge (scopeKey : String) : String := "EDGE" ++ "#" ++ scopeKey

-- fmt.Sscanf(pk, CLIENT#%s, &id): the literal prefix, then one word.
def parseClientID (pk : String) : Except String String :=
  if "CLIENT#".toList.isPrefixOf pk.toList then
    match ((pk.toList.drop 7).dropWhile isSpace).takeWhile fun c => !isSpace c with
    | [] => .error "unexpected EOF"
    | word => .ok (String.ofList word)
  else .error "input does not match format"

-- attributevalue's encoding of Edge and Flip, by their dynamodbav tags.

def flipValue (f : Flip) : AttributeValue :=
  .m [("at",.n f.at),("from",.s f.from),("to",.s f.to),("payload",.s f.payload)]

def recentValue : List Flip → AttributeValue
  | [] => .null
  | rs => .l (rs.map flipValue)

def typeError (name : String) : String := "unmarshal failed, cannot unmarshal " ++ name

def readString (name : String) : Option AttributeValue → Except String String
  | none | some .null => .ok ""
  | some (.s v) => .ok v
  | some _ => .error (typeError name)

def readNumber (name : String) : Option AttributeValue → Except String Int
  | none | some .null => .ok 0
  | some (.n v) => .ok v
  | some _ => .error (typeError name)

def readFlip : AttributeValue → Except String Flip
  | .m fields => do
    let time ← readNumber "at" (fields.lookup "at")
    let fr ← readString "from" (fields.lookup "from")
    let dest ← readString "to" (fields.lookup "to")
    let payload ← readString "payload" (fields.lookup "payload")
    return ⟨time,fr,dest,payload⟩
  | .null => .ok ⟨0,"","",""⟩
  | _ => .error (typeError "recent")

def readRecent : Option AttributeValue → Except String (List Flip)
  | none | some .null => .ok []
  | some (.l vs) => vs.mapM readFlip
  | some _ => .error (typeError "recent")

def unmarshalEdge (item : Item) : Except String Edge := do
  let scopeKey ← readString "scope_key" (item.lookup "scope_key")
  let lastValue ← readString "last_value" (item.lookup "last_value")
  let lastChangeTS ← readNumber "last_change_ts" (item.lookup "last_change_ts")
  let windowStart ← readNumber "window_start" (item.lookup "window_start")
  let flipCount ← readNumber "flip_count" (item.lookup "flip_count")
  let recent ← readRecent (item.lookup "recent")
  let aggUntilTS ← readNumber "agg_until_ts" (item.lookup "agg_until_ts")
  let version ← readNumber "ver" (item.lookup "ver")
  return ⟨scopeKey,lastValue,lastChangeTS,windowStart,flipCount,recent,aggUntilTS,version⟩

def itemOf (entries : List (String × AttributeValue)) : Item :=
  entries.foldl (fun item kv => item.insert kv.1 kv.2) ∅

def edgeKey (clientID scopeKey : String) : Key := ⟨pkClient clientID,skEdge scopeKey⟩

def load (clientID scopeKey : String) : DdbProg (Except String (Option Edge × Int)) :=
  .call (.getItem (edgeKey clientID scopeKey)) fun
    | .error err => .pure (.error err.message)
    | .ok none => .pure (.ok (none,0))
    | .ok (some item) =>
      .pure (match unmarshalEdge item with
        | .error err => .error err
        | .ok st => .ok (some st,st.version))

def createdItem (clientID scopeKey : String) (next : Edge) : Item :=
  itemOf [("PK",.s (pkClient clientID)),("SK",.s (skEdge scopeKey)),("scope_key",.s next.scopeKey),
    ("last_value",.s next.lastValue),("last_change_ts",.n next.lastChangeTS),("window_start",.n next.windowStart),
    ("flip_count",.n next.flipCount),("recent",recentValue next.recent),("agg_until_ts",.n next.aggUntilTS),
    ("ver",.n next.version)]

def updatedFields (next : Edge) (newVer : Int) : List Update :=
  [.set "last_value" (.s next.lastValue),.set "last_change_ts" (.n next.lastChangeTS),
    .set "window_start" (.n next.windowStart),.set "flip_count" (.n next.flipCount),
    .set "recent" (recentValue next.recent),.set "agg_until_ts" (.n next.aggUntilTS),.set "ver" (.n newVer)]

-- A failed condition is a refusal (false); any other error is returned.
def conditional : Except Error Unit → Except String Bool
  | .ok () => .ok true
  | .error .conditionalCheckFailed => .ok false
  | .error err => .error err.message

def upsertCAS (clientID scopeKey : String) (prevVersion : Int) (next : Edge) : DdbProg (Except String Bool) :=
  let next := {next with scopeKey:=scopeKey}
  if prevVersion = 0 then
    .call (.putItem (createdItem clientID scopeKey {next with version:=1})
        (some (.and (.attributeNotExists "PK") (.attributeNotExists "SK")))) fun r => .pure (conditional r)
  else
    .call (.updateItem (edgeKey clientID scopeKey) (updatedFields next (prevVersion + 1))
        (some (.numberEquals "ver" prevVersion))) fun r => .pure (conditional r)

-- SET #ttl = if_not_exists(#ttl, :ttl) ADD #count :one, under
-- attribute_not_exists(#count) OR #count < :cap.
def acquire (now : Int) (scope : String) (ratePerWindow window : Int) : DdbProg (Except String Bool) :=
  if ratePerWindow ≤ 0 then .pure (.ok false) else
  .call (.updateItem ⟨pkRate scope,skRateWin (now.tdiv 60)⟩ [.setIfNotExists "ttl" (.n (now + window + 120)),.add "count" 1]
      (some (.or (.attributeNotExists "count") (.numberLess "count" ratePerWindow)))) fun r => .pure (conditional r)

def getClientConfig (codec : ItemCodec ClientConfig) (id : String) : DdbProg (Except ClientStoreError ClientConfig) :=
  .call (.getItem ⟨pkClient id,skProfile⟩) fun
    | .error err => .pure (.error (.other err.message))
    | .ok none => .pure (.error .notFound)
    | .ok (some item) => .pure ((codec.unmarshalMap item).mapError .other)

def collectClientIDs : List Item → Except ClientStoreError (List String)
  | [] => .ok []
  | item :: rest =>
    match readString "PK" (item.lookup "PK") with
    | .error err => .error (.other err)
    | .ok pk =>
      match parseClientID pk with
      | .error err => .error (.other err)
      | .ok id =>
        match collectClientIDs rest with
        | .error err => .error err
        | .ok ids => .ok (if id ≠ "" then id :: ids else ids)

def listClients : DdbProg (Except ClientStoreError (List String)) :=
  .call (.query "CLIENT#" "PROFILE#" ["PK"]) fun
    | .error err => .pure (.error (.other err.message))
    | .ok items => .pure (collectClientIDs items)

def putClientConfig (codec : ItemCodec ClientConfig) (clientID : String) (config : ClientConfig) :
    DdbProg (Except ClientStoreError Unit) :=
  match config.validate with
  | some err => .pure (.error (.other err))
  | none =>
    match codec.marshalMap config with
    | .error err => .pure (.error (.other err))
    | .ok attrs =>
      .call (.putItem ((attrs.insert "PK" (.s (pkClient clientID))).insert "SK" (.s skProfile)) none) fun
        | .error err => .pure (.error (.other err.message))
        | .ok () => .pure (.ok ())

def deleteClientConfig (clientID : String) : DdbProg (Except ClientStoreError Unit) :=
  .call (.deleteItem ⟨pkClient clientID,skProfile⟩) fun
    | .error err => .pure (.error (.other err.message))
    | .ok () => .pure (.ok ())

def serveData (now : Int) : (call : DataStoreCall) → DdbProg call.Resp
  | .acquire scope ratePerWindow window => acquire now scope ratePerWindow window
  | .load clientID scopeKey => load clientID scopeKey
  | .upsertCAS clientID scopeKey prevVersion next => upsertCAS clientID scopeKey prevVersion next

def serveClient (codec : ItemCodec ClientConfig) : (call : ClientStoreCall) → DdbProg call.Resp
  | .getClientConfig clientID => getClientConfig codec clientID
  | .listClients => listClients
  | .putClientConfig clientID config => putClientConfig codec clientID config
  | .deleteClientConfig clientID => deleteClientConfig clientID

inductive BackendCall where
  | data (now : Int) (call : DataStoreCall)
  | client (call : ClientStoreCall)

def serve (codec : ItemCodec ClientConfig) (t : Table) : BackendCall → Table
  | .data now call => ((serveData now call).run exec t).2
  | .client call => ((serveClient codec call).run exec t).2

def serveAll (codec : ItemCodec ClientConfig) (t : Table) (calls : List BackendCall) : Table :=
  calls.foldl (serve codec) t

end DdbBackend

end Enoti
