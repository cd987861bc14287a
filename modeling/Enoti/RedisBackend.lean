import Enoti.ClientStore
import Enoti.DataStore
import Enoti.Interleaving
import Enoti.Redis

namespace Enoti

-- backends/redis: each command is atomic; a method is not.

-- goccy/go-json at the type α, with Go's []byte/string conversions folded in.
structure JsonText (α : Type) where
  marshal : α → Except String String
  unmarshal : String → Except String α

abbrev RedisProg := Interaction Redis.Command Redis.Command.Resp

namespace RedisBackend

def getDataKeyName (clientID scopeKey : String) : String := "_enoti_data_" ++ clientID ++ "_s" ++ scopeKey
def getWindowKeyName (key : String) (epochMin : Int) : String := "_enoti_rwin_" ++ key ++ "_" ++ Strconv.formatInt epochMin
def getClientKey (id : String) : String := "_enoti_cfg_" ++ id

-- m[name] of a Go map: the empty string when absent.
def field (m : Redis.Fields) (name : String) : String := (m.lookup name).getD ""

def invalid (name : String) {α : Type} : Except String α → Except String α
  | .error err => .error ("invalid " ++ name ++ ": " ++ err)
  | .ok a => .ok a

def decodeEdge (json : JsonText (List Flip)) (scopeKey : String) (m : Redis.Fields) : Except String (Option Edge × Int) :=
  if m.entries = [] then .ok (none,0) else do
  let ver ← invalid "ver" (Strconv.parseInt (field m "ver"))
  let lastChangeTS ← invalid "last_change_ts" (Strconv.parseInt (field m "last_change_ts"))
  let windowStart ← invalid "window_start" (Strconv.parseInt (field m "window_start"))
  let flipCount ← invalid "flip_count" (Strconv.atoi (field m "flip_count"))
  let aggUntilTS ← invalid "agg_until_ts" (Strconv.parseInt (field m "agg_until_ts"))
  let recent ← invalid "recent" (json.unmarshal (field m "recent"))
  let edge : Edge := ⟨scopeKey,field m "last_value",lastChangeTS,windowStart,flipCount,recent,aggUntilTS,0⟩
  return (some edge,ver)

def load (json : JsonText (List Flip)) (clientID scopeKey : String) : RedisProg (Except String (Option Edge × Int)) :=
  .call (.hGetAll (getDataKeyName clientID scopeKey)) fun
    | .error .nil => .pure (.ok (none,0))
    | .error err => .pure (.error err.message)
    | .ok m => .pure (decodeEdge json scopeKey m)

def edgeFields (next : Edge) (recent : String) (ver : Int) : List (String × String) :=
  [("last_value",next.lastValue),("last_change_ts",Strconv.formatInt next.lastChangeTS),
    ("window_start",Strconv.formatInt next.windowStart),("flip_count",Strconv.formatInt next.flipCount),
    ("recent",recent),("agg_until_ts",Strconv.formatInt next.aggUntilTS),("ver",Strconv.formatInt ver)]

-- return true, outN.Err() is an error when HMSET fails.
def updateAt (json : JsonText (List Flip)) (key : String) (prevVersion : Int) (next : Edge) (currentVerStr : String) :
    RedisProg (Except String Bool) :=
  if currentVerStr = "" then .pure (.ok false) else
  match invalid "ver" (Strconv.parseInt currentVerStr) with
  | .error err => .pure (.error err)
  | .ok currenVersion =>
    if currenVersion ≠ prevVersion then .pure (.ok false) else
    match json.marshal next.recent with
    | .error err => .pure (.error err)
    | .ok recent =>
      .call (.hMSet key (edgeFields next recent (currenVersion + 1))) fun
        | .error err => .pure (.error err.message)
        | .ok _ => .pure (.ok true)

-- The create path writes without checking that the key is absent.
def upsertCAS (json : JsonText (List Flip)) (clientID scopeKey : String) (prevVersion : Int) (next : Edge) :
    RedisProg (Except String Bool) :=
  let next := {next with scopeKey:=scopeKey}
  let key := getDataKeyName clientID scopeKey
  if prevVersion = 0 then
    match json.marshal next.recent with
    | .error err => .pure (.error err)
    | .ok recent =>
      .call (.hMSet key (("scope_key",next.scopeKey) :: edgeFields next recent 1)) fun
        | .error err => .pure (.error err.message)
        | .ok _ => .pure (.ok true)
  else
    .call (.hMGet key ["ver"]) fun
      | .error .nil => .pure (.ok false)
      | .error err => .pure (.error err.message)
      | .ok currentVerObj =>
        match currentVerObj.head? with
        | some (some currentVerStr) => updateAt json key prevVersion next currentVerStr
        | _ => .pure (.ok false)

def hasRoom (ratePerWindow : Int) (count : String) : Except String Bool :=
  if count = "" then .ok true else
  match Strconv.atoi count with
  | .error err => .error ("invalid count: " ++ err)
  | .ok count => .ok (decide (count < ratePerWindow))

def firstGrant (cacheKey : String) (window : Int) : RedisProg (Except String Bool) :=
  .call (.hIncrBy cacheKey "count" 1) fun
    | .error e1 => .pure (.error e1.message)
    | .ok _ =>
      .call (.expire cacheKey (2*window)) fun
        | .error e2 => .pure (.error e2.message)
        | .ok _ => .pure (.ok true)

def grantAt (cacheKey : String) (ratePerWindow : Int) (count : String) : RedisProg (Except String Bool) :=
  match hasRoom ratePerWindow count with
  | .error err => .pure (.error err)
  | .ok false => .pure (.ok false)
  | .ok true =>
    .call (.hIncrBy cacheKey "count" 1) fun
      | .error err => .pure (.error err.message)
      | .ok _ => .pure (.ok true)

-- The check (HGET) and the increment (HINCRBY) are separate commands.
def acquire (now : Int) (key : String) (ratePerWindow window : Int) : RedisProg (Except String Bool) :=
  if ratePerWindow ≤ 0 then .pure (.ok false) else
  let cacheKey := getWindowKeyName key (now.tdiv 60)
  .call (.hGet cacheKey "count") fun
    | .error .nil => firstGrant cacheKey window
    | .error err => .pure (.error err.message)
    | .ok count => grantAt cacheKey ratePerWindow count

def nullFlips : JsonText (List Flip) := ⟨fun _ => .ok "null",fun _ => .ok []⟩

def createdOnce : Redis.Store := ((upsertCAS nullFlips "c1" "e1" 0 ({lastValue:="on"} : Edge)).run Redis.exec ∅).2

-- A second create commits over the stored edge and restarts its version at 1.
theorem redis_upsert_commits_over_existing_state :
    ((upsertCAS nullFlips "c1" "e1" 0 ({lastValue:="off",lastChangeTS:=5,windowStart:=5} : Edge)).run Redis.exec createdOnce).1 =
        .ok true ∧
      ((load nullFlips "c1" "e1").run Redis.exec
          ((upsertCAS nullFlips "c1" "e1" 0 ({lastValue:="off",lastChangeTS:=5,windowStart:=5} : Edge)).run Redis.exec
            createdOnce).2).1 = .ok (some {scopeKey:="e1",lastValue:="off",lastChangeTS:=5,windowStart:=5},1) ∧
      ((Interaction.Threads.mk [upsertCAS nullFlips "c1" "e1" 1 ({lastValue:="off",lastChangeTS:=5} : Edge),
          upsertCAS nullFlips "c1" "e1" 1 ({lastValue:="on",lastChangeTS:=7} : Edge)] createdOnce []).interleave
          Redis.exec [0,1,0,1]).programs.map Interaction.value? = [some (.ok true),some (.ok true)] := by
  decide

-- Both Acquires pass the HGET before either increments.
theorem redis_acquire_grants_past_rate :
    ((Interaction.Threads.mk [acquire 0 "TARGET:c1:arn" 1 60,acquire 0 "TARGET:c1:arn" 1 60] (∅ : Redis.Store) []).interleave
        Redis.exec [0,1,0,1,0,1]).programs.map Interaction.value? = [some (.ok true),some (.ok true)] ∧
      (Redis.exec ((Interaction.Threads.mk [acquire 0 "TARGET:c1:arn" 1 60,acquire 0 "TARGET:c1:arn" 1 60] (∅ : Redis.Store)
        []).interleave Redis.exec [0,1,0,1,0,1]).state (.hGet (getWindowKeyName "TARGET:c1:arn" 0) "count")).1 = .ok "2" := by
  decide

-- A Redis error, redis.Nil included, is passed on as it is.

def redisError (err : Redis.Error) : ClientStoreError := .other err.message

def getClientConfig (json : JsonText ClientConfig) (clientID : String) : RedisProg (Except ClientStoreError ClientConfig) :=
  .call (.get (getClientKey clientID)) fun
    | .error err => .pure (.error (redisError err))
    | .ok v => .pure ((json.unmarshal v).mapError .other)

-- The prefix is ASCII, so bytes and characters agree.
def listClients : RedisProg (Except ClientStoreError (List String)) :=
  .call (.keys (getClientKey "")) fun
    | .error err => .pure (.error (redisError err))
    | .ok keys =>
      let prefixLen := (getClientKey "").utf8ByteSize
      .pure (.ok ((keys.filter fun k => k.utf8ByteSize > prefixLen).map fun k => String.ofList (k.toList.drop prefixLen)))

def putClientConfig (json : JsonText ClientConfig) (clientID : String) (config : ClientConfig) :
    RedisProg (Except ClientStoreError Unit) :=
  match config.validate with
  | some err => .pure (.error (.other err))
  | none =>
    match json.marshal config with
    | .error err => .pure (.error (.other err))
    | .ok out =>
      .call (.set (getClientKey clientID) out) fun
        | .error err => .pure (.error (redisError err))
        | .ok () => .pure (.ok ())

def deleteClientConfig (clientID : String) : RedisProg (Except ClientStoreError Unit) :=
  .call (.del [getClientKey clientID]) fun
    | .error err => .pure (.error (redisError err))
    | .ok _ => .pure (.ok ())

end RedisBackend

end Enoti
