import Enoti.ClearAll

-- backends.ClientBackendFromEnv and DataBackendFromEnv, and the Lambda's main.

namespace Enoti

namespace Backends

open Dynamo
open DdbBackend (DdbControl Ending createTableIfNotExists createTableIfNotExists_runs)
open Interaction (Runs runs_call_inv runs_pure_inv runs_of_bind runs_of_translate runs_map runs_of_answer)

-- os.Getenv: an unset variable reads as the empty string.
abbrev Env := String → String

def clientBackendEnvKey : String := "CLIENT_BACKEND"
def dataBackendEnvKey : String := "DATA_BACKEND"
def backendRedis : String := "redis"
def ddbEndpointKey : String := "DDB_ENDPOINT"
def ddbTableKey : String := "DDB_TABLE"
def redisHost : String := "REDIS_HOST"
def redisPort : String := "REDIS_PORT"
def redisUser : String := "REDIS_USER"
def redisPass : String := "REDIS_PASS"
def redisTLS : String := "REDIS_SSL"
def redisDBNum : String := "REDIS_DB_NUM"

def getenv (env : Env) (key default : String) : String :=
  let v := env key
  if v = "" then default else v

def parseBoolean (s : String) : Bool :=
  match Strconv.parseBool s with
  | .ok b => b
  | .error _ => false

-- tls stands for the TLS config with the Amazon root CA and TLS 1.2 at least.
structure RedisOptions where
  addr : String
  username : String
  password : String
  db : Int
  tls : Bool
  deriving DecidableEq

-- The DynamoDB client's options when DDB_ENDPOINT is set, for testing locally.
structure LocalEndpoint where
  baseEndpoint : String
  region : String
  accessKeyID : String
  secretAccessKey : String
  deriving DecidableEq

inductive Backend where
  | redis (client : RedisOptions)
  | ddb (table : String) (client : Option LocalEndpoint)
  deriving DecidableEq

inductive StartupCall where
  | loadDefaultConfig
  | appendCertsFromPEM
  | ping (options : RedisOptions)
  | control (request : ControlRequest)

abbrev StartupCall.Resp : StartupCall → Type
  | .loadDefaultConfig => Except String Unit
  | .appendCertsFromPEM => Bool
  | .ping _ => Except String Unit
  | .control request => request.Resp

abbrev StartupProg := Interaction StartupCall StartupCall.Resp

-- Only CreateTable changes anything: the status of the DDB_TABLE table.
def startupAnswers (s : TableStatus) : (op : StartupCall) → op.Resp → TableStatus → Prop
  | .loadDefaultConfig,_,s' => s' = s
  | .appendCertsFromPEM,_,s' => s' = s
  | .ping _,_,s' => s' = s
  | .control request,answer,s' => controlAnswers s request answer s'

def startupControl {α : Type} (program : DdbControl α) : StartupProg α :=
  program.translate StartupCall.control fun _ answer => answer

def redisConfig (env : Env) (dbNum : Int) : RedisOptions :=
  ⟨getenv env redisHost "localhost" ++ ":" ++ getenv env redisPort "6379",env redisUser,env redisPass,dbNum,
    parseBoolean (getenv env redisTLS "false")⟩

def redisClientFromEnv (env : Env) : StartupProg (Except String RedisOptions) :=
  let tlsEnabled := parseBoolean (getenv env redisTLS "false")
  match Strconv.atoi (getenv env redisDBNum "0") with
  | .error err => .pure (.error ("invalid Redis DB number: " ++ err))
  | .ok dbNum =>
    (if tlsEnabled then .call .appendCertsFromPEM .pure else .pure true : StartupProg Bool).bind fun
      | false => .pure (.error "failed to retrieve CA certificate")
      | true =>
        .call (.ping (redisConfig env dbNum)) fun
          | .error err => .pure (.error ("failed to ping Redis: " ++ err))
          | .ok () => .pure (.ok (redisConfig env dbNum))

def ddbEndpoint (env : Env) : Option LocalEndpoint :=
  let de := env ddbEndpointKey
  if de ≠ "" then
    some ⟨de,getenv env "AWS_REGION" "us-east-1",getenv env "AWS_ACCESS_KEY_ID" "x",getenv env "AWS_SECRET_ACCESS_KEY" "x"⟩
  else none

def ddbClientFromEnv (env : Env) : StartupProg (Except String (Option LocalEndpoint)) :=
  .call .loadDefaultConfig fun
    | .error err => .pure (.error err)
    | .ok () => .pure (.ok (ddbEndpoint env))

-- The body ClientBackendFromEnv and DataBackendFromEnv share; NewClientStore
-- and NewDataStore of ddb create the table.
def backendFromEnv (backendKey tableKey : String) (env : Env) : StartupProg (Ending (Except String Backend)) :=
  if env backendKey = backendRedis then
    (redisClientFromEnv env).bind fun
      | .error err => .pure (.returned (.error err))
      | .ok redisClient => .pure (.returned (.ok (.redis redisClient)))
  else
    (ddbClientFromEnv env).bind fun
      | .error err => .pure (.returned (.error err))
      | .ok ddbClient =>
        let table := getenv env tableKey "notify_guard"
        (startupControl (createTableIfNotExists table)).bind fun
          | .returned () => .pure (.returned (.ok (.ddb table ddbClient)))
          | .fatal msg => .pure (.fatal msg)

def clientBackendFromEnv (env : Env) : StartupProg (Ending (Except String Backend)) :=
  backendFromEnv clientBackendEnvKey "DDB_TABLE" env

def dataBackendFromEnv (env : Env) : StartupProg (Ending (Except String Backend)) :=
  backendFromEnv dataBackendEnvKey ddbTableKey env

def Backend.Selected (env : Env) (backendKey tableKey : String) : Backend → Prop
  | .redis options => env backendKey = backendRedis ∧ ∃ dbNum, options = redisConfig env dbNum
  | .ddb table client => env backendKey ≠ backendRedis ∧ table = getenv env tableKey "notify_guard" ∧ client = ddbEndpoint env

def Backend.onDdb : Backend → Bool
  | .ddb .. => true
  | .redis _ => false

section
variable {env : Env} {s s' : TableStatus}

theorem startupControl_runs {α : Type} {program : DdbControl α} {value : α}
    (path : Runs startupAnswers (startupControl program) s value s') : Runs controlAnswers program s value s' := by
  refine runs_map id ?_ (runs_of_translate path)
  rintro s op r s' ⟨r',answered,rfl⟩
  exact answered

theorem redisClientFromEnv_runs {options : RedisOptions} (path : Runs startupAnswers (redisClientFromEnv env) s (.ok options) s') :
    s' = s ∧ ∃ dbNum, options = redisConfig env dbNum := by
  unfold redisClientFromEnv at path
  split at path
  · cases (runs_pure_inv path).1
  · rename_i dbNum _
    obtain ⟨pooled,middle,pooling,rest⟩ := runs_of_bind path
    have kept : middle = s := by
      split at pooling
      · obtain ⟨r,middle',answered,rest'⟩ := runs_call_inv pooling
        obtain ⟨rfl,rfl⟩ := runs_pure_inv rest'
        exact answered
      · exact (runs_pure_inv pooling).2
    subst kept
    cases pooled with
    | false => cases (runs_pure_inv rest).1
    | true =>
      obtain ⟨pong,middle',answered,rest⟩ := runs_call_inv rest
      have kept : middle' = middle := answered
      subst kept
      rcases pong with err | ⟨⟩
      · cases (runs_pure_inv rest).1
      · obtain ⟨same,rfl⟩ := runs_pure_inv rest
        cases same
        exact ⟨rfl,dbNum,rfl⟩

theorem ddbClientFromEnv_runs {client : Option LocalEndpoint}
    (path : Runs startupAnswers (ddbClientFromEnv env) s (.ok client) s') : s' = s ∧ client = ddbEndpoint env := by
  obtain ⟨loaded,middle,answered,rest⟩ := runs_call_inv path
  have kept : middle = s := answered
  subst kept
  rcases loaded with err | ⟨⟩
  · cases (runs_pure_inv rest).1
  · obtain ⟨same,rfl⟩ := runs_pure_inv rest
    cases same
    exact ⟨rfl,rfl⟩

theorem backendFromEnv_runs {backendKey tableKey : String} {b : Backend}
    (path : Runs startupAnswers (backendFromEnv backendKey tableKey env) s (.returned (.ok b)) s') :
    b.Selected env backendKey tableKey ∧ (b.onDdb = false → s' = s) ∧ (b.onDdb = true → s' ≠ .absent) := by
  unfold backendFromEnv at path
  by_cases redis : env backendKey = backendRedis
  · rw [if_pos redis] at path
    obtain ⟨client,middle,built,rest⟩ := runs_of_bind path
    rcases client with err | options
    · cases (runs_pure_inv rest).1
    · obtain ⟨same,rfl⟩ := runs_pure_inv rest
      cases same
      obtain ⟨rfl,dbNum,rfl⟩ := redisClientFromEnv_runs built
      exact ⟨⟨redis,dbNum,rfl⟩,fun _ => rfl,fun onDdb => (nomatch onDdb)⟩
  · rw [if_neg redis] at path
    obtain ⟨client,loaded,built,rest⟩ := runs_of_bind path
    rcases client with err | client
    · cases (runs_pure_inv rest).1
    · obtain ⟨rfl,rfl⟩ := ddbClientFromEnv_runs built
      obtain ⟨created,made,creating,rest⟩ := runs_of_bind rest
      rcases created with u | msg
      · obtain ⟨same,rfl⟩ := runs_pure_inv rest
        cases same
        have present : s' ≠ .absent := by
          rcases createTableIfNotExists_runs (startupControl_runs creating) with ⟨kept,fatal⟩ | ⟨-,fresh,-⟩
          · intro absent
            obtain ⟨msg,ended⟩ := fatal (kept ▸ absent)
            cases ended
          · rw [fresh]
            exact fun absent => nomatch absent
        exact ⟨⟨redis,rfl,rfl⟩,fun onDdb => (nomatch onDdb),fun _ => present⟩
      · cases (runs_pure_inv rest).1

end

end Backends

open Backends
open Dynamo (TableStatus controlAnswers)
open Interaction (Runs runs_call_inv runs_pure_inv runs_of_bind runs_of_answer)

structure LambdaHandler where
  clientStore : Backend
  dataStore : Backend
  publisher : Option String

-- The environment after godotenv.Load; each log.Fatalf ends the process.
def main (env : Env) : StartupProg (DdbBackend.Ending LambdaHandler) :=
  let se := env "SNS_ENDPOINT"
  .call .loadDefaultConfig fun
    | .error err => .pure (.fatal ("Failed to load AWS config: " ++ err))
    | .ok () =>
      let publisher := if se ≠ "" then some se else none
      (clientBackendFromEnv env).bind fun
        | .fatal msg => .pure (.fatal msg)
        | .returned (.error err) => .pure (.fatal ("Failed to initialize client store: " ++ err))
        | .returned (.ok clientStore) =>
          (dataBackendFromEnv env).bind fun
            | .fatal msg => .pure (.fatal msg)
            | .returned (.error err) => .pure (.fatal ("Failed to initialize data store: " ++ err))
            | .returned (.ok dataStore) => .pure (.returned ⟨clientStore,dataStore,publisher⟩)

-- A startup service whose calls all succeed.
def startupServe (s : TableStatus) : (op : StartupCall) → op.Resp × TableStatus
  | .loadDefaultConfig => (.ok (),s)
  | .appendCertsFromPEM => (true,s)
  | .ping _ => (.ok (),s)
  | .control .createTable =>
    match s with
    | .absent => (.ok (),.active ∅)
    | _ => (.error .resourceInUse,s)
  | .control _ => (.error (.failure "unavailable"),s)

theorem startupServe_answers (s : TableStatus) (op : StartupCall) :
    startupAnswers s op (startupServe s op).1 (startupServe s op).2 := by
  cases op with
  | loadDefaultConfig => rfl
  | appendCertsFromPEM => rfl
  | ping => rfl
  | control request =>
    cases request with
    | createTable =>
      cases s with
      | absent => exact .inl ⟨rfl,rfl,rfl⟩
      | active t => exact .inr (.inl ⟨rfl,fun absent => (nomatch absent),rfl⟩)
      | deleting => exact .inr (.inl ⟨rfl,fun absent => (nomatch absent),rfl⟩)
    | deleteTable => exact .inr (.inr (.inr ⟨_,rfl,rfl⟩))
    | waitNotExists => exact .inr ⟨_,rfl,.inl rfl⟩

end Enoti
