import Enoti.Delivery

namespace Enoti

open Interaction

variable {π : Type}

theorem toService_runs {α : Type} {p : StoreProg α} {S S' : Services} {x : α}
    (path : Runs servicesAnswers (toService p) S x S') :
    Runs storeAnswers p S.store x S'.store ∧ S'.clients = S.clients ∧ S'.published = S.published := by
  have lifted := runs_of_translate path
  refine ⟨runs_map Services.store ?_ lifted,
    runs_invariant (fun s => s.clients = S.clients ∧ s.published = S.published) ?_ lifted ⟨rfl,rfl⟩⟩
  · rintro s op r s' ⟨r',⟨store',answered,rfl⟩,rfl⟩
    exact answered
  · rintro s op r s' kept ⟨r',⟨store',_,rfl⟩,_⟩
    exact kept

-- A request that stops before Run changes nothing but cfgCache.
structure Quiet (S S' : Services) : Prop where
  store : S'.store = S.store
  clients : S'.clients = S.clients
  published : S'.published = S.published

theorem Quiet.refl (S : Services) : Quiet S S := ⟨rfl,rfl,rfl⟩

theorem Quiet.trans {S M S' : Services} (first : Quiet S M) (second : Quiet M S') : Quiet S S' :=
  ⟨second.store.trans first.store,second.clients.trans first.clients,second.published.trans first.published⟩

theorem loadFromStore_runs {clientID : String} {r : Except ClientStoreError ClientConfig} {S S' : Services}
    (miss : S.clients clientID = (registryAnswer S.registry (.getClientConfig clientID)).1)
    (path : Runs (fun s op r s' => ∃ r', servicesAnswers s (.config op) r' s' ∧ r' = r) (loadFromStore clientID) S r S') :
    Quiet S S' ∧ (r = S.clients clientID ∨ ∃ msg, r = .error (.other msg)) := by
  obtain ⟨_,M,⟨fetched,⟨registry',answered,rfl⟩,rfl⟩,rest⟩ := runs_call_inv path
  obtain ⟨rfl,found⟩ := registryAnswers_get answered
  rcases fetched with err | cc
  · obtain ⟨rfl,rfl⟩ := runs_pure_inv rest
    exact ⟨.refl _,found.imp (fun same => same.trans miss.symm) id⟩
  · have read : S.clients clientID = .ok cc := by
      rcases found with same | ⟨msg,failed⟩
      · rw [miss,← same]
      · cases failed
    obtain ⟨_,M',⟨_,rfl,rfl⟩,rest⟩ := runs_call_inv rest
    obtain ⟨rfl,rfl⟩ := runs_pure_inv rest
    refine ⟨⟨rfl,funext fun id => ?_,rfl⟩,.inl read.symm⟩
    by_cases same : id = clientID
    · subst same
      rw [read]
      simp [Services.clients,TTL.get_set_self _ _ _ _ (show (0 : Int) ≤ 300 * second by decide)]
    · simp [Services.clients,TTL.get_set_of_ne _ _ _ _ same]

-- LoadCachedClientConfig answers what Services.clients says, or a failure of
-- the ClientStore read.
theorem loadConfig_runs {clientID : String} {r : Except ClientStoreError ClientConfig} {S S' : Services}
    (path : Runs servicesAnswers (loadConfig clientID) S r S') :
    Quiet S S' ∧ (r = S.clients clientID ∨ ∃ msg, r = .error (.other msg)) := by
  have lifted := runs_of_translate path
  obtain ⟨_,M,⟨_,⟨rfl,same⟩,rfl⟩,rest⟩ := runs_call_inv lifted
  rw [same] at rest
  cases found : S.cache.data clientID with
  | none =>
    rw [found] at rest
    exact loadFromStore_runs (by simp [Services.clients,TTL.get,TTL.check,found]) rest
  | some e =>
    rw [found] at rest
    obtain ⟨_,M,⟨_,⟨rfl,same⟩,rfl⟩,rest⟩ := runs_call_inv rest
    rw [same] at rest
    by_cases expired : S.clock > e.exp
    · rw [if_pos expired] at rest
      exact loadFromStore_runs (by simp [Services.clients,TTL.get,TTL.check,found,expired]) rest
    · rw [if_neg expired] at rest
      obtain ⟨rfl,rfl⟩ := runs_pure_inv rest
      exact ⟨.refl _,.inl (by simp [Services.clients,TTL.get,TTL.check,found,expired])⟩

theorem loadConfig_runs_ok {clientID : String} {cc : ClientConfig} {S S' : Services}
    (path : Runs servicesAnswers (loadConfig clientID) S (.ok cc) S') : Quiet S S' ∧ S.clients clientID = .ok cc := by
  obtain ⟨quiet,answer⟩ := loadConfig_runs path
  refine ⟨quiet,?_⟩
  rcases answer with same | ⟨msg,failed⟩
  · exact same.symm
  · cases failed

section
variable {codecs : Codecs π} {cc : ClientConfig} {payload : π} {out : RunResult π} {S S' : Services}

-- What the reply to Run's result does: at most one PublishRaw, of the bytes the
-- switch gives an unerred result.
structure Reply (codecs : Codecs π) (cc : ClientConfig) (payload : π) (out : RunResult π) (S S' : Services) : Prop where
  store : S'.store = S.store
  clients : S'.clients = S.clients
  published : S'.published = S.published ∨ ∃ b, out.err = none ∧ publication codecs payload out = some (.ok b) ∧
    S'.published = S.published ++ [(cc.trigger.target.snsArn,b)]

theorem Reply.silent : Reply codecs cc payload out S S := ⟨rfl,rfl,.inl rfl⟩

theorem Reply.rebase {M : Services} (reply : Reply codecs cc payload out M S') (store : M.store = S.store)
    (clients : M.clients = S.clients) (published : M.published = S.published) : Reply codecs cc payload out S S' := by
  refine ⟨reply.store.trans store,reply.clients.trans clients,?_⟩
  rw [← published]
  exact reply.published

theorem Reply.publishing {α : Type} {b : Bytes} {k : Except String Unit → ServiceProg α} {x : α}
    (unerred : out.err = none) (published : publication codecs payload out = some (.ok b))
    (settles : ∀ r, ∃ y, k r = .pure y)
    (path : Runs servicesAnswers (.call (.publishRaw cc.trigger.target.snsArn b) k) S x S') :
    Reply codecs cc payload out S S' := by
  obtain ⟨r,m,answered,rest⟩ := runs_call_inv path
  obtain ⟨y,answer⟩ := settles r
  rw [answer] at rest
  obtain ⟨-,rfl⟩ := runs_pure_inv rest
  simp only [servicesAnswers] at answered
  subst answered
  exact ⟨rfl,rfl,.inr ⟨b,unerred,published,rfl⟩⟩

theorem respondHttp_reply {resp : Response} (path : Runs servicesAnswers (respondHttp codecs cc payload out) S resp S') :
    Reply codecs cc payload out S S' := by
  unfold respondHttp at path
  split at path
  · obtain ⟨-,rfl⟩ := runs_pure_inv path
    exact .silent
  rename_i unerred
  split at path
  · obtain ⟨-,rfl⟩ := runs_pure_inv path
    exact .silent
  · obtain ⟨-,rfl⟩ := runs_pure_inv path
    exact .silent
  · rename_i b published
    exact .publishing unerred published (fun r => by rcases r with _ | _ <;> exact ⟨_,rfl⟩) path

theorem respondSqs_reply {res : Option String} (path : Runs servicesAnswers (respondSqs codecs cc payload out) S res S') :
    Reply codecs cc payload out S S' := by
  unfold respondSqs at path
  split at path
  · obtain ⟨-,rfl⟩ := runs_pure_inv path
    exact .silent
  rename_i unerred
  dsimp only at path
  split at path
  · obtain ⟨-,rfl⟩ := runs_pure_inv path
    exact .silent
  · obtain ⟨-,rfl⟩ := runs_pure_inv path
    exact .silent
  · rename_i b published
    exact .publishing unerred published (fun r => by rcases r with _ | _ <;> exact ⟨_,rfl⟩) path

theorem Reply.quiet (reply : Reply codecs cc payload out S S') (noop : out.action = .noOp) : S'.published = S.published := by
  rcases reply.published with same | ⟨b,_,published,_⟩
  · exact same
  · simp [publication,noop] at published

theorem publication_publishing {b : Except String Bytes} (published : publication codecs payload out = some b)
    (onEdge : out.action ≠ .forwardedAsIs) : Publishing out.action := by
  unfold publication at published
  cases action : out.action <;> simp_all [Publishing]

end

def ReadsPayload (codecs : Codecs π) (r : HttpRequest) (payload : π) : Prop :=
  ∃ raw, r.body = .ok raw ∧ raw.take bodyLimit ≠ [] ∧ codecs.json.unmarshal (raw.take bodyLimit) = .ok payload

section
variable {codecs : Codecs π} {now : Int} {S S' : Services}

theorem ReadsPayload.unique {r : HttpRequest} {p q : π} (first : ReadsPayload codecs r p) (second : ReadsPayload codecs r q) :
    p = q := by
  obtain ⟨raw,body,_,parsed⟩ := first
  obtain ⟨raw',body',_,parsed'⟩ := second
  rw [body,Except.ok.injEq] at body'
  subst body'
  exact Except.ok.inj (parsed.symm.trans parsed')

theorem quiet_of_pure {α : Type} {x v : α} (path : Runs servicesAnswers (.pure v) S x S') : Quiet S S' := by
  obtain ⟨-,rfl⟩ := runs_pure_inv path
  exact .refl _

-- A run of handleNotify that passed every check before Run.
def NotifyReachedRun (codecs : Codecs π) (now : Int) (r : HttpRequest) (cc : ClientConfig) (payload : π) (S : Services)
    (out : RunResult π) (resp : Response) (S' : Services) : Prop :=
  S.clients (r.header clientIDHdrName) = .ok cc ∧ auth cc (r.header clientIDHdrName) (r.header clientKeyHdrName) = none ∧
    ReadsPayload codecs r payload ∧ ∃ M : Services,
      Runs storeAnswers (run codecs.json codecs.zstd codecs.search (r.header clientIDHdrName) (clientIP r) cc payload now)
        S.store out M.store ∧ M.clients = S.clients ∧ M.published = S.published ∧
      Runs servicesAnswers (respondHttp codecs cc payload out) M resp S'

def MessageReachedRun (codecs : Codecs π) (now : Int) (m : SqsMessage) (cc : ClientConfig) (payload : π) (S : Services)
    (out : RunResult π) (res : Option String) (S' : Services) : Prop :=
  ∃ attrs, extractMessageAttributes m = .ok attrs ∧ S.clients attrs.clientID = .ok cc ∧
    auth cc attrs.clientID attrs.clientKey = none ∧ codecs.json.unmarshal m.body = .ok payload ∧ ∃ M : Services,
      Runs storeAnswers (run codecs.json codecs.zstd codecs.search attrs.clientID attrs.clientIP cc payload now)
        S.store out M.store ∧ M.clients = S.clients ∧ M.published = S.published ∧
      Runs servicesAnswers (respondSqs codecs cc payload out) M res S'

theorem handleNotify_cases {r : HttpRequest} {resp : Response}
    (path : Runs servicesAnswers (handleNotify codecs now r) S resp S') :
    Quiet S S' ∧ (resp.status = 405 ∨ resp.status = 401 ∨ resp.status = statusBadRequest) ∨
      ∃ cc payload out, NotifyReachedRun codecs now r cc payload S out resp S' := by
  unfold handleNotify at path
  split at path
  · obtain ⟨rfl,rfl⟩ := runs_pure_inv path
    exact .inl ⟨.refl _,.inl rfl⟩
  obtain ⟨loaded,L,loading,rest⟩ := runs_of_bind path
  rcases loaded with err | cc
  · obtain ⟨rfl,rfl⟩ := runs_pure_inv rest
    exact .inl ⟨(loadConfig_runs loading).1,.inr (.inl rfl)⟩
  obtain ⟨quiet,config⟩ := loadConfig_runs_ok loading
  dsimp only at rest
  split at rest
  · obtain ⟨rfl,rfl⟩ := runs_pure_inv rest
    exact .inl ⟨quiet,.inr (.inl rfl)⟩
  rename_i authed
  split at rest
  · obtain ⟨rfl,rfl⟩ := runs_pure_inv rest
    exact .inl ⟨quiet,.inr (.inr rfl)⟩
  rename_i raw body
  split at rest
  · obtain ⟨rfl,rfl⟩ := runs_pure_inv rest
    exact .inl ⟨quiet,.inr (.inr rfl)⟩
  rename_i nonempty
  split at rest
  · obtain ⟨rfl,rfl⟩ := runs_pure_inv rest
    exact .inl ⟨quiet,.inr (.inr rfl)⟩
  rename_i payload parsed
  obtain ⟨out,M,running,replying⟩ := runs_of_bind rest
  obtain ⟨stored,clients,published⟩ := toService_runs running
  rw [quiet.store] at stored
  exact .inr ⟨cc,payload,out,config,authed,⟨raw,body,nonempty,parsed⟩,M,stored,clients.trans quiet.clients,
    published.trans quiet.published,replying⟩

theorem handleNotify_runs {r : HttpRequest} {resp : Response}
    (path : Runs servicesAnswers (handleNotify codecs now r) S resp S') :
    Quiet S S' ∨ ∃ cc payload out store, S.clients (r.header clientIDHdrName) = .ok cc ∧ ReadsPayload codecs r payload ∧
      Runs storeAnswers (run codecs.json codecs.zstd codecs.search (r.header clientIDHdrName) (clientIP r) cc payload now)
        S.store out store ∧
      Reply codecs cc payload out {S with store:=store} S' := by
  rcases handleNotify_cases path with ⟨quiet,-⟩ | ⟨cc,payload,out,config,-,reads,M,stored,clients,published,replying⟩
  · exact .inl quiet
  · exact .inr ⟨cc,payload,out,M.store,config,reads,stored,(respondHttp_reply replying).rebase rfl clients published⟩

theorem extractMessageAttributes_clientID {m : SqsMessage} {attrs : MessageAttributes}
    (extracted : extractMessageAttributes m = .ok attrs) : attrs.clientID = (m.attributes clientIDHdrName).getD "" := by
  unfold extractMessageAttributes at extracted
  dsimp only at extracted
  split_ifs at extracted
  cases extracted
  rfl

theorem processMessage_cases {m : SqsMessage} {res : Option String}
    (path : Runs servicesAnswers (processMessage codecs now m) S res S') :
    Quiet S S' ∧ res.isSome ∨ ∃ cc payload out, MessageReachedRun codecs now m cc payload S out res S' := by
  unfold processMessage at path
  split at path
  · obtain ⟨rfl,rfl⟩ := runs_pure_inv path
    exact .inl ⟨.refl _,rfl⟩
  rename_i attrs extracted
  obtain ⟨loaded,L,loading,rest⟩ := runs_of_bind path
  rcases loaded with err | cc
  · obtain ⟨rfl,rfl⟩ := runs_pure_inv rest
    exact .inl ⟨(loadConfig_runs loading).1,rfl⟩
  obtain ⟨quiet,config⟩ := loadConfig_runs_ok loading
  dsimp only at rest
  split at rest
  · obtain ⟨rfl,rfl⟩ := runs_pure_inv rest
    exact .inl ⟨quiet,rfl⟩
  rename_i authed
  split at rest
  · obtain ⟨rfl,rfl⟩ := runs_pure_inv rest
    exact .inl ⟨quiet,rfl⟩
  rename_i payload parsed
  obtain ⟨out,M,running,replying⟩ := runs_of_bind rest
  obtain ⟨stored,clients,published⟩ := toService_runs running
  rw [quiet.store] at stored
  exact .inr ⟨cc,payload,out,attrs,extracted,config,authed,parsed,M,stored,clients.trans quiet.clients,
    published.trans quiet.published,replying⟩

theorem processMessage_runs {m : SqsMessage} {res : Option String}
    (path : Runs servicesAnswers (processMessage codecs now m) S res S') :
    Quiet S S' ∨ ∃ attrs cc payload out store, extractMessageAttributes m = .ok attrs ∧ S.clients attrs.clientID = .ok cc ∧
      codecs.json.unmarshal m.body = .ok payload ∧
      Runs storeAnswers (run codecs.json codecs.zstd codecs.search attrs.clientID attrs.clientIP cc payload now) S.store out store ∧
      Reply codecs cc payload out {S with store:=store} S' := by
  rcases processMessage_cases path with ⟨quiet,-⟩ | ⟨cc,payload,out,attrs,extracted,config,-,parsed,M,stored,clients,published,replying⟩
  · exact .inl quiet
  · exact .inr ⟨attrs,cc,payload,out,M.store,extracted,config,parsed,stored,(respondSqs_reply replying).rebase rfl clients published⟩

end

def handleAll (codecs : Codecs π) : List (Int × HttpRequest) → Services → List Response × Services
  | [],S => ([],S)
  | (now,r) :: rest,S =>
    let first := (handleNotify codecs now r).run servicesAnswer S
    let later := handleAll codecs rest first.2
    (first.1 :: later.1,later.2)

theorem handleAll_runs (codecs : Codecs π) (requests : List (Int × HttpRequest)) (S : Services) :
    RunsSeq servicesAnswers (requests.map fun q => handleNotify codecs q.1 q.2) S (handleAll codecs requests S).2 := by
  induction requests generalizing S with
  | nil => exact .nil
  | cons q rest ih =>
    obtain ⟨now,r⟩ := q
    exact .cons (runs_of_answer servicesAnswer_answers _ S) (ih _)

theorem handleAll_runsList (codecs : Codecs π) (requests : List (Int × HttpRequest)) (S : Services) :
    RunsList servicesAnswers (requests.map fun q => handleNotify codecs q.1 q.2) S (handleAll codecs requests S).1
      (handleAll codecs requests S).2 := by
  induction requests generalizing S with
  | nil => exact .nil
  | cons q rest ih =>
    obtain ⟨now,r⟩ := q
    exact .cons (runs_of_answer servicesAnswer_answers _ S) (ih _)

-- A payload that is the body's text; its field state is the text itself.
def textCodecs : Codecs String where
  json := ⟨fun p => .ok (utf8Bytes p),fun b => .ok (String.ofList (b.map fun x => Char.ofNat x.toNat))⟩
  aggregateJson := fun _ => .ok []
  zstd := plainZstd
  search := fun expression p =>
    if expression = "state" then .ok (.string p) else if expression = "pass" then .ok (.boolean (p == "pass")) else .ok .null

-- One SNS publish a minute for the field state; no IP or client limit.
def stateConfig : ClientConfig := ⟨"c1","client one","key12345",0,0,⟨"",false⟩,⟨"state",⟨"arn:target",1⟩,none⟩⟩

def notifyRequest (body : String) : HttpRequest where
  method := "POST"
  header := fun name => if name = clientIDHdrName then "c1" else if name = clientKeyHdrName then "key12345" else ""
  remoteAddr := "10.0.0.1:5000"
  body := .ok (utf8Bytes body)

def passConfig : ClientConfig := {stateConfig with passthrough:=⟨"pass",false⟩}

def unwatchedConfig : ClientConfig := {stateConfig with trigger:={stateConfig.trigger with fieldExpr:=""}}

def freshServices (cc : ClientConfig) : Services := ⟨emptyStore,(∅ : Registry).insert "c1" cc,newTTL,0,[]⟩

-- The edge holds off and the target's one slot of the minute is taken.
def limitedServices : Services where
  store := ⟨fun key => if key = ("c1",computeKey "state") then some ({lastValue:="off"},1) else none,fun _ => 1⟩
  registry := (∅ : Registry).insert "c1" stateConfig
  cache := newTTL
  clock := 0
  published := []

section
variable {json : JsonCodec π} {zstd : Zstd} {search : Search π} {clientID clientIP : String} {cc : ClientConfig}
  {payload : π} {now : Int} {P : RunResult π → Prop}

-- The target limit's outcomes on the evaluation's result o: o itself, its
-- check failing on a publishing action, or its refusal.
theorem targetLimit_yields {o : RunResult π} (passed : P o)
    (failed : Publishing o.action → P {o with statusCode:=statusInternalServerError,err:=some "rate limit check failed"})
    (refused : P {o with action:=.noOp,statusCode:=statusTooManyRequests}) : Yields P (targetLimit cc clientID o) := by
  unfold targetLimit
  split
  · rename_i limited
    refine .call fun r => ?_
    rcases r with e | _ | _
    · exact .pure (failed limited.1)
    · exact .pure refused
    · exact .pure passed
  · exact .pure passed

theorem rateLimit_yields {rpm : Int} {scope refusal : String} {rest : StoreProg (RunResult π)}
    (limited : ∀ err, P ⟨.noOp,statusAccepted,.request payload,some err⟩) (later : Yields P rest) :
    Yields P (rateLimit rpm scope refusal payload rest) := by
  unfold rateLimit
  split
  · refine .call fun r => ?_
    rcases r with e | _ | _
    · exact .pure (limited _)
    · exact .pure (limited _)
    · exact later
  · exact later

-- What Run can return, by where it ends: a rate limit, a forward as is, the
-- trigger's evaluation, the edge's evaluation, or the target limit.
theorem run_yields (limited : ∀ err, P ⟨.noOp,statusAccepted,.request payload,some err⟩)
    (forwarded : P ⟨.forwardedAsIs,statusAccepted,.request payload,none⟩)
    (unreadable : P ⟨.noOp,statusBadRequest,.request payload,some "trigger field eval error"⟩)
    (unevaluated : ∀ action aggregate, P ⟨action,statusInternalServerError,.evaluated aggregate,some "edge evaluation error"⟩)
    (target : ∀ o : RunResult π, o.err = none → o.statusCode = statusAccepted → Yields P (targetLimit cc clientID o)) :
    Yields P (run json zstd search clientID clientIP cc payload now) := by
  have dispatched : Yields P (dispatchTrigger json zstd search clientID cc payload now) := by
    unfold dispatchTrigger
    split
    · exact .pure forwarded
    split
    · exact .pure forwarded
    split
    · exact .pure unreadable
    · unfold evaluateTrigger
      split
      · exact target _ rfl rfl
      · refine Yields.bind fun ev => ?_
        split
        · exact .pure (unevaluated _ _)
        · exact target _ rfl rfl
  exact rateLimit_yields limited (rateLimit_yields limited dispatched)

end

-- Only the target limit's refusal answers 429.
def TargetRefusal (out : RunResult π) : Prop :=
  out.statusCode = statusTooManyRequests → out.action = .noOp ∧ out.err = none

-- Only the target limit's failed check answers 500 with its text, and only on
-- a publishing action.
def TargetFailure (out : RunResult π) : Prop :=
  out.statusCode = statusInternalServerError → out.err = some "rate limit check failed" → Publishing out.action

section
variable {json : JsonCodec π} {zstd : Zstd} {search : Search π} {clientID clientIP : String} {cc : ClientConfig}
  {payload : π} {now : Int}

theorem run_refusal : Yields TargetRefusal (run json zstd search clientID clientIP cc payload now) := by
  have accepted : statusAccepted ≠ statusTooManyRequests := by decide
  have badRequest : statusBadRequest ≠ statusTooManyRequests := by decide
  have internal : statusInternalServerError ≠ statusTooManyRequests := by decide
  refine run_yields (fun _ status => (accepted status).elim) (fun status => (accepted status).elim)
    (fun status => (badRequest status).elim) (fun _ _ status => (internal status).elim)
    fun o unerred early => targetLimit_yields (fun status => (accepted (early.symm.trans status)).elim)
      (fun _ status => (internal status).elim) fun _ => ⟨rfl,unerred⟩

theorem run_targetFailure : Yields TargetFailure (run json zstd search clientID clientIP cc payload now) := by
  have accepted : statusAccepted ≠ statusInternalServerError := by decide
  have badRequest : statusBadRequest ≠ statusInternalServerError := by decide
  have evaluation : (some "edge evaluation error" : Option String) ≠ some "rate limit check failed" := by decide
  refine run_yields (fun _ status => (accepted status).elim) (fun _ erred => nomatch erred)
    (fun status => (badRequest status).elim) (fun _ _ _ erred => (evaluation erred).elim)
    fun o unerred _ => targetLimit_yields (fun _ erred => absurd (unerred.symm.trans erred) (by simp))
      (fun publishing _ _ => publishing) fun _ erred => absurd (unerred.symm.trans erred) (by simp)

end

section
variable {codecs : Codecs π} {cc : ClientConfig} {payload : π} {out : RunResult π} {S S' : Services}

theorem respondHttp_json {status : Nat} {text : String}
    (path : Runs servicesAnswers (respondHttp codecs cc payload out) S (.json status text) S') :
    status = out.statusCode ∨ status = statusAccepted := by
  unfold respondHttp at path
  split at path
  · cases (runs_pure_inv path).1
  split at path
  · cases (runs_pure_inv path).1
    exact .inl rfl
  · cases (runs_pure_inv path).1
  · obtain ⟨published,m,-,next⟩ := runs_call_inv path
    cases published with
    | error e => cases (runs_pure_inv next).1
    | ok u =>
      cases (runs_pure_inv next).1
      exact .inr rfl

-- The reply's own 500s carry their own texts; any other error text is Run's.
theorem respondHttp_error {status : Nat} {text : String}
    (path : Runs servicesAnswers (respondHttp codecs cc payload out) S (.error status text) S')
    (own : text ≠ "failed to marshal payload" ∧ text ≠ "failed to publish") :
    out.statusCode = status ∧ out.err = some text ∧ S' = S := by
  unfold respondHttp at path
  split at path
  · rename_i err erred
    obtain ⟨same,rfl⟩ := runs_pure_inv path
    cases same
    exact ⟨rfl,erred,rfl⟩
  split at path
  · cases (runs_pure_inv path).1
  · cases (runs_pure_inv path).1
    exact absurd rfl own.1
  · obtain ⟨published,m,-,next⟩ := runs_call_inv path
    cases published with
    | error e =>
      cases (runs_pure_inv next).1
      exact absurd rfl own.2
    | ok u => cases (runs_pure_inv next).1

theorem respondSqs_noOp {res : Option String} (unerred : out.err = none) (noop : out.action = .noOp)
    (path : Runs servicesAnswers (respondSqs codecs cc payload out) S res S') : res = none := by
  have silent : publication codecs payload out = none := by simp [publication,noop]
  unfold respondSqs at path
  rw [unerred] at path
  dsimp only at path
  rw [silent] at path
  exact (runs_pure_inv path).1

end

section
variable {codecs : Codecs π} {cc : ClientConfig} {payload : π} {v : String} {now : Int} {S S' : Services}
  (unmatched : checkPassthrough codecs.search cc.passthrough payload = false) (watched : cc.trigger.fieldExpr ≠ "")
  (triggered : evalString codecs.search cc.trigger.fieldExpr payload = .ok (some v))
include unmatched watched triggered

theorem run_tooMany {clientID clientIP : String} {s s' : StoreState} {out : RunResult π}
    (path : Runs storeAnswers (run codecs.json codecs.zstd codecs.search clientID clientIP cc payload now) s out s')
    (status : out.statusCode = statusTooManyRequests) :
    out.action = .noOp ∧ out.err = none ∧ Holds v (s'.edges (clientID,computeKey cc.trigger.fieldExpr)) := by
  obtain ⟨noop,unerred⟩ := runs_yields run_refusal path status
  exact ⟨noop,unerred,(run_edge unmatched watched triggered path).committed (.inr status)⟩

theorem run_targetFailed {clientID clientIP : String} {s s' : StoreState} {out : RunResult π}
    (path : Runs storeAnswers (run codecs.json codecs.zstd codecs.search clientID clientIP cc payload now) s out s')
    (status : out.statusCode = statusInternalServerError) (erred : out.err = some "rate limit check failed") :
    Holds v (s'.edges (clientID,computeKey cc.trigger.fieldExpr)) :=
  (run_edge unmatched watched triggered path).committed (.inl (runs_yields run_targetFailure path status erred))

theorem reply_commits {clientID clientIP : String} {out : RunResult π} {store : StoreState}
    (running : Runs storeAnswers (run codecs.json codecs.zstd codecs.search clientID clientIP cc payload now) S.store out store)
    (reply : Reply codecs cc payload out {S with store:=store} S') (calls : S'.published ≠ S.published) :
    Holds v (S'.store.edges (clientID,computeKey cc.trigger.fieldExpr)) := by
  rcases reply.published with same | ⟨b,_,published,_⟩
  · exact absurd same calls
  rw [reply.store]
  exact (run_edge unmatched watched triggered running).committed
    (.inl (publication_publishing published (run_onEdge unmatched watched running)))

theorem handleNotify_commits {r : HttpRequest} {resp : Response} (configured : S.clients (r.header clientIDHdrName) = .ok cc)
    (reads : ReadsPayload codecs r payload) (path : Runs servicesAnswers (handleNotify codecs now r) S resp S')
    (calls : S'.published ≠ S.published) : Holds v (S'.store.edges (r.header clientIDHdrName,computeKey cc.trigger.fieldExpr)) := by
  rcases handleNotify_runs path with quiet | ⟨cc',payload',out,store,loaded,reads',running,reply⟩
  · exact absurd quiet.published calls
  obtain rfl : cc' = cc := Except.ok.inj (loaded.symm.trans configured)
  obtain rfl : payload' = payload := reads'.unique reads
  exact reply_commits unmatched watched triggered running reply calls

theorem handleNotify_retry {r : HttpRequest} {resp : Response} (configured : S.clients (r.header clientIDHdrName) = .ok cc)
    (reads : ReadsPayload codecs r payload) (held : Holds v (S.store.edges (r.header clientIDHdrName,computeKey cc.trigger.fieldExpr)))
    (path : Runs servicesAnswers (handleNotify codecs now r) S resp S') : S'.published = S.published := by
  rcases handleNotify_runs path with quiet | ⟨cc',payload',out,store,loaded,reads',running,reply⟩
  · exact quiet.published
  obtain rfl : cc' = cc := Except.ok.inj (loaded.symm.trans configured)
  obtain rfl : payload' = payload := reads'.unique reads
  exact reply.quiet ((run_edge unmatched watched triggered running).stable held)

theorem handleNotify_tooMany {r : HttpRequest} {text : String} (configured : S.clients (r.header clientIDHdrName) = .ok cc)
    (reads : ReadsPayload codecs r payload)
    (path : Runs servicesAnswers (handleNotify codecs now r) S (.json statusTooManyRequests text) S') :
    S'.published = S.published ∧ S'.clients = S.clients ∧
      Holds v (S'.store.edges (r.header clientIDHdrName,computeKey cc.trigger.fieldExpr)) := by
  rcases handleNotify_cases path with ⟨-,early⟩ | ⟨cc',payload',out,loaded,-,reads',M,stored,clients,published,replying⟩
  · simp [Response.status,statusTooManyRequests,statusBadRequest] at early
  obtain rfl : cc' = cc := Except.ok.inj (loaded.symm.trans configured)
  obtain rfl : payload' = payload := reads'.unique reads
  have status : out.statusCode = statusTooManyRequests := by
    rcases respondHttp_json replying with same | accepted
    · exact same.symm
    · exact absurd accepted (by decide)
  obtain ⟨noop,-,held⟩ := run_tooMany unmatched watched triggered stored status
  have reply := respondHttp_reply replying
  refine ⟨(reply.quiet noop).trans published,reply.clients.trans clients,?_⟩
  rw [reply.store]
  exact held

theorem handleNotify_targetFailed {r : HttpRequest} (configured : S.clients (r.header clientIDHdrName) = .ok cc)
    (reads : ReadsPayload codecs r payload)
    (path : Runs servicesAnswers (handleNotify codecs now r) S (.error statusInternalServerError "rate limit check failed") S') :
    S'.published = S.published ∧ S'.clients = S.clients ∧
      Holds v (S'.store.edges (r.header clientIDHdrName,computeKey cc.trigger.fieldExpr)) := by
  rcases handleNotify_cases path with ⟨-,early⟩ | ⟨cc',payload',out,loaded,-,reads',M,stored,clients,published,replying⟩
  · simp [Response.status,statusInternalServerError,statusBadRequest] at early
  obtain rfl : cc' = cc := Except.ok.inj (loaded.symm.trans configured)
  obtain rfl : payload' = payload := reads'.unique reads
  obtain ⟨status,erred,rfl⟩ := respondHttp_error replying ⟨by decide,by decide⟩
  exact ⟨published,clients,run_targetFailed unmatched watched triggered stored status erred⟩

theorem processMessage_commits {m : SqsMessage} {clientID : String} {res : Option String}
    (named : m.attributes clientIDHdrName = some clientID) (configured : S.clients clientID = .ok cc)
    (parsed : codecs.json.unmarshal m.body = .ok payload) (path : Runs servicesAnswers (processMessage codecs now m) S res S')
    (calls : S'.published ≠ S.published) : Holds v (S'.store.edges (clientID,computeKey cc.trigger.fieldExpr)) := by
  rcases processMessage_runs path with quiet | ⟨attrs,cc',payload',out,store,extracted,loaded,parsed',running,reply⟩
  · exact absurd quiet.published calls
  have named' : attrs.clientID = clientID := by rw [extractMessageAttributes_clientID extracted,named,Option.getD_some]
  subst named'
  obtain rfl : cc' = cc := Except.ok.inj (loaded.symm.trans configured)
  obtain rfl : payload' = payload := Except.ok.inj (parsed'.symm.trans parsed)
  exact reply_commits unmatched watched triggered running reply calls

theorem processMessage_retry {m : SqsMessage} {clientID : String} {res : Option String}
    (named : m.attributes clientIDHdrName = some clientID) (configured : S.clients clientID = .ok cc)
    (parsed : codecs.json.unmarshal m.body = .ok payload) (held : Holds v (S.store.edges (clientID,computeKey cc.trigger.fieldExpr)))
    (path : Runs servicesAnswers (processMessage codecs now m) S res S') : S'.published = S.published := by
  rcases processMessage_runs path with quiet | ⟨attrs,cc',payload',out,store,extracted,loaded,parsed',running,reply⟩
  · exact quiet.published
  have named' : attrs.clientID = clientID := by rw [extractMessageAttributes_clientID extracted,named,Option.getD_some]
  subst named'
  obtain rfl : cc' = cc := Except.ok.inj (loaded.symm.trans configured)
  obtain rfl : payload' = payload := Except.ok.inj (parsed'.symm.trans parsed)
  exact reply.quiet ((run_edge unmatched watched triggered running).stable held)

theorem messageReachedRun_tooMany {m : SqsMessage} {clientID : String} {out : RunResult π} {res : Option String}
    (named : m.attributes clientIDHdrName = some clientID) (reached : MessageReachedRun codecs now m cc payload S out res S')
    (status : out.statusCode = statusTooManyRequests) :
    res = none ∧ S'.published = S.published ∧ S'.clients clientID = .ok cc ∧ codecs.json.unmarshal m.body = .ok payload ∧
      Holds v (S'.store.edges (clientID,computeKey cc.trigger.fieldExpr)) := by
  obtain ⟨attrs,extracted,config,-,parsed,M,stored,clients,published,replying⟩ := reached
  have named' : attrs.clientID = clientID := by rw [extractMessageAttributes_clientID extracted,named,Option.getD_some]
  subst named'
  obtain ⟨noop,unerred,held⟩ := run_tooMany unmatched watched triggered stored status
  have reply := respondSqs_reply replying
  refine ⟨respondSqs_noOp unerred noop replying,(reply.quiet noop).trans published,?_,parsed,?_⟩
  · rw [reply.clients,clients]
    exact config
  · rw [reply.store]
    exact held

theorem messageReachedRun_targetFailed {m : SqsMessage} {clientID : String} {out : RunResult π} {res : Option String}
    (named : m.attributes clientIDHdrName = some clientID) (reached : MessageReachedRun codecs now m cc payload S out res S')
    (status : out.statusCode = statusInternalServerError) (erred : out.err = some "rate limit check failed") :
    res.isSome ∧ S'.published = S.published ∧ S'.clients clientID = .ok cc ∧ codecs.json.unmarshal m.body = .ok payload ∧
      Holds v (S'.store.edges (clientID,computeKey cc.trigger.fieldExpr)) := by
  obtain ⟨attrs,extracted,config,-,parsed,M,stored,clients,published,replying⟩ := reached
  have named' : attrs.clientID = clientID := by rw [extractMessageAttributes_clientID extracted,named,Option.getD_some]
  subst named'
  have held := run_targetFailed unmatched watched triggered stored status erred
  -- Run's error is the message's failure, reported before any publish
  unfold respondSqs at replying
  rw [erred] at replying
  obtain ⟨rfl,rfl⟩ := runs_pure_inv replying
  exact ⟨rfl,published,(congrFun clients _).trans config,parsed,held⟩

end

-- The target limit's refusal comes after Run has committed the edge, and a retry
-- from the state left publishes nothing.
theorem committed_edge_silences_retry (codecs : Codecs π) (cc : ClientConfig) (payload : π) (v : String)
    (unmatched : checkPassthrough codecs.search cc.passthrough payload = false) (watched : cc.trigger.fieldExpr ≠ "")
    (triggered : evalString codecs.search cc.trigger.fieldExpr payload = .ok (some v)) :
    (∀ clientID clientIP now (s s' : StoreState) (out : RunResult π),
      Runs storeAnswers (run codecs.json codecs.zstd codecs.search clientID clientIP cc payload now) s out s' →
      out.statusCode = statusTooManyRequests →
        out.action = .noOp ∧ out.err = none ∧ Holds v (s'.edges (clientID,computeKey cc.trigger.fieldExpr))) ∧
    (∀ now (r : HttpRequest) (S S' : Services) (text : String),
      S.clients (r.header clientIDHdrName) = .ok cc → ReadsPayload codecs r payload →
      Runs servicesAnswers (handleNotify codecs now r) S (.json statusTooManyRequests text) S' →
      S'.published = S.published ∧ Holds v (S'.store.edges (r.header clientIDHdrName,computeKey cc.trigger.fieldExpr)) ∧
      ∀ now' (S'' : Services) (resp : Response), Runs servicesAnswers (handleNotify codecs now' r) S' resp S'' →
        S''.published = S'.published) ∧
    (∀ now (m : SqsMessage) clientID (S S' : Services) (out : RunResult π) (res : Option String),
      m.attributes clientIDHdrName = some clientID → MessageReachedRun codecs now m cc payload S out res S' →
      out.statusCode = statusTooManyRequests →
      res = none ∧ S'.published = S.published ∧ Holds v (S'.store.edges (clientID,computeKey cc.trigger.fieldExpr)) ∧
      ∀ now' (S'' : Services) (res' : Option String), Runs servicesAnswers (processMessage codecs now' m) S' res' S'' →
        S''.published = S'.published) := by
  refine ⟨fun clientID clientIP now s s' out path status => run_tooMany unmatched watched triggered path status,
    fun now r S S' text configured reads path => ?_,fun now m clientID S S' out res named reached status => ?_⟩
  · obtain ⟨published,clients,held⟩ := handleNotify_tooMany unmatched watched triggered configured reads path
    refine ⟨published,held,fun now' S'' resp retry => ?_⟩
    exact handleNotify_retry unmatched watched triggered ((congrFun clients _).trans configured) reads held retry
  · obtain ⟨acked,published,configured,parsed,held⟩ := messageReachedRun_tooMany unmatched watched triggered named reached status
    exact ⟨acked,published,held,fun now' S'' res' retry => processMessage_retry unmatched watched triggered named configured parsed held retry⟩

theorem committed_edge_silences_retry_on_state :
    checkPassthrough textCodecs.search stateConfig.passthrough "on" = false ∧ stateConfig.trigger.fieldExpr ≠ "" ∧
      evalString textCodecs.search stateConfig.trigger.fieldExpr "on" = .ok (some "on") ∧
    (∀ clientID clientIP now (s s' : StoreState) (out : RunResult String),
      Runs storeAnswers (run textCodecs.json textCodecs.zstd textCodecs.search clientID clientIP stateConfig "on" now) s out s' →
      out.statusCode = statusTooManyRequests →
        out.action = .noOp ∧ out.err = none ∧ Holds "on" (s'.edges (clientID,computeKey stateConfig.trigger.fieldExpr))) ∧
    (∀ now (r : HttpRequest) (S S' : Services) (text : String),
      S.clients (r.header clientIDHdrName) = .ok stateConfig → ReadsPayload textCodecs r "on" →
      Runs servicesAnswers (handleNotify textCodecs now r) S (.json statusTooManyRequests text) S' →
      S'.published = S.published ∧
        Holds "on" (S'.store.edges (r.header clientIDHdrName,computeKey stateConfig.trigger.fieldExpr)) ∧
      ∀ now' (S'' : Services) (resp : Response), Runs servicesAnswers (handleNotify textCodecs now' r) S' resp S'' →
        S''.published = S'.published) ∧
    (∀ now (m : SqsMessage) clientID (S S' : Services) (out : RunResult String) (res : Option String),
      m.attributes clientIDHdrName = some clientID → MessageReachedRun textCodecs now m stateConfig "on" S out res S' →
      out.statusCode = statusTooManyRequests →
      res = none ∧ S'.published = S.published ∧ Holds "on" (S'.store.edges (clientID,computeKey stateConfig.trigger.fieldExpr)) ∧
      ∀ now' (S'' : Services) (res' : Option String), Runs servicesAnswers (processMessage textCodecs now' m) S' res' S'' →
        S''.published = S'.published) :=
  ⟨by decide,by decide,by decide,
    committed_edge_silences_retry textCodecs stateConfig "on" "on" (by decide) (by decide) (by decide)⟩

-- The edge flips to on, the target limit refuses the forward, and the retry
-- answers NoOp.
theorem refused_forward_is_committed :
    ((evaluateEdgeAndFlap textCodecs.json plainZstd "c1" (computeKey "state") "on" none "on" 0).run storeAnswer
        limitedServices.store).1.action = .edgeTriggeredForward ∧
      (handleAll textCodecs [(0,notifyRequest "on"),(1,notifyRequest "on")] limitedServices).1 =
        [.json statusTooManyRequests "no_op",.json statusAccepted "no_op"] ∧
      Holds "off" (limitedServices.store.edges ("c1",computeKey "state")) ∧
      Holds "on" ((handleAll textCodecs [(0,notifyRequest "on")] limitedServices).2.store.edges ("c1",computeKey "state")) ∧
      (handleAll textCodecs [(0,notifyRequest "on"),(1,notifyRequest "on")] limitedServices).2.published = [] := by
  decide

end Enoti
