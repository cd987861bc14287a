import Enoti.FrontEnd

namespace Enoti

-- A limit on a scope bounds the publishes of a minute when it counts every
-- publish Run lets through.

open Interaction

variable {π : Type}

def Paced (cc : ClientConfig) (clientID scope : String) (rate : Int) (S : Services) : Prop :=
  S.clients clientID = .ok cc ∧ (S.store.grants scope : Int) ≤ rate

theorem Quiet.paced {cc : ClientConfig} {clientID scope : String} {rate : Int} {S S' : Services} (quiet : Quiet S S')
    (paced : Paced cc clientID scope rate S) :
    Paced cc clientID scope rate S' ∧ S'.published.length + S.store.grants scope ≤ S.published.length + S'.store.grants scope := by
  unfold Paced
  rw [quiet.clients,quiet.store,quiet.published]
  exact ⟨paced,le_refl _⟩

structure Limits (codecs : Codecs π) (payload : π) (scope : String) (rate : Int) (counted : RunResult π → Prop)
    (s s' : StoreState) (out : RunResult π) : Prop extends ScopeStep scope rate counted s s' out where
  covers : out.err = none → ∀ b, publication codecs payload out = some (.ok b) → counted out

section
variable {codecs : Codecs π} {cc : ClientConfig} {clientID clientIP : String} {payload : π} {now : Int} {s s' : StoreState} {out : RunResult π}

theorem run_targetLimits (unmatched : checkPassthrough codecs.search cc.passthrough payload = false)
    (watched : cc.trigger.fieldExpr ≠ "")
    (path : Runs storeAnswers (run codecs.json codecs.zstd codecs.search clientID clientIP cc payload now) s out s') :
    Limits codecs payload (targetScope clientID cc.trigger.target.snsArn) cc.trigger.target.snsRPM Forwards s s' out where
  toScopeStep := run_grants unmatched watched path
  covers := fun unerred _ published => ⟨unerred,publication_publishing published (run_onEdge unmatched watched path)⟩

theorem run_clientLimits
    (path : Runs storeAnswers (run codecs.json codecs.zstd codecs.search clientID clientIP cc payload now) s out s') :
    Limits codecs payload ("CLIENT:" ++ clientID) cc.clientRPM (fun out => out.err = none) s s' out where
  toScopeStep := run_clientGrants path
  covers := fun unerred _ _ => unerred

end

section
variable {codecs : Codecs π} {cc : ClientConfig} {clientID scope : String} {rate : Int} {counted : RunResult π → Prop}
  {now : Int} {S S' : Services} (positive : 0 < rate)
include positive

-- The potential argument of one request: a publish takes a slot of the scope.
theorem reply_paced {payload : π} {out : RunResult π} {store : StoreState} (paced : Paced cc clientID scope rate S)
    (limits : Limits codecs payload scope rate counted S.store store out) (reply : Reply codecs cc payload out {S with store:=store} S') :
    Paced cc clientID scope rate S' ∧ S'.published.length + S.store.grants scope ≤ S.published.length + S'.store.grants scope := by
  have stored : S'.store = store := reply.store
  have clients : S'.clients = S.clients := reply.clients
  refine ⟨⟨by rw [clients]; exact paced.1,by rw [stored]; exact limits.bounded paced.2⟩,?_⟩
  rw [stored]
  rcases reply.published with same | ⟨b,unerred,published,grown⟩
  · have kept := limits.monotone
    have same : S'.published = S.published := same
    rw [same]
    omega
  · have taken := limits.granted (limits.covers unerred b published) positive
    have grown : S'.published = S.published ++ [(cc.trigger.target.snsArn,b)] := grown
    rw [grown,List.length_append,taken]
    simp only [List.length_singleton]
    omega

theorem handleNotify_paced {r : HttpRequest} {resp : Response} (forClient : r.header clientIDHdrName = clientID)
    (limited : ∀ {payload clientIP s s' out}, ReadsPayload codecs r payload →
      Runs storeAnswers (run codecs.json codecs.zstd codecs.search clientID clientIP cc payload now) s out s' →
      Limits codecs payload scope rate counted s s' out)
    (paced : Paced cc clientID scope rate S) (path : Runs servicesAnswers (handleNotify codecs now r) S resp S') :
    Paced cc clientID scope rate S' ∧ S'.published.length + S.store.grants scope ≤ S.published.length + S'.store.grants scope := by
  rcases handleNotify_runs path with quiet | ⟨cc',payload,out,store,loaded,reads,running,reply⟩
  · exact quiet.paced paced
  rw [forClient] at loaded running
  obtain rfl : cc' = cc := Except.ok.inj (loaded.symm.trans paced.1)
  exact reply_paced positive paced (limited reads running) reply

theorem processMessage_paced {m : SqsMessage} {res : Option String} (named : m.attributes clientIDHdrName = some clientID)
    (limited : ∀ {payload clientIP s s' out}, codecs.json.unmarshal m.body = .ok payload →
      Runs storeAnswers (run codecs.json codecs.zstd codecs.search clientID clientIP cc payload now) s out s' →
      Limits codecs payload scope rate counted s s' out)
    (paced : Paced cc clientID scope rate S) (path : Runs servicesAnswers (processMessage codecs now m) S res S') :
    Paced cc clientID scope rate S' ∧ S'.published.length + S.store.grants scope ≤ S.published.length + S'.store.grants scope := by
  rcases processMessage_runs path with quiet | ⟨attrs,cc',payload,out,store,extracted,loaded,parsed,running,reply⟩
  · exact quiet.paced paced
  have named' : attrs.clientID = clientID := by rw [extractMessageAttributes_clientID extracted,named,Option.getD_some]
  rw [named'] at loaded running
  obtain rfl : cc' = cc := Except.ok.inj (loaded.symm.trans paced.1)
  exact reply_paced positive paced (limited parsed running) reply

theorem runsSeq_published {α ι : Type} {program : ι → ServiceProg α} {items : List ι}
    (step : ∀ q ∈ items, ∀ S₀ x S₁, Paced cc clientID scope rate S₀ → Runs servicesAnswers (program q) S₀ x S₁ →
      Paced cc clientID scope rate S₁ ∧ S₁.published.length + S₀.store.grants scope ≤ S₀.published.length + S₁.store.grants scope)
    (configured : S.clients clientID = .ok cc) (fresh : S.store.grants scope = 0)
    (path : RunsSeq servicesAnswers (items.map program) S S') : (S'.published.length : Int) ≤ S.published.length + rate := by
  have start : Paced cc clientID scope rate S := ⟨configured,by rw [fresh]; omega⟩
  have mapped : ∀ p ∈ items.map program, ∀ S₀ x S₁, Paced cc clientID scope rate S₀ → Runs servicesAnswers p S₀ x S₁ →
      Paced cc clientID scope rate S₁ ∧ S₁.published.length + S₀.store.grants scope ≤ S₀.published.length + S₁.store.grants scope := by
    intro p mem
    obtain ⟨q,present,rfl⟩ := List.mem_map.1 mem
    exact step q present
  obtain ⟨final,counted⟩ := runsSeq_le mapped path start
  have bounded := final.2
  omega

end

theorem target_limit_bounds_evaluated_publishes (codecs : Codecs π) (cc : ClientConfig) (clientID : String)
    (watched : cc.trigger.fieldExpr ≠ "") (positive : 0 < cc.trigger.target.snsRPM) (S : Services)
    (configured : S.clients clientID = .ok cc) (fresh : S.store.grants (targetScope clientID cc.trigger.target.snsArn) = 0) :
    (∀ (requests : List (Int × HttpRequest)) (S' : Services),
      (∀ q ∈ requests, q.2.header clientIDHdrName = clientID ∧
        ∀ payload, ReadsPayload codecs q.2 payload → checkPassthrough codecs.search cc.passthrough payload = false) →
      RunsSeq servicesAnswers (requests.map fun q => handleNotify codecs q.1 q.2) S S' →
      (S'.published.length : Int) ≤ S.published.length + cc.trigger.target.snsRPM) ∧
    (∀ (messages : List (Int × SqsMessage)) (S' : Services),
      (∀ q ∈ messages, q.2.attributes clientIDHdrName = some clientID ∧
        ∀ payload, codecs.json.unmarshal q.2.body = .ok payload → checkPassthrough codecs.search cc.passthrough payload = false) →
      RunsSeq servicesAnswers (messages.map fun q => processMessage codecs q.1 q.2) S S' →
      (S'.published.length : Int) ≤ S.published.length + cc.trigger.target.snsRPM) := by
  refine ⟨fun requests S' valid path => ?_,fun messages S' valid path => ?_⟩
  · refine runsSeq_published positive (fun q present S₀ resp S₁ paced running => ?_) configured fresh path
    exact handleNotify_paced positive (valid q present).1
      (fun reads run => run_targetLimits ((valid q present).2 _ reads) watched run) paced running
  · refine runsSeq_published positive (fun q present S₀ res S₁ paced running => ?_) configured fresh path
    exact processMessage_paced positive (valid q present).1
      (fun parsed run => run_targetLimits ((valid q present).2 _ parsed) watched run) paced running

theorem target_limit_bounds_evaluated_publishes_on_state :
    stateConfig.trigger.fieldExpr ≠ "" ∧ 0 < stateConfig.trigger.target.snsRPM ∧
      (freshServices stateConfig).clients "c1" = .ok stateConfig ∧
      (freshServices stateConfig).store.grants (targetScope "c1" stateConfig.trigger.target.snsArn) = 0 ∧
    (∀ (requests : List (Int × HttpRequest)) (S' : Services),
      (∀ q ∈ requests, q.2.header clientIDHdrName = "c1" ∧
        ∀ payload, ReadsPayload textCodecs q.2 payload → checkPassthrough textCodecs.search stateConfig.passthrough payload = false) →
      RunsSeq servicesAnswers (requests.map fun q => handleNotify textCodecs q.1 q.2) (freshServices stateConfig) S' →
      (S'.published.length : Int) ≤ (freshServices stateConfig).published.length + stateConfig.trigger.target.snsRPM) ∧
    (∀ (messages : List (Int × SqsMessage)) (S' : Services),
      (∀ q ∈ messages, q.2.attributes clientIDHdrName = some "c1" ∧
        ∀ payload, textCodecs.json.unmarshal q.2.body = .ok payload →
          checkPassthrough textCodecs.search stateConfig.passthrough payload = false) →
      RunsSeq servicesAnswers (messages.map fun q => processMessage textCodecs q.1 q.2) (freshServices stateConfig) S' →
      (S'.published.length : Int) ≤ (freshServices stateConfig).published.length + stateConfig.trigger.target.snsRPM) :=
  ⟨by decide,by decide,rfl,rfl,
    target_limit_bounds_evaluated_publishes textCodecs stateConfig "c1" (by decide) (by decide) _ rfl rfl⟩

theorem forwarded_requests_pass_target_limit :
    passConfig.trigger.target.snsRPM = 1 ∧
      RunsSeq servicesAnswers ([(0,notifyRequest "pass"),(1,notifyRequest "pass")].map fun q => handleNotify textCodecs q.1 q.2)
        (freshServices passConfig) (handleAll textCodecs [(0,notifyRequest "pass"),(1,notifyRequest "pass")] (freshServices passConfig)).2 ∧
      (handleAll textCodecs [(0,notifyRequest "pass"),(1,notifyRequest "pass")] (freshServices passConfig)).1 =
        [.json statusAccepted "forwarded_as_is",.json statusAccepted "forwarded_as_is"] ∧
      (handleAll textCodecs [(0,notifyRequest "pass"),(1,notifyRequest "pass")] (freshServices passConfig)).2.published.length = 2 ∧
    unwatchedConfig.trigger.target.snsRPM = 1 ∧
      RunsSeq servicesAnswers ([(0,notifyRequest "on"),(1,notifyRequest "off")].map fun q => handleNotify textCodecs q.1 q.2)
        (freshServices unwatchedConfig) (handleAll textCodecs [(0,notifyRequest "on"),(1,notifyRequest "off")] (freshServices unwatchedConfig)).2 ∧
      (handleAll textCodecs [(0,notifyRequest "on"),(1,notifyRequest "off")] (freshServices unwatchedConfig)).2.published.length = 2 :=
  ⟨by decide,handleAll_runs _ _ _,by decide,by decide,by decide,handleAll_runs _ _ _,by decide⟩

-- The client limit takes its slot before the passthrough rule is read.
theorem client_limit_bounds_all_publishes (codecs : Codecs π) (cc : ClientConfig) (clientID : String)
    (positive : 0 < cc.clientRPM) (S : Services) (configured : S.clients clientID = .ok cc)
    (fresh : S.store.grants ("CLIENT:" ++ clientID) = 0) :
    (∀ (requests : List (Int × HttpRequest)) (S' : Services),
      (∀ q ∈ requests, q.2.header clientIDHdrName = clientID) →
      RunsSeq servicesAnswers (requests.map fun q => handleNotify codecs q.1 q.2) S S' →
      (S'.published.length : Int) ≤ S.published.length + cc.clientRPM) ∧
    (∀ (messages : List (Int × SqsMessage)) (S' : Services),
      (∀ q ∈ messages, q.2.attributes clientIDHdrName = some clientID) →
      RunsSeq servicesAnswers (messages.map fun q => processMessage codecs q.1 q.2) S S' →
      (S'.published.length : Int) ≤ S.published.length + cc.clientRPM) := by
  refine ⟨fun requests S' named path => ?_,fun messages S' named path => ?_⟩
  · refine runsSeq_published positive (fun q present S₀ resp S₁ paced running => ?_) configured fresh path
    exact handleNotify_paced positive (named q present) (fun _ run => run_clientLimits run) paced running
  · refine runsSeq_published positive (fun q present S₀ res S₁ paced running => ?_) configured fresh path
    exact processMessage_paced positive (named q present) (fun _ run => run_clientLimits run) paced running

def pacedConfig : ClientConfig := {passConfig with clientRPM:=1}

theorem client_limit_bounds_all_publishes_on_passthrough :
    0 < pacedConfig.clientRPM ∧ (freshServices pacedConfig).clients "c1" = .ok pacedConfig ∧
      (freshServices pacedConfig).store.grants ("CLIENT:" ++ "c1") = 0 ∧
    (∀ (requests : List (Int × HttpRequest)) (S' : Services),
      (∀ q ∈ requests, q.2.header clientIDHdrName = "c1") →
      RunsSeq servicesAnswers (requests.map fun q => handleNotify textCodecs q.1 q.2) (freshServices pacedConfig) S' →
      (S'.published.length : Int) ≤ (freshServices pacedConfig).published.length + pacedConfig.clientRPM) ∧
    (∀ (messages : List (Int × SqsMessage)) (S' : Services),
      (∀ q ∈ messages, q.2.attributes clientIDHdrName = some "c1") →
      RunsSeq servicesAnswers (messages.map fun q => processMessage textCodecs q.1 q.2) (freshServices pacedConfig) S' →
      (S'.published.length : Int) ≤ (freshServices pacedConfig).published.length + pacedConfig.clientRPM) :=
  ⟨by decide,rfl,rfl,client_limit_bounds_all_publishes textCodecs pacedConfig "c1" (by decide) _ rfl rfl⟩

example : (handleAll textCodecs [(0,notifyRequest "pass"),(1,notifyRequest "pass")] (freshServices pacedConfig)).1 =
    [.json statusAccepted "forwarded_as_is",.error statusAccepted "rate limit (client)"] := by decide

end Enoti
