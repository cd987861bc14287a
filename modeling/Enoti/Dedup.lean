import Enoti.SqsBatch

namespace Enoti

-- Edge detection as deduplication: requests of one client that carry the same
-- trigger value make at most one PublishRaw call between them.

open Interaction

variable {π : Type}

section
variable {json : JsonCodec π} {zstd : Zstd} {search : Search π} {clientID clientIP scopeKey newVal : String}
  {cc : ClientConfig} {f : Option FlapConfig} {payload : π} {now : Int} {s s' : StoreState}

theorem evaluate_held {ev : Evaluation π} (held : Holds newVal (s.edges (clientID,scopeKey)))
    (path : Runs storeAnswers (evaluateEdgeAndFlap json zstd clientID scopeKey newVal f payload now) s ev s') : s' = s := by
  obtain ⟨r,m,answered,rest⟩ := runs_call_inv path
  obtain ⟨rfl,loaded⟩ := storeAnswers_load answered
  rcases loaded with rfl | ⟨err,rfl⟩
  · have shape := evaluateLoaded_shape json zstd clientID scopeKey newVal f payload now (loadSlot (m.edges (clientID,scopeKey)))
    rw [plannedWrite_holds held] at shape
    obtain ⟨x,program,-,-⟩ := shape
    rw [program] at rest
    exact (runs_pure_inv rest).2
  · exact (runs_pure_inv rest).2

theorem run_held {v : String} (unmatched : checkPassthrough search cc.passthrough payload = false)
    (watched : cc.trigger.fieldExpr ≠ "") (triggered : evalString search cc.trigger.fieldExpr payload = .ok (some v))
    {out : RunResult π} (held : Holds v (s.edges (clientID,computeKey cc.trigger.fieldExpr)))
    (path : Runs storeAnswers (run json zstd search clientID clientIP cc payload now) s out s') : s'.edges = s.edges := by
  rcases run_limits path with ⟨-,-,-,agree⟩ | ⟨m,agree,rest⟩
  · exact agree.1
  rw [dispatchTrigger_evaluated unmatched watched triggered] at rest
  obtain ⟨ev,m',evaluated,post⟩ := runs_of_bind rest
  obtain rfl : m' = m := evaluate_held (by rw [agree.1]; exact held) evaluated
  cases failed : ev.err with
  | some err =>
    rw [failed] at post
    obtain ⟨-,rfl⟩ := runs_pure_inv post
    exact agree.1
  | none =>
    rw [failed] at post
    exact (targetLimit_effect post).frame.1.trans agree.1

end

theorem Reply.published_le {codecs : Codecs π} {cc : ClientConfig} {payload : π} {out : RunResult π} {S S' : Services}
    (reply : Reply codecs cc payload out S S') : S'.published.length ≤ S.published.length + 1 := by
  rcases reply.published with same | ⟨b,-,-,grown⟩
  · rw [same]
    omega
  · rw [grown,List.length_append,List.length_singleton]

-- Either no PublishRaw call has been made since S₀, or one has and the trigger's
-- edge holds the value.

structure PublishedOnce (cc : ClientConfig) (clientID v : String) (S₀ S : Services) : Prop where
  clients : S.clients = S₀.clients
  once : S.published.length ≤ S₀.published.length ∨
    S.published.length ≤ S₀.published.length + 1 ∧ Holds v (S.store.edges (clientID,computeKey cc.trigger.fieldExpr))

section
variable {codecs : Codecs π} {cc : ClientConfig} {clientID v : String} {S₀ S S' : Services}

theorem PublishedOnce.start : PublishedOnce cc clientID v S₀ S₀ := ⟨rfl,.inl (le_refl _)⟩

theorem PublishedOnce.length_le (once : PublishedOnce cc clientID v S₀ S) :
    S.published.length ≤ S₀.published.length + 1 := by
  rcases once.once with fresh | ⟨bounded,-⟩
  · omega
  · exact bounded

theorem PublishedOnce.quiet (quiet : Quiet S S') (once : PublishedOnce cc clientID v S₀ S) : PublishedOnce cc clientID v S₀ S' := by
  refine ⟨quiet.clients.trans once.clients,?_⟩
  rw [quiet.published,quiet.store]
  exact once.once

theorem PublishedOnce.step (retry : Holds v (S.store.edges (clientID,computeKey cc.trigger.fieldExpr)) → S'.published = S.published)
    (commits : S'.published ≠ S.published → Holds v (S'.store.edges (clientID,computeKey cc.trigger.fieldExpr)))
    (keeps : Holds v (S.store.edges (clientID,computeKey cc.trigger.fieldExpr)) →
      Holds v (S'.store.edges (clientID,computeKey cc.trigger.fieldExpr)))
    (single : S'.published.length ≤ S.published.length + 1) (clients : S'.clients = S.clients)
    (once : PublishedOnce cc clientID v S₀ S) : PublishedOnce cc clientID v S₀ S' := by
  refine ⟨clients.trans once.clients,?_⟩
  by_cases held : Holds v (S.store.edges (clientID,computeKey cc.trigger.fieldExpr))
  · rw [retry held]
    exact .inr ⟨once.length_le,keeps held⟩
  · rcases once.once with fresh | ⟨-,heldBefore⟩
    · by_cases same : S'.published = S.published
      · rw [same]
        exact .inl fresh
      · exact .inr ⟨by omega,commits same⟩
    · exact absurd heldBefore held

theorem reply_once {clientIP : String} {payload : π} {now : Int} {out : RunResult π} {store : StoreState}
    (unmatched : checkPassthrough codecs.search cc.passthrough payload = false) (watched : cc.trigger.fieldExpr ≠ "")
    (triggered : evalString codecs.search cc.trigger.fieldExpr payload = .ok (some v))
    (running : Runs storeAnswers (run codecs.json codecs.zstd codecs.search clientID clientIP cc payload now) S.store out store)
    (reply : Reply codecs cc payload out {S with store:=store} S') (once : PublishedOnce cc clientID v S₀ S) :
    PublishedOnce cc clientID v S₀ S' := by
  refine once.step (fun held => ?_) (reply_commits unmatched watched triggered running reply) (fun held => ?_)
    reply.published_le reply.clients
  · exact reply.quiet ((run_edge unmatched watched triggered running).stable held)
  · rw [reply.store,run_held unmatched watched triggered held running]
    exact held

theorem handleNotify_once {now : Int} {r : HttpRequest} {resp : Response} (configured : S₀.clients clientID = .ok cc)
    (watched : cc.trigger.fieldExpr ≠ "") (named : r.header clientIDHdrName = clientID)
    (carries : ∀ payload, ReadsPayload codecs r payload →
      checkPassthrough codecs.search cc.passthrough payload = false ∧ evalString codecs.search cc.trigger.fieldExpr payload = .ok (some v))
    (once : PublishedOnce cc clientID v S₀ S) (path : Runs servicesAnswers (handleNotify codecs now r) S resp S') :
    PublishedOnce cc clientID v S₀ S' := by
  rcases handleNotify_runs path with quiet | ⟨cc',payload,out,store,loaded,reads,running,reply⟩
  · exact once.quiet quiet
  rw [named] at loaded running
  obtain rfl : cc' = cc := Except.ok.inj (loaded.symm.trans (once.clients ▸ configured))
  obtain ⟨unmatched,triggered⟩ := carries payload reads
  exact reply_once unmatched watched triggered running reply once

theorem processMessage_once {now : Int} {m : SqsMessage} {res : Option String} (configured : S₀.clients clientID = .ok cc)
    (watched : cc.trigger.fieldExpr ≠ "") (named : m.attributes clientIDHdrName = some clientID)
    (carries : ∀ payload, codecs.json.unmarshal m.body = .ok payload →
      checkPassthrough codecs.search cc.passthrough payload = false ∧ evalString codecs.search cc.trigger.fieldExpr payload = .ok (some v))
    (once : PublishedOnce cc clientID v S₀ S) (path : Runs servicesAnswers (processMessage codecs now m) S res S') :
    PublishedOnce cc clientID v S₀ S' := by
  rcases processMessage_runs path with quiet | ⟨attrs,cc',payload,out,store,extracted,loaded,parsed,running,reply⟩
  · exact once.quiet quiet
  have named' : attrs.clientID = clientID := by rw [extractMessageAttributes_clientID extracted,named,Option.getD_some]
  rw [named'] at loaded running
  obtain rfl : cc' = cc := Except.ok.inj (loaded.symm.trans (once.clients ▸ configured))
  obtain ⟨unmatched,triggered⟩ := carries payload parsed
  exact reply_once unmatched watched triggered running reply once

end

theorem duplicate_deliveries_publish_once (codecs : Codecs π) (cc : ClientConfig) (clientID v : String)
    (watched : cc.trigger.fieldExpr ≠ "") (S : Services) (configured : S.clients clientID = .ok cc) :
    (∀ (requests : List (Int × HttpRequest)) (S' : Services),
      (∀ q ∈ requests, q.2.header clientIDHdrName = clientID ∧ ∀ payload, ReadsPayload codecs q.2 payload →
        checkPassthrough codecs.search cc.passthrough payload = false ∧
          evalString codecs.search cc.trigger.fieldExpr payload = .ok (some v)) →
      RunsSeq servicesAnswers (requests.map fun q => handleNotify codecs q.1 q.2) S S' →
      S'.published.length ≤ S.published.length + 1) ∧
    (∀ (batches : List (List (Int × SqsRecord))) (S' : Services),
      (∀ batch ∈ batches, ∀ q ∈ batch, q.2.message.attributes clientIDHdrName = some clientID ∧
        ∀ payload, codecs.json.unmarshal q.2.message.body = .ok payload →
          checkPassthrough codecs.search cc.passthrough payload = false ∧
            evalString codecs.search cc.trigger.fieldExpr payload = .ok (some v)) →
      RunsSeq servicesAnswers (batches.map (handleSQSEvent codecs)) S S' →
      S'.published.length ≤ S.published.length + 1) := by
  refine ⟨fun requests S' valid path => ?_,fun batches S' valid path => ?_⟩
  · refine (path.invariant (PublishedOnce cc clientID v S) (fun q present M resp M' once running => ?_) .start).length_le
    obtain ⟨⟨now,r⟩,listed,rfl⟩ := List.mem_map.1 present
    exact handleNotify_once configured watched (valid _ listed).1 (valid _ listed).2 once running
  · refine ((runsSeq_batches path).invariant (PublishedOnce cc clientID v S)
      (fun q present M res M' once running => ?_) .start).length_le
    obtain ⟨⟨now,record⟩,listed,rfl⟩ := List.mem_map.1 present
    obtain ⟨batch,inBatches,inBatch⟩ := List.mem_flatten.1 listed
    exact processMessage_once configured watched (valid batch inBatches _ inBatch).1 (valid batch inBatches _ inBatch).2
      once running

theorem duplicate_deliveries_publish_once_on_state :
    stateConfig.trigger.fieldExpr ≠ "" ∧ (freshServices stateConfig).clients "c1" = .ok stateConfig ∧
    (∀ (requests : List (Int × HttpRequest)) (S' : Services),
      (∀ q ∈ requests, q.2.header clientIDHdrName = "c1" ∧ ∀ payload, ReadsPayload textCodecs q.2 payload →
        checkPassthrough textCodecs.search stateConfig.passthrough payload = false ∧
          evalString textCodecs.search stateConfig.trigger.fieldExpr payload = .ok (some "on")) →
      RunsSeq servicesAnswers (requests.map fun q => handleNotify textCodecs q.1 q.2) (freshServices stateConfig) S' →
      S'.published.length ≤ (freshServices stateConfig).published.length + 1) ∧
    (∀ (batches : List (List (Int × SqsRecord))) (S' : Services),
      (∀ batch ∈ batches, ∀ q ∈ batch, q.2.message.attributes clientIDHdrName = some "c1" ∧
        ∀ payload, textCodecs.json.unmarshal q.2.message.body = .ok payload →
          checkPassthrough textCodecs.search stateConfig.passthrough payload = false ∧
            evalString textCodecs.search stateConfig.trigger.fieldExpr payload = .ok (some "on")) →
      RunsSeq servicesAnswers (batches.map (handleSQSEvent textCodecs)) (freshServices stateConfig) S' →
      S'.published.length ≤ (freshServices stateConfig).published.length + 1) :=
  ⟨by decide,rfl,duplicate_deliveries_publish_once textCodecs stateConfig "c1" "on" (by decide) _ rfl⟩

-- A message delivered twice in one batch is published once.
example : ((handleSQSEvent textCodecs [(0,keyedRecord "m1" "key12345" "on"),(1,keyedRecord "m1" "key12345" "on")]).run
    servicesAnswer (freshServices stateConfig)).2.published.length = 1 := by
  decide

end Enoti
