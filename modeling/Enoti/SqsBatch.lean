import Enoti.PublishBound

namespace Enoti

-- cmd/lambda-sqs/main.go, HandleSQSEvent. A record reported as a batch item
-- failure is delivered again by SQS; the loop goes on past it.

open Interaction

variable {π : Type}

structure SqsRecord where
  messageId : String
  message : SqsMessage

structure SqsEventResponse where
  batchItemFailures : List String

def appendFailure (batchItemFailures : List String) (q : Int × SqsRecord) : Option String → List String
  | some _ => batchItemFailures ++ [q.2.messageId]
  | none => batchItemFailures

-- Each record with the clock reading its Run takes. The error result is always nil.
def handleSQSEvent (codecs : Codecs π) (records : List (Int × SqsRecord)) : ServiceProg SqsEventResponse :=
  (forEach (fun q => processMessage codecs q.1 q.2.message) appendFailure [] records).bind
    fun batchItemFailures => .pure ⟨batchItemFailures⟩

def failedMessages (records : List (Int × SqsRecord)) (results : List (Option String)) : List String :=
  ((records.zip results).filter fun q => q.2.isSome).map fun q => q.1.2.messageId

theorem foldl_appendFailure (records : List (Int × SqsRecord)) (results : List (Option String)) (acc : List String) :
    (records.zip results).foldl (fun acc q => appendFailure acc q.1 q.2) acc = acc ++ failedMessages records results := by
  induction records generalizing results acc with
  | nil => simp [failedMessages]
  | cons q rest ih =>
    cases results with
    | nil => simp [failedMessages]
    | cons result results =>
      rw [List.zip_cons_cons,List.foldl_cons,ih]
      cases result with
      | none => simp [appendFailure,failedMessages]
      | some err => simp [appendFailure,failedMessages]

theorem handleSQSEvent_runs {codecs : Codecs π} {records : List (Int × SqsRecord)} {S S' : Services}
    {resp : SqsEventResponse} (path : Runs servicesAnswers (handleSQSEvent codecs records) S resp S') :
    ∃ results, RunsList servicesAnswers (records.map fun q => processMessage codecs q.1 q.2.message) S results S' ∧
      resp.batchItemFailures = failedMessages records results := by
  obtain ⟨failures,M,looped,answered⟩ := runs_of_bind path
  obtain ⟨rfl,rfl⟩ := runs_pure_inv answered
  obtain ⟨results,each,folded⟩ := runs_forEach looped
  refine ⟨results,each,?_⟩
  rw [folded,foldl_appendFailure,List.nil_append]

theorem runsSeq_batches {codecs : Codecs π} {batches : List (List (Int × SqsRecord))} {S S' : Services}
    (path : RunsSeq servicesAnswers (batches.map (handleSQSEvent codecs)) S S') :
    RunsSeq servicesAnswers (batches.flatten.map fun q => processMessage codecs q.1 q.2.message) S S' := by
  induction batches generalizing S with
  | nil =>
    cases path
    exact .nil
  | cons batch rest ih =>
    cases path with
    | cons first later =>
      obtain ⟨results,each,-⟩ := handleSQSEvent_runs first
      rw [List.flatten_cons,List.map_append]
      exact each.seq.append (ih later)

def Processed (codecs : Codecs π) (now : Int) (m : SqsMessage) (S S' : Services) : Prop :=
  ∃ attrs cc payload out, extractMessageAttributes m = .ok attrs ∧ S.clients attrs.clientID = .ok cc ∧
    auth cc attrs.clientID attrs.clientKey = none ∧ codecs.json.unmarshal m.body = .ok payload ∧
    Runs storeAnswers (run codecs.json codecs.zstd codecs.search attrs.clientID attrs.clientIP cc payload now) S.store out
      S'.store ∧ out.err = none

section
variable {codecs : Codecs π} {now : Int} {S S' : Services}

theorem respondSqs_acknowledged {cc : ClientConfig} {payload : π} {out : RunResult π}
    (path : Runs servicesAnswers (respondSqs codecs cc payload out) S none S') : out.err = none := by
  unfold respondSqs at path
  split at path
  · cases (runs_pure_inv path).1
  · rename_i unerred
    exact unerred

theorem processMessage_acknowledged {m : SqsMessage} (path : Runs servicesAnswers (processMessage codecs now m) S none S') :
    Processed codecs now m S S' := by
  rcases processMessage_cases path with ⟨-,early⟩ | ⟨cc,payload,out,attrs,extracted,config,authed,parsed,M,stored,-,-,replying⟩
  · cases early
  · -- the reply leaves the store where Run left it
    rw [← (respondSqs_reply replying).store] at stored
    exact ⟨attrs,cc,payload,out,extracted,config,authed,parsed,stored,respondSqs_acknowledged replying⟩

end

inductive BatchRun (codecs : Codecs π) : List (Int × SqsRecord) → Services → List String → Services → Prop where
  | nil : BatchRun codecs [] S [] S
  | reported (ran : Runs servicesAnswers (processMessage codecs q.1 q.2.message) S (some err) M)
      (rest : BatchRun codecs records M failures S') : BatchRun codecs (q :: records) S (q.2.messageId :: failures) S'
  | acknowledged (ran : Runs servicesAnswers (processMessage codecs q.1 q.2.message) S none M)
      (processed : Processed codecs q.1 q.2.message S M) (rest : BatchRun codecs records M failures S') :
      BatchRun codecs (q :: records) S failures S'

theorem BatchRun.sublist {codecs : Codecs π} {records : List (Int × SqsRecord)} {S S' : Services} {failures : List String}
    (batch : BatchRun codecs records S failures S') : failures.Sublist (records.map fun q => q.2.messageId) := by
  induction batch with
  | nil => exact .slnil
  | reported _ _ ih => exact ih.cons_cons _
  | acknowledged _ _ _ ih => exact ih.cons _

theorem batchRun_of_runsList {codecs : Codecs π} {records : List (Int × SqsRecord)} {S S' : Services}
    {results : List (Option String)}
    (path : RunsList servicesAnswers (records.map fun q => processMessage codecs q.1 q.2.message) S results S') :
    BatchRun codecs records S (failedMessages records results) S' := by
  induction records generalizing S results with
  | nil =>
    cases path
    exact .nil
  | cons q rest ih =>
    cases path with
    | cons first later =>
      rename_i result _ _
      cases result with
      | some err => simpa [failedMessages] using BatchRun.reported first (ih later)
      | none => simpa [failedMessages] using BatchRun.acknowledged first (processMessage_acknowledged first) (ih later)

-- The loop does not stop at a failure, so the records after it are still processed.
theorem sqs_batch_acknowledges_only_processed_records (codecs : Codecs π) (records : List (Int × SqsRecord))
    (S S' : Services) (resp : SqsEventResponse) (path : Runs servicesAnswers (handleSQSEvent codecs records) S resp S') :
    BatchRun codecs records S resp.batchItemFailures S' ∧
      resp.batchItemFailures.Sublist (records.map fun q => q.2.messageId) := by
  obtain ⟨results,each,reported⟩ := handleSQSEvent_runs path
  have batch := batchRun_of_runsList each
  rw [← reported] at batch
  exact ⟨batch,batch.sublist⟩

def keyedRecord (messageId clientKey body : String) : SqsRecord where
  messageId := messageId
  message := ⟨fun name => if name = clientIDHdrName then some "c1" else if name = clientKeyHdrName then some clientKey else none,
    utf8Bytes body⟩

-- The first record has the wrong key; the second is processed after it.
def mixedBatch : List (Int × SqsRecord) := [(0,keyedRecord "m1" "wrong" "on"),(1,keyedRecord "m2" "key12345" "on")]

theorem sqs_batch_acknowledges_only_processed_records_on_mixed_batch :
    ((handleSQSEvent textCodecs mixedBatch).run servicesAnswer (freshServices stateConfig)).1.batchItemFailures = ["m1"] ∧
    (BatchRun textCodecs mixedBatch (freshServices stateConfig)
        ((handleSQSEvent textCodecs mixedBatch).run servicesAnswer (freshServices stateConfig)).1.batchItemFailures
        ((handleSQSEvent textCodecs mixedBatch).run servicesAnswer (freshServices stateConfig)).2 ∧
      ((handleSQSEvent textCodecs mixedBatch).run servicesAnswer (freshServices stateConfig)).1.batchItemFailures.Sublist
        (mixedBatch.map fun q => q.2.messageId)) :=
  ⟨by decide,sqs_batch_acknowledges_only_processed_records textCodecs mixedBatch _ _ _
    (runs_of_answer servicesAnswer_answers _ _)⟩

-- A message whose publish failed is reported, delivered again as NoOp and
-- deleted unpublished.
theorem failed_publish_is_never_retried (codecs : Codecs π) (cc : ClientConfig) (payload : π) (v : String)
    (unmatched : checkPassthrough codecs.search cc.passthrough payload = false) (watched : cc.trigger.fieldExpr ≠ "")
    (triggered : evalString codecs.search cc.trigger.fieldExpr payload = .ok (some v)) :
    (∀ now (m : SqsMessage) clientID (S S' : Services) (res : Option String),
      m.attributes clientIDHdrName = some clientID → S.clients clientID = .ok cc → codecs.json.unmarshal m.body = .ok payload →
      Runs servicesAnswers (processMessage codecs now m) S res S' → S'.published ≠ S.published →
      Holds v (S'.store.edges (clientID,computeKey cc.trigger.fieldExpr)) ∧
      ∀ now' (S'' : Services) (res' : Option String), Runs servicesAnswers (processMessage codecs now' m) S' res' S'' →
        S''.published = S'.published) ∧
    (∀ now (r : HttpRequest) (S S' : Services) (resp : Response),
      S.clients (r.header clientIDHdrName) = .ok cc → ReadsPayload codecs r payload →
      Runs servicesAnswers (handleNotify codecs now r) S resp S' → S'.published ≠ S.published →
      Holds v (S'.store.edges (r.header clientIDHdrName,computeKey cc.trigger.fieldExpr)) ∧
      ∀ now' (S'' : Services) (resp' : Response), Runs servicesAnswers (handleNotify codecs now' r) S' resp' S'' →
        S''.published = S'.published) := by
  refine ⟨fun now m clientID S S' res named configured parsed path calls => ?_,
    fun now r S S' resp configured reads path calls => ?_⟩
  · have held := processMessage_commits unmatched watched triggered named configured parsed path calls
    -- the load keeps every client's config, so the redelivery loads cc again
    rcases processMessage_runs path with quiet | ⟨attrs,cc',payload',out,store,-,-,-,-,reply⟩
    · exact absurd quiet.published calls
    · have kept : S'.clients clientID = .ok cc := (congrFun reply.clients _).trans configured
      exact ⟨held,fun now' S'' res' retry => processMessage_retry unmatched watched triggered named kept parsed held retry⟩
  · have held := handleNotify_commits unmatched watched triggered configured reads path calls
    rcases handleNotify_runs path with quiet | ⟨cc',payload',out,store,-,-,-,reply⟩
    · exact absurd quiet.published calls
    · have kept : S'.clients (r.header clientIDHdrName) = .ok cc := (congrFun reply.clients _).trans configured
      exact ⟨held,fun now' S'' resp' retry => handleNotify_retry unmatched watched triggered kept reads held retry⟩

-- SNS refusing every publish; the call is made all the same.
def publishFails (S : Services) : (op : ServiceCall) → op.Resp × Services
  | .publishRaw arn payload => (.error "sns unavailable",{S with published:=S.published ++ [(arn,payload)]})
  | op => servicesAnswer S op

theorem publishFails_answers (S : Services) (op : ServiceCall) :
    servicesAnswers S op (publishFails S op).1 (publishFails S op).2 := by
  cases op with
  | publishRaw arn payload => rfl
  | _ => exact servicesAnswer_answers S _

theorem failed_publish_is_never_retried_on_outage :
    ((handleSQSEvent textCodecs [(0,keyedRecord "m1" "key12345" "on")]).run publishFails
        (freshServices stateConfig)).1.batchItemFailures = ["m1"] ∧
    ((handleSQSEvent textCodecs [(1,keyedRecord "m1" "key12345" "on")]).run publishFails
        ((handleSQSEvent textCodecs [(0,keyedRecord "m1" "key12345" "on")]).run publishFails
          (freshServices stateConfig)).2).1.batchItemFailures = [] ∧
    ((handleSQSEvent textCodecs [(1,keyedRecord "m1" "key12345" "on")]).run publishFails
        ((handleSQSEvent textCodecs [(0,keyedRecord "m1" "key12345" "on")]).run publishFails
          (freshServices stateConfig)).2).2.published.length = 1 ∧
    (∀ now (m : SqsMessage) clientID (S S' : Services) (res : Option String),
      m.attributes clientIDHdrName = some clientID → S.clients clientID = .ok stateConfig →
      textCodecs.json.unmarshal m.body = .ok "on" →
      Runs servicesAnswers (processMessage textCodecs now m) S res S' → S'.published ≠ S.published →
      Holds "on" (S'.store.edges (clientID,computeKey stateConfig.trigger.fieldExpr)) ∧
      ∀ now' (S'' : Services) (res' : Option String), Runs servicesAnswers (processMessage textCodecs now' m) S' res' S'' →
        S''.published = S'.published) :=
  ⟨by decide,by decide,by decide,
    (failed_publish_is_never_retried textCodecs stateConfig "on" "on" (by decide) (by decide) (by decide)).1⟩

end Enoti
