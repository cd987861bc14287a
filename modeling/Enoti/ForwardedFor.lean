import Enoti.SqsBatch

namespace Enoti

-- clientIP takes the first X-Forwarded-For entry, which the sender writes, so
-- the IP limit counts an address the sender names.

open Interaction

variable {π : Type}

theorem trimSpace_of_plain {cs : List Char} (plain : ∀ c ∈ cs, isSpace c = false) : trimSpace cs = cs := by
  have kept : ∀ l : List Char, (∀ c ∈ l, isSpace c = false) → l.dropWhile isSpace = l :=
    fun l all => List.dropWhile_eq_self_iff.2 fun nonempty => by simp [all _ (List.getElem_mem nonempty)]
  unfold trimSpace
  rw [kept cs plain,kept cs.reverse fun c mem => plain c (List.mem_reverse.1 mem),List.reverse_reverse]

theorem clientIP_forwarded {r : HttpRequest} {entry tail : String} (xff : r.header "X-Forwarded-For" = entry ++ tail)
    (nonempty : entry ≠ "") (plain : ∀ c ∈ entry.toList, c ≠ ',' ∧ isSpace c = false)
    (cut : tail = "" ∨ tail.toList.head? = some ',') : clientIP r = entry := by
  have present : r.header "X-Forwarded-For" ≠ "" := fun empty => by
    rw [xff] at empty
    simp at empty
    exact nonempty empty.1
  have after : tail.toList.takeWhile (fun c => decide (c ≠ ',')) = [] := by
    rcases cut with rfl | comma
    · rfl
    · cases spelled : tail.toList with
      | nil => rfl
      | cons c rest =>
        rw [spelled,List.head?_cons,Option.some_inj] at comma
        simp [comma]
  unfold clientIP
  dsimp only
  rw [if_pos present,xff,String.toList_append,List.takeWhile_append_of_pos fun c mem => by simpa using (plain c mem).1,
    after,List.append_nil,trimSpace_of_plain fun c mem => (plain c mem).2,String.ofList_toList]

section
variable {json : JsonCodec π} {zstd : Zstd} {search : Search π} {clientID clientIP : String} {cc : ClientConfig}
  {payload : π} {now : Int}

theorem targetLimit_avoids {text : String} (check : text ≠ "rate limit check failed") {o : RunResult π}
    (unerred : o.err ≠ some text) : Yields (fun out : RunResult π => out.err ≠ some text) (targetLimit cc clientID o) := by
  unfold targetLimit
  split
  · refine .call fun r => ?_
    cases r with
    | error e => exact .pure (by simpa using check.symm)
    | ok granted =>
      cases granted with
      | false => exact .pure unerred
      | true => exact .pure unerred
  · exact .pure unerred

theorem dispatchTrigger_avoids {text : String} (eval : text ≠ "trigger field eval error")
    (edge : text ≠ "edge evaluation error") (check : text ≠ "rate limit check failed") :
    Yields (fun out : RunResult π => out.err ≠ some text) (dispatchTrigger json zstd search clientID cc payload now) := by
  unfold dispatchTrigger
  split
  · exact .pure (by simp)
  split
  · exact .pure (by simp)
  split
  · exact .pure (by simpa using eval.symm)
  · unfold evaluateTrigger
    split
    · exact targetLimit_avoids check (by simp)
    · refine Yields.bind fun ev => ?_
      split
      · exact .pure (by simpa using edge.symm)
      · exact targetLimit_avoids check (by simp)

theorem rateLimit_avoids {rpm : Int} {scope refusal text : String} {rest : StoreProg (RunResult π)}
    (check : text ≠ "rate limit check failed") (other : refusal ≠ text)
    (later : Yields (fun out : RunResult π => out.err ≠ some text) rest) :
    Yields (fun out : RunResult π => out.err ≠ some text) (rateLimit rpm scope refusal payload rest) := by
  unfold rateLimit
  split
  · refine .call fun r => ?_
    cases r with
    | error e => exact .pure (by simpa using check.symm)
    | ok granted =>
      cases granted with
      | false => exact .pure (by simpa using other)
      | true => exact later
  · exact later

theorem rateLimit_refused {rpm : Int} {scope refusal : String} {rest : StoreProg (RunResult π)} {s s' : StoreState}
    {out : RunResult π} (path : Runs storeAnswers (rateLimit rpm scope refusal payload rest) s out s')
    (text : out.err = some refusal) (check : refusal ≠ "rate limit check failed")
    (later : Yields (fun out : RunResult π => out.err ≠ some refusal) rest) : 0 < rpm ∧ rpm ≤ (s.grants scope : Int) := by
  unfold rateLimit at path
  split at path
  · rename_i positive
    obtain ⟨r,m,answered,next⟩ := runs_call_inv path
    match r,answered,next with
    | .error _,_,next =>
      obtain ⟨rfl,-⟩ := runs_pure_inv next
      exact absurd (Option.some.inj text).symm check
    | .ok false,answered,next =>
      rcases storeAnswers_acquire answered with ⟨refused,-⟩ | ⟨_,failed,-⟩
      · have atRate : ¬(s.grants scope : Int) < rpm := fun below => by
          have granted := (acquireSlot_granted rpm (s.grants scope)).2 below
          rw [← Except.ok.inj refused] at granted
          cases granted
        exact ⟨by omega,by omega⟩
      · cases failed
    | .ok true,_,next => exact (runs_yields later next text).elim
  · exact (runs_yields later path text).elim

theorem run_ipRefused {s s' : StoreState} {out : RunResult π}
    (path : Runs storeAnswers (run json zstd search clientID clientIP cc payload now) s out s')
    (refused : out.err = some "rate limit (ip)") : 0 < cc.ipRPM ∧ cc.ipRPM ≤ (s.grants ("IP:" ++ clientIP) : Int) :=
  rateLimit_refused path refused (by decide)
    (rateLimit_avoids (by decide) (by decide) (dispatchTrigger_avoids (by decide) (by decide) (by decide)))

theorem run_grants_off {s s' : StoreState} {out : RunResult π}
    (path : Runs storeAnswers (run json zstd search clientID clientIP cc payload now) s out s') {other : String}
    (ip : other ≠ "IP:" ++ clientIP) (client : other ≠ "CLIENT:" ++ clientID)
    (target : other ≠ targetScope clientID cc.trigger.target.snsArn) : s'.grants other = s.grants other := by
  rcases rateLimit_runs path with ⟨-,-,-,rfl⟩ | ⟨m,ipAgree,rest⟩
  · rfl
  rcases rateLimit_runs rest with ⟨-,-,-,rfl⟩ | ⟨m',clientAgree,rest'⟩
  · exact ipAgree.2 other ip
  · rw [dispatchTrigger_frame rest' other target,clientAgree.2 other client,ipAgree.2 other ip]

end

section
variable {codecs : Codecs π} {now : Int} {S S' : Services}

theorem respondHttp_ipRefused {cc : ClientConfig} {payload : π} {out : RunResult π}
    (path : Runs servicesAnswers (respondHttp codecs cc payload out) S (.error statusAccepted "rate limit (ip)") S') :
    out.err = some "rate limit (ip)" := by
  unfold respondHttp at path
  split at path
  · rename_i err erred
    have same := (runs_pure_inv path).1
    simp only [Response.error.injEq] at same
    rw [erred,same.2]
  · -- without an error the answer is JSON, or a 500
    split at path
    · have same := (runs_pure_inv path).1
      simp at same
    · have same := (runs_pure_inv path).1
      simp [statusAccepted,statusInternalServerError] at same
    · obtain ⟨published,m,-,next⟩ := runs_call_inv path
      cases published with
      | error e =>
        have same := (runs_pure_inv next).1
        simp [statusAccepted,statusInternalServerError] at same
      | ok u =>
        have same := (runs_pure_inv next).1
        simp at same

theorem handleNotify_ipRefused {r : HttpRequest}
    (path : Runs servicesAnswers (handleNotify codecs now r) S (.error statusAccepted "rate limit (ip)") S') :
    ∃ cc payload out store, Runs storeAnswers (run codecs.json codecs.zstd codecs.search (r.header clientIDHdrName)
      (clientIP r) cc payload now) S.store out store ∧ out.err = some "rate limit (ip)" := by
  rcases handleNotify_cases path with ⟨-,early⟩ | ⟨cc,payload,out,-,-,-,M,stored,-,-,replying⟩
  · exact absurd early (by decide)
  · exact ⟨cc,payload,out,M.store,stored,respondHttp_ipRefused replying⟩

theorem handleNotify_ipGrants {r : HttpRequest} {resp : Response} (path : Runs servicesAnswers (handleNotify codecs now r) S resp S')
    {address : String} (other : address ≠ clientIP r) :
    S'.store.grants ("IP:" ++ address) = S.store.grants ("IP:" ++ address) := by
  rcases handleNotify_runs path with quiet | ⟨cc,payload,out,store,-,-,ran,reply⟩
  · rw [quiet.store]
  rw [reply.store]
  exact run_grants_off ran (fun same => other (by simpa using same)) (ipScope_ne_clientScope _ _) (ipScope_ne_target _ _ _)

end

-- A sender that names a new address before its proxy's in each request.
def spoofedRequest (address : String) : HttpRequest :=
  {notifyRequest "on" with
    header := fun name => if name = "X-Forwarded-For" then address ++ ", 10.0.0.9" else (notifyRequest "on").header name}

def spoofedRequests : List (Int × HttpRequest) := [(0,spoofedRequest "198.51.100.1"),(1,spoofedRequest "198.51.100.2")]

def ipOneConfig : ClientConfig := {stateConfig with ipRPM:=1}

-- From the one address of remoteAddr the second request is refused; with the
-- addresses the sender names, neither is.
example : (handleAll textCodecs [(0,notifyRequest "on"),(1,notifyRequest "off")] (freshServices ipOneConfig)).1 =
    [.json 202 "edge_triggered_forward",.error 202 "rate limit (ip)"] := by
  decide

example : (handleAll textCodecs spoofedRequests (freshServices ipOneConfig)).1 =
    [.json 202 "edge_triggered_forward",.json 202 "no_op"] := by
  decide

end Enoti
