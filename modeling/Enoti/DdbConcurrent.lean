import Enoti.DdbRefinement
import Enoti.Interleaving
import Enoti.KeySpace
import Enoti.Runs

namespace Enoti

-- Each ddb.DataStore method is at most one request, so interleaved port
-- programs run step for step as against the contract store.

-- At a rate of zero or less Acquire answers with no request.
def PositiveRate : DataStoreCall → Prop
  | .acquire _ ratePerWindow _ => 0 < ratePerWindow
  | _ => True

theorem run_positiveRate {π : Type} {json : JsonCodec π} {zstd : Zstd} {search : Search π} {clientID clientIP : String}
    {cc : ClientConfig} {payload : π} {now : Int} :
    Interaction.Confined PositiveRate (run json zstd search clientID clientIP cc payload now) := by
  refine run_confined (fun positive => positive) (fun positive => positive) (fun positive => positive) fun call onSlot => ?_
  cases call with
  | acquire => exact onSlot.elim
  | load => trivial
  | upsertCAS => trivial

namespace DdbBackend

open Interaction Dynamo

theorem serveData_atomic (now : Int) : Threads.Atomic (serveData now) PositiveRate := by
  intro call positive
  cases call with
  | acquire scope rate window =>
    have limited : ¬rate ≤ 0 := Int.not_le.2 positive
    simp only [serveData,acquire,if_neg limited]
    exact ⟨_,_,rfl,fun _ => ⟨_,rfl⟩⟩
  | load clientID scopeKey =>
    exact ⟨_,_,rfl,fun r => by rcases r with _ | _ | _ <;> exact ⟨_,rfl⟩⟩
  | upsertCAS clientID scopeKey prev next =>
    simp only [serveData,upsertCAS]
    split
    · exact ⟨_,_,rfl,fun _ => ⟨_,rfl⟩⟩
    · exact ⟨_,_,rfl,fun _ => ⟨_,rfl⟩⟩

theorem ddb_concurrent_runs_match_contract {π : Type} (now : Int) (codec : JsonCodec π) (zstd : Zstd) (search : Search π)
    (programs : List (StoreProg (RunResult π)))
    (requests : ∀ program ∈ programs, ∃ clientID clientIP cc payload time,
      program = run codec zstd search clientID clientIP cc payload time)
    {t : Table} {s : StoreState} (represents : Represents now t s) (schedule : List Nat)
    {d' : Threads Request Request.Resp (RunResult π) Table}
    (ran : Threads.Steps Answers ⟨programs.map (implement (serveData now)),t,[]⟩ schedule d') :
    ∃ d, Threads.Steps (OrFails versionedAnswer DataStoreCall.failed) ⟨programs,s,[]⟩ schedule d ∧
      d'.programs.map value? = d.programs.map value? ∧ d'.programs = d.programs.map (implement (serveData now)) ∧
      Represents now d'.state d.state := by
  have confined : ∀ program ∈ programs, Confined PositiveRate program := by
    intro program listed
    obtain ⟨clientID,clientIP,cc,payload,time,rfl⟩ := requests program listed
    exact run_positiveRate
  have start : Threads.Implements (serveData now) PositiveRate (Represents now)
      ⟨programs.map (implement (serveData now)),t,[]⟩ ⟨programs,s,[]⟩ :=
    ⟨rfl,confined,represents⟩
  have simulates : ∀ t s call r t', Represents now t s → PositiveRate call → Runs Answers (serveData now call) t r t' →
      ∃ s', OrFails versionedAnswer DataStoreCall.failed s call r s' ∧ Represents now t' s' :=
    simulates_orFails (Represents now) (fun _ _ call related _ => serveData_refines related call)
      (fun _ _ _ _ path => serveData_faults path)
  obtain ⟨d,steps,implements⟩ := start.steps (serveData_atomic now) simulates ran
  exact ⟨d,steps,implements.values (serveData_atomic now),implements.programs,implements.related⟩

-- Two requests of one client, their calls alternating.
theorem ddb_concurrent_runs_match_contract_on_pair :
    (∀ program ∈ [run bytesJson plainZstd (fun _ _ => .ok (.string "on")) "c1" "10.0.0.1" keyedConfig [] 0,
        run bytesJson plainZstd (fun _ _ => .ok (.string "on")) "c1" "10.0.0.2" keyedConfig [] 0],
      ∃ clientID clientIP cc payload time,
        program = run bytesJson plainZstd (fun _ _ => .ok (.string "on")) clientID clientIP cc payload time) ∧
    Represents 0 ∅ emptyStore ∧
    ∃ d, Threads.Steps (OrFails versionedAnswer DataStoreCall.failed)
        ⟨[run bytesJson plainZstd (fun _ _ => .ok (.string "on")) "c1" "10.0.0.1" keyedConfig [] 0,
          run bytesJson plainZstd (fun _ _ => .ok (.string "on")) "c1" "10.0.0.2" keyedConfig [] 0],emptyStore,[]⟩
        [0,1,0,1] d ∧
      ((Threads.mk ([run bytesJson plainZstd (fun _ _ => .ok (.string "on")) "c1" "10.0.0.1" keyedConfig [] 0,
          run bytesJson plainZstd (fun _ _ => .ok (.string "on")) "c1" "10.0.0.2" keyedConfig [] 0].map
            (implement (serveData 0))) ∅ []).interleave Dynamo.serve [0,1,0,1]).programs.map value? = d.programs.map value? ∧
      ((Threads.mk ([run bytesJson plainZstd (fun _ _ => .ok (.string "on")) "c1" "10.0.0.1" keyedConfig [] 0,
          run bytesJson plainZstd (fun _ _ => .ok (.string "on")) "c1" "10.0.0.2" keyedConfig [] 0].map
            (implement (serveData 0))) ∅ []).interleave Dynamo.serve [0,1,0,1]).programs = d.programs.map (implement (serveData 0)) ∧
      Represents 0 ((Threads.mk ([run bytesJson plainZstd (fun _ _ => .ok (.string "on")) "c1" "10.0.0.1" keyedConfig [] 0,
          run bytesJson plainZstd (fun _ _ => .ok (.string "on")) "c1" "10.0.0.2" keyedConfig [] 0].map
            (implement (serveData 0))) ∅ []).interleave Dynamo.serve [0,1,0,1]).state d.state := by
  have listed : ∀ program ∈ [run bytesJson plainZstd (fun _ _ => .ok (.string "on")) "c1" "10.0.0.1" keyedConfig [] 0,
      run bytesJson plainZstd (fun _ _ => .ok (.string "on")) "c1" "10.0.0.2" keyedConfig [] 0],
      ∃ clientID clientIP cc payload time,
        program = run bytesJson plainZstd (fun _ _ => .ok (.string "on")) clientID clientIP cc payload time := by
    intro program listed
    simp only [List.mem_cons,List.not_mem_nil,or_false] at listed
    rcases listed with rfl | rfl
    · exact ⟨_,_,_,_,_,rfl⟩
    · exact ⟨_,_,_,_,_,rfl⟩
  exact ⟨listed,represents_empty 0,ddb_concurrent_runs_match_contract 0 bytesJson plainZstd _ _ listed
    (represents_empty 0) [0,1,0,1] (Threads.steps_interleave answers_serve _ _)⟩

end DdbBackend

end Enoti
