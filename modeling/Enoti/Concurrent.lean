import Enoti.Runs
import Enoti.Interleaving

namespace Enoti

open Interaction

-- EvaluateEdgeAndFlap calls on one scope interleaved call by call store what
-- the committing calls store in commit order.

variable {π : Type}

abbrev StoreThreads (π : Type) := Threads DataStoreCall DataStoreCall.Resp (Evaluation π) StoreState
abbrev StoreEvent := Event DataStoreCall DataStoreCall.Resp

def commitOf : StoreEvent → Option (Nat × Int)
  | ⟨j,.upsertCAS _ _ prevVersion _,.ok true⟩ => some (j,prevVersion)
  | _ => none

def commits (trace : List StoreEvent) : List (Nat × Int) := trace.filterMap commitOf

def committedThreads (trace : List StoreEvent) : List Nat := (commits trace).map (·.1)

def commitObs (obs : List (Observation π)) (trace : List StoreEvent) : List (Observation π) :=
  (committedThreads trace).filterMap (obs[·]?)

section
variable (json : JsonCodec π) (zstd : Zstd) (clientID scopeKey : String) (f : Option FlapConfig)

def startThreads (obs : List (Observation π)) (s : StoreState) : StoreThreads π :=
  ⟨obs.map fun o => evaluateEdgeAndFlap json zstd clientID scopeKey o.value f o.payload o.now,s,[]⟩

def concurrentRun (obs : List (Observation π)) (s : StoreState) (schedule : List Nat) : StoreThreads π :=
  (startThreads json zstd clientID scopeKey f obs s).interleave storeAnswer schedule

-- A pending write expects a version it read; it can only meet that version
-- again while the slot is still what it read.
inductive Phase (o : Observation π) (j : Nat) (current : Slot) (committed : List Nat) :
    StoreProg (Evaluation π) → Prop
  | fresh (unseen : j ∉ committed) :
      Phase o j current committed
        (.call (.load clientID scopeKey) (evaluateLoaded json zstd clientID scopeKey o.value f o.payload o.now))
  | pending {loaded : Slot} {ver : Int} {next : Edge} {result : Evaluation π}
      {k : Except String Bool → StoreProg (Evaluation π)}
      (planned : plannedWrite json zstd f o.value o.payload o.now (loadSlot loaded) = some (ver,next,result))
      (settles : Settles k result) (valid : SlotValid loaded) (behind : ver ≤ (loadSlot current).2)
      (unchanged : (loadSlot current).2 = ver → current = loaded) (unseen : j ∉ committed) :
      Phase o j current committed (.call (.upsertCAS clientID scopeKey ver next) k)
  | done {x : Evaluation π} (own : Publishes x → j ∈ committed) : Phase o j current committed (.pure x)

structure Linearized (obs : List (Observation π)) (s : StoreState) (c : StoreThreads π) : Prop where
  length_eq : c.programs.length = obs.length
  valid : SlotValid (c.state.edges (clientID,scopeKey))
  version_eq : (loadSlot (c.state.edges (clientID,scopeKey))).2 =
    (loadSlot (s.edges (clientID,scopeKey))).2 + (commits c.trace).length
  versions : (commits c.trace).map (·.2) =
    (List.range (commits c.trace).length).map fun n : Nat => (loadSlot (s.edges (clientID,scopeKey))).2 + (n : Int)
  nodup : (committedThreads c.trace).Nodup
  sequential : c.state.edges (clientID,scopeKey) =
    (runObservations json zstd clientID scopeKey f s (commitObs obs c.trace)).2.edges (clientID,scopeKey)
  phases : ∀ j o, obs[j]? = some o → ∃ program, c.programs[j]? = some program ∧
    Phase json zstd clientID scopeKey f o j (c.state.edges (clientID,scopeKey)) (committedThreads c.trace) program

end

theorem commits_quiet (trace : List StoreEvent) {event : StoreEvent} (quiet : commitOf event = none) :
    commits (trace ++ [event]) = commits trace := by
  simp [commits,quiet]

theorem commits_committed (trace : List StoreEvent) (j : Nat) (clientID scopeKey : String) (ver : Int) (next : Edge) :
    commits (trace ++ [⟨j,.upsertCAS clientID scopeKey ver next,.ok true⟩]) = commits trace ++ [(j,ver)] := by
  simp [commits,commitOf]

theorem upsertSlot_stale {scopeKey : String} {ver : Int} {next : Edge} {slot : Slot} (stale : ver ≠ (loadSlot slot).2) :
    upsertSlot scopeKey ver next slot = (false,slot) := by
  cases slot with
  | none =>
    have nonzero : ¬ver = 0 := stale
    simp [upsertSlot,nonzero]
  | some stored =>
    obtain ⟨e,v⟩ := stored
    have other : ¬(ver ≠ 0 ∧ v = ver) := fun same => stale same.2.symm
    simp only [upsertSlot,if_neg other]

section
variable {json : JsonCodec π} {zstd : Zstd} {clientID scopeKey : String} {f : Option FlapConfig}

theorem Phase.advance {o : Observation π} {j i : Nat} {current current' : Slot} {committed : List Nat}
    {program : StoreProg (Evaluation π)} (phase : Phase json zstd clientID scopeKey f o j current committed program)
    (other : j ≠ i) (advanced : (loadSlot current').2 = (loadSlot current).2 + 1) :
    Phase json zstd clientID scopeKey f o j current' (committed ++ [i]) program := by
  have stays_out : j ∉ committed → j ∉ committed ++ [i] := by
    intro unseen mem
    rcases List.mem_append.1 mem with old | new
    · exact unseen old
    · exact other (List.mem_singleton.1 new)
  cases phase with
  | fresh unseen => exact .fresh (stays_out unseen)
  | pending planned settles valid behind _ unseen =>
    exact .pending planned settles valid (by omega) (fun same => absurd same (by omega)) (stays_out unseen)
  | done own => exact .done (fun publishes => List.mem_append_left _ (own publishes))

theorem start_linearized (obs : List (Observation π)) (s : StoreState) (valid : SlotValid (s.edges (clientID,scopeKey))) :
    Linearized json zstd clientID scopeKey f obs s (startThreads json zstd clientID scopeKey f obs s) where
  length_eq := List.length_map _
  valid := valid
  version_eq := by simp [startThreads,commits]
  versions := rfl
  nodup := List.nodup_nil
  sequential := rfl
  phases := by
    intro j o at_j
    exact ⟨evaluateEdgeAndFlap json zstd clientID scopeKey o.value f o.payload o.now,by simp [startThreads,at_j],
      .fresh (by simp [committedThreads,commits,startThreads])⟩

theorem linearized_of_quiet {obs : List (Observation π)} {s : StoreState} {c : StoreThreads π}
    (lin : Linearized json zstd clientID scopeKey f obs s c) {i : Nat} {o : Observation π} (at_i : obs[i]? = some o)
    {program : StoreProg (Evaluation π)} {state : StoreState} {event : StoreEvent}
    (slot_eq : state.edges (clientID,scopeKey) = c.state.edges (clientID,scopeKey)) (quiet : commitOf event = none)
    (moved : Phase json zstd clientID scopeKey f o i (c.state.edges (clientID,scopeKey)) (committedThreads c.trace) program) :
    Linearized json zstd clientID scopeKey f obs s ⟨c.programs.set i program,state,c.trace ++ [event]⟩ := by
  have same := commits_quiet c.trace quiet
  obtain ⟨within,_⟩ := List.getElem?_eq_some_iff.1 at_i
  refine ⟨?_,?_,?_,?_,?_,?_,?_⟩
  · simp [lin.length_eq]
  · rw [slot_eq]
    exact lin.valid
  · rw [slot_eq,same]
    exact lin.version_eq
  · rw [same]
    exact lin.versions
  · unfold committedThreads
    rw [same]
    exact lin.nodup
  · unfold commitObs committedThreads
    rw [slot_eq,same]
    exact lin.sequential
  · intro j o' at_j
    unfold committedThreads
    rw [slot_eq,same]
    by_cases here : j = i
    · subst here
      rw [at_i,Option.some.injEq] at at_j
      subst at_j
      exact ⟨program,List.getElem?_set_self (by rw [lin.length_eq]; exact within),moved⟩
    · obtain ⟨program',at_j',phase⟩ := lin.phases j o' at_j
      exact ⟨program',by rw [List.getElem?_set_ne (Ne.symm here)]; exact at_j',phase⟩

theorem commit_linearized {obs : List (Observation π)} {s : StoreState} {c : StoreThreads π}
    (lin : Linearized json zstd clientID scopeKey f obs s c) {i : Nat} {o : Observation π} (at_i : obs[i]? = some o)
    {loaded : Slot} {ver : Int} {next : Edge} {result : Evaluation π}
    (planned : plannedWrite json zstd f o.value o.payload o.now (loadSlot loaded) = some (ver,next,result))
    (valid : SlotValid loaded) (current : (loadSlot (c.state.edges (clientID,scopeKey))).2 = ver)
    (same : c.state.edges (clientID,scopeKey) = loaded) (unseen : i ∉ committedThreads c.trace) :
    Linearized json zstd clientID scopeKey f obs s
      ⟨c.programs.set i (.pure result),
        {c.state with edges:=Function.update c.state.edges (clientID,scopeKey) (some ({next with scopeKey:=scopeKey},ver+1))},
        c.trace ++ [⟨i,.upsertCAS clientID scopeKey ver next,.ok true⟩]⟩ := by
  have appended := commits_committed c.trace i clientID scopeKey ver next
  have threads : committedThreads (c.trace ++ [⟨i,.upsertCAS clientID scopeKey ver next,.ok true⟩]) =
      committedThreads c.trace ++ [i] := by
    simp [committedThreads,appended]
  have nonneg := loadSlot_version_nonneg valid
  have version := plannedWrite_version planned
  have written : ({c.state with edges:=Function.update c.state.edges (clientID,scopeKey) (some ({next with scopeKey:=scopeKey},ver+1))} :
      StoreState).edges (clientID,scopeKey) = some ({next with scopeKey:=scopeKey},ver+1) :=
    Function.update_self _ _ _
  obtain ⟨within,_⟩ := List.getElem?_eq_some_iff.1 at_i
  refine ⟨?_,?_,?_,?_,?_,?_,?_⟩
  · simp [lin.length_eq]
  · rw [written]
    exact slotValid_some (by omega)
  · rw [written,appended]
    have before := lin.version_eq
    rw [current] at before
    show ver + 1 = _
    rw [List.length_append,List.length_singleton]
    push_cast
    omega
  · rw [appended,List.map_append,lin.versions,List.length_append,List.length_singleton,List.range_succ,List.map_append]
    have before := lin.version_eq
    rw [current] at before
    simp [before]
  · rw [threads]
    exact lin.nodup.append (List.nodup_singleton i) (fun _ old single => by
      rw [List.mem_singleton] at single
      rw [single] at old
      exact unseen old)
  · -- the sequential run meets the same slot before this call, so it plans the same write
    have observed : commitObs obs (c.trace ++ [⟨i,.upsertCAS clientID scopeKey ver next,.ok true⟩]) =
        commitObs obs c.trace ++ [o] := by
      simp [commitObs,threads,at_i]
    have before : (runObservations json zstd clientID scopeKey f s (commitObs obs c.trace)).2.edges (clientID,scopeKey) =
        loaded := by
      rw [← lin.sequential,same]
    rw [written,observed,runObservations_snoc]
    dsimp only
    rw [evaluate_planned (by rw [before]; exact valid) (by rw [before]; exact planned)]
    dsimp only
    rw [Function.update_self]
  · intro j o' at_j
    rw [threads]
    by_cases here : j = i
    · subst here
      rw [at_i,Option.some.injEq] at at_j
      subst at_j
      exact ⟨.pure result,List.getElem?_set_self (by rw [lin.length_eq]; exact within),
        .done (fun _ => List.mem_append_right _ (List.mem_singleton_self j))⟩
    · obtain ⟨program,at_j',phase⟩ := lin.phases j o' at_j
      refine ⟨program,by rw [List.getElem?_set_ne (Ne.symm here)]; exact at_j',phase.advance here ?_⟩
      rw [written,current]
      rfl

theorem load_linearized {obs : List (Observation π)} {s : StoreState} {c : StoreThreads π}
    (lin : Linearized json zstd clientID scopeKey f obs s c) {i : Nat} {o : Observation π} (at_i : obs[i]? = some o)
    (at_program : c.programs[i]? =
      some (.call (.load clientID scopeKey) (evaluateLoaded json zstd clientID scopeKey o.value f o.payload o.now)))
    (unseen : i ∉ committedThreads c.trace) :
    Linearized json zstd clientID scopeKey f obs s (c.step storeAnswer i) := by
  rw [Threads.step_of_call at_program,storeAnswer_load]
  refine linearized_of_quiet lin at_i rfl rfl ?_
  have shape := evaluateLoaded_shape json zstd clientID scopeKey o.value f o.payload o.now
    (loadSlot (c.state.edges (clientID,scopeKey)))
  cases planned : plannedWrite json zstd f o.value o.payload o.now (loadSlot (c.state.edges (clientID,scopeKey))) with
  | none =>
    rw [planned] at shape
    obtain ⟨x,program,quiet,_⟩ := shape
    rw [program]
    refine .done (fun publishes => ?_)
    rcases publishes with forward | sent
    · rw [quiet] at forward
      cases forward
    · rw [quiet] at sent
      cases sent
  | some write =>
    obtain ⟨ver,next,result⟩ := write
    rw [planned] at shape
    obtain ⟨k,program,settles⟩ := shape
    rw [program]
    have version := plannedWrite_version planned
    exact .pending planned settles lin.valid (by omega) (fun _ => rfl) unseen

theorem upsert_linearized {obs : List (Observation π)} {s : StoreState} {c : StoreThreads π}
    (lin : Linearized json zstd clientID scopeKey f obs s c) {i : Nat} {o : Observation π} (at_i : obs[i]? = some o)
    {loaded : Slot} {ver : Int} {next : Edge} {result : Evaluation π} {k : Except String Bool → StoreProg (Evaluation π)}
    (at_program : c.programs[i]? = some (.call (.upsertCAS clientID scopeKey ver next) k))
    (planned : plannedWrite json zstd f o.value o.payload o.now (loadSlot loaded) = some (ver,next,result))
    (settles : Settles k result) (valid : SlotValid loaded)
    (unchanged : (loadSlot (c.state.edges (clientID,scopeKey))).2 = ver → c.state.edges (clientID,scopeKey) = loaded)
    (unseen : i ∉ committedThreads c.trace) :
    Linearized json zstd clientID scopeKey f obs s (c.step storeAnswer i) := by
  rw [Threads.step_of_call at_program,storeAnswer_upsertCAS]
  by_cases current : (loadSlot (c.state.edges (clientID,scopeKey))).2 = ver
  · have same := unchanged current
    have version := plannedWrite_version planned
    have committed : upsertSlot scopeKey ver next (c.state.edges (clientID,scopeKey)) =
        (true,some ({next with scopeKey:=scopeKey},ver+1)) := by
      rw [same,version]
      exact upsertSlot_commits valid next
    rw [committed,settles.1]
    exact commit_linearized lin at_i planned valid current same unseen
  · have stale : upsertSlot scopeKey ver next (c.state.edges (clientID,scopeKey)) =
        (false,c.state.edges (clientID,scopeKey)) := upsertSlot_stale (Ne.symm current)
    obtain ⟨x,refused,quiet⟩ := settles.2 (.ok false) (fun absurd_ok => Bool.false_ne_true (Except.ok.inj absurd_ok))
    rw [stale,refused]
    exact linearized_of_quiet lin at_i (by simp) rfl (.done (fun publishes => absurd publishes quiet))

theorem step_linearized {obs : List (Observation π)} {s : StoreState} {c : StoreThreads π}
    (lin : Linearized json zstd clientID scopeKey f obs s c) (i : Nat) :
    Linearized json zstd clientID scopeKey f obs s (c.step storeAnswer i) := by
  cases at_i : obs[i]? with
  | none =>
    have idle : c.programs[i]? = none := by
      rw [List.getElem?_eq_none_iff,lin.length_eq]
      exact List.getElem?_eq_none_iff.1 at_i
    rw [Threads.step_of_not_call (by simp [idle])]
    exact lin
  | some o =>
    obtain ⟨program,at_program,phase⟩ := lin.phases i o at_i
    cases phase with
    | fresh unseen => exact load_linearized lin at_i at_program unseen
    | pending planned settles valid _ unchanged unseen =>
      exact upsert_linearized lin at_i at_program planned settles valid unchanged unseen
    | done =>
      rw [Threads.step_of_not_call (by simp [at_program])]
      exact lin

end

theorem concurrentRun_linearized (json : JsonCodec π) (zstd : Zstd) (clientID scopeKey : String) (f : Option FlapConfig)
    (obs : List (Observation π)) (s : StoreState) (valid : SlotValid (s.edges (clientID,scopeKey))) (schedule : List Nat) :
    Linearized json zstd clientID scopeKey f obs s (concurrentRun json zstd clientID scopeKey f obs s schedule) :=
  Threads.interleave_invariant (Linearized json zstd clientID scopeKey f obs s) (fun _ i lin => step_linearized lin i)
    schedule (start_linearized obs s valid)

end Enoti
