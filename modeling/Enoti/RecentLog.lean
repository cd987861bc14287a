import Enoti.EdgeDetection
import Enoti.Suffix

namespace Enoti

variable {π : Type}

-- The flips since the latest clear point, each with the index of its call, and
-- the flips each sent aggregate was built from.
structure FlipLog where
  lastValue : String
  windowStart : Int
  pending : List (Nat × Flip)
  sent : List (List (Nat × Flip))

def FlipLog.sentIndices (log : FlipLog) : List Nat := (log.sent.map (·.map (·.1))).flatten

-- A window-opening flip is a clear point and stays as the only flip; an
-- AggregateSent is one after the aggregate takes the flips.
def logFlip (f : Option FlapConfig) (i : Nat) (o : Observation String) (action : Action) (log : FlipLog) : FlipLog :=
  let flip : Nat × Flip := (i,⟨o.now,log.lastValue,o.value,o.payload⟩)
  if opensWindow f o.now log.windowStart then ⟨o.value,o.now,[flip],log.sent⟩
  else if action = .aggregateSent then
    ⟨o.value,log.windowStart,[],log.sent ++ [(log.pending ++ [flip]).rtake hardLimitRecentItems]⟩
  else ⟨o.value,log.windowStart,log.pending ++ [flip],log.sent⟩

def logStep (f : Option FlapConfig) (i : Nat) (o : Observation String) (action : Action) : Option FlipLog → Option FlipLog
  | none => some ⟨o.value,o.now,[],[]⟩
  | some log => if log.lastValue = o.value then some log else some (logFlip f i o action log)

def logRun (f : Option FlapConfig) : Nat → Option FlipLog → List (Observation String × Action) → Option FlipLog
  | _, log, [] => log
  | i, log, (o,action) :: rest => logRun f (i+1) (logStep f i o action log) rest

def sentOf (log : Option FlipLog) : List (List (Nat × Flip)) := (log.map (·.sent)).getD []

def selectedItems (json : JsonCodec π) (zstd : Zstd) (f : Option FlapConfig) (flips : List (Nat × Flip)) :
    List (AggregateItem π) :=
  (buildAggregate json zstd ({recent:=flips.map (·.2)} : Edge) ((f.map (·.aggregateMaxItems)).getD 0)).recent

structure Chained (log : FlipLog) : Prop where
  changes : ∀ x ∈ log.pending, x.2.from ≠ x.2.to
  chain : (log.pending.map (·.2)).IsChain fun a b => a.to = b.from
  last : ∀ x ∈ (log.pending.map (·.2)).getLast?, x.to = log.lastValue

structure Ordered (log : FlipLog) (next : Nat) : Prop where
  increasing : (log.sentIndices ++ log.pending.map (·.1)).Pairwise (· < ·)
  below : ∀ j ∈ log.sentIndices ++ log.pending.map (·.1), j < next

structure Represents (e : Edge) (log : FlipLog) : Prop where
  value_eq : e.lastValue = log.lastValue
  window_eq : e.windowStart = log.windowStart
  recent_eq : e.recent = (log.pending.map (·.2)).rtake hardLimitRecentItems

def Tracks : Slot → Option FlipLog → Nat → Prop
  | none, none, _ => True
  | some (e,v), some log, next => 0 < v ∧ Represents e log ∧ Chained log ∧ Ordered log next
  | _, _, _ => False

theorem Represents.scoped {e : Edge} {log : FlipLog} (rep : Represents e log) (scopeKey : String) :
    Represents {e with scopeKey:=scopeKey} log :=
  ⟨rep.value_eq,rep.window_eq,rep.recent_eq⟩

section
variable {f : Option FlapConfig} {i : Nat} {o : Observation String} {action : Action} {log : FlipLog}

theorem logFlip_chained (chained : Chained log) (flipped : log.lastValue ≠ o.value) :
    Chained (logFlip f i o action log) := by
  unfold logFlip
  dsimp only
  split
  · exact ⟨by simpa using flipped,by simp,by simp⟩
  split
  · exact ⟨by simp,by simp,by simp⟩
  refine ⟨?_,?_,?_⟩
  · intro x mem
    rcases List.mem_append.1 mem with old | new
    · exact chained.changes x old
    · rw [List.mem_singleton] at new
      rw [new]
      exact flipped
  · -- the new flip starts at the value the last pending flip ended at
    rw [List.map_append]
    refine chained.chain.append (List.isChain_singleton _) ?_
    intro x last y head
    rw [List.map_singleton,List.head?_singleton,Option.mem_some_iff] at head
    rw [← head]
    exact chained.last x last
  · intro x last
    rw [List.map_append,List.map_singleton,List.getLast?_concat,Option.mem_some_iff] at last
    rw [← last]

theorem Ordered.succ (ordered : Ordered log i) : Ordered log (i+1) :=
  ⟨ordered.increasing,fun j mem => Nat.lt_succ_of_lt (ordered.below j mem)⟩

theorem ordered_of_sublist (ordered : Ordered log i) {l : List Nat}
    (drawn : l.Sublist (log.sentIndices ++ log.pending.map (·.1) ++ [i])) :
    l.Pairwise (· < ·) ∧ ∀ j ∈ l, j < i+1 := by
  have extended : (log.sentIndices ++ log.pending.map (·.1) ++ [i]).Pairwise (· < ·) := by
    refine List.pairwise_append.2 ⟨ordered.increasing,List.pairwise_singleton _ _,?_⟩
    intro j mem k single
    rw [List.mem_singleton] at single
    rw [single]
    exact ordered.below j mem
  refine ⟨extended.sublist drawn,?_⟩
  intro j mem
  rcases List.mem_append.1 (drawn.subset mem) with old | new
  · exact Nat.lt_succ_of_lt (ordered.below j old)
  · rw [List.mem_singleton] at new
    omega

theorem logFlip_ordered (ordered : Ordered log i) : Ordered (logFlip f i o action log) (i+1) := by
  unfold logFlip
  dsimp only
  split
  · obtain ⟨increasing,below⟩ := ordered_of_sublist ordered (l:=log.sentIndices ++ [i])
      ((List.sublist_append_left _ _).append_right _)
    exact ⟨increasing,below⟩
  split
  · -- the aggregate takes the newest pending flips, a suffix of them
    have suffix : (((log.pending ++ [((i,⟨o.now,log.lastValue,o.value,o.payload⟩) : Nat × Flip)]).rtake
        hardLimitRecentItems).map (·.1)).Sublist (log.pending.map (·.1) ++ [i]) := by
      rw [List.map_rtake,List.map_append]
      exact List.rtake_sublist _ _
    generalize (log.pending ++ [((i,⟨o.now,log.lastValue,o.value,o.payload⟩) : Nat × Flip)]).rtake
      hardLimitRecentItems = taken at suffix ⊢
    have same : FlipLog.sentIndices ⟨o.value,log.windowStart,[],log.sent ++ [taken]⟩ ++ ([] : List (Nat × Flip)).map (·.1) =
        log.sentIndices ++ taken.map (·.1) := by
      simp [FlipLog.sentIndices]
    obtain ⟨increasing,below⟩ := ordered_of_sublist ordered (l:=log.sentIndices ++ taken.map (·.1))
      (by rw [List.append_assoc]; exact suffix.append_left _)
    constructor
    · show (FlipLog.sentIndices ⟨o.value,log.windowStart,[],log.sent ++ [taken]⟩ ++ ([] : List (Nat × Flip)).map (·.1)).Pairwise _
      rw [same]
      exact increasing
    · show ∀ j ∈ FlipLog.sentIndices ⟨o.value,log.windowStart,[],log.sent ++ [taken]⟩ ++ ([] : List (Nat × Flip)).map (·.1), _
      rw [same]
      exact below
  · obtain ⟨increasing,below⟩ := ordered_of_sublist ordered (List.Sublist.refl _)
    have same : FlipLog.sentIndices ⟨o.value,log.windowStart,log.pending ++ [((i,⟨o.now,log.lastValue,o.value,o.payload⟩) : Nat × Flip)],log.sent⟩ ++
        (log.pending ++ [((i,⟨o.now,log.lastValue,o.value,o.payload⟩) : Nat × Flip)]).map (·.1) =
        log.sentIndices ++ log.pending.map (·.1) ++ [i] := by
      rw [List.map_append,List.map_singleton,← List.append_assoc]
      rfl
    constructor
    · rw [same]
      exact increasing
    · rw [same]
      exact below

end

def loggedCalls (json : JsonCodec π) (zstd : Zstd) (obs : List (Observation π)) (results : List (Evaluation π)) :
    List (Observation String × Action) :=
  (obs.map fun o => (⟨o.value,o.now,storedPayload json zstd o.payload⟩ : Observation String)).zip (results.map (·.action))

theorem loggedCalls_cons (json : JsonCodec π) (zstd : Zstd) (o : Observation π) (obs : List (Observation π))
    (r : Evaluation π) (results : List (Evaluation π)) :
    loggedCalls json zstd (o :: obs) (r :: results) =
      (⟨o.value,o.now,storedPayload json zstd o.payload⟩,r.action) :: loggedCalls json zstd obs results :=
  rfl

section
variable {e : Edge} {log : FlipLog}

theorem recordFlip_recent (rep : Represents e log) (i : Nat) (o : Observation String) :
    (recordFlip e o.value o.now o.payload).recent =
      ((log.pending ++ [((i,⟨o.now,log.lastValue,o.value,o.payload⟩) : Nat × Flip)]).map (·.2)).rtake hardLimitRecentItems := by
  unfold recordFlip
  dsimp only
  rw [appendRecent_eq_rtake,rep.recent_eq,List.rtake_append_singleton,rep.value_eq,List.map_append,List.map_singleton]

theorem flip_represents (json : JsonCodec π) (zstd : Zstd) (f : Option FlapConfig) (rep : Represents e log) (i : Nat)
    (o : Observation String) :
    Represents (flipOutcome json zstd f o.now (recordFlip e o.value o.now o.payload)).1
      (logFlip f i o (flipOutcome json zstd f o.now (recordFlip e o.value o.now o.payload)).2.action log) := by
  obtain ⟨window,recent,_⟩ := flipOutcome_window json zstd f o.now (recordFlip e o.value o.now o.payload)
  have value := (flipOutcome_edge json zstd f o.now (recordFlip e o.value o.now o.payload)).1
  have start : (recordFlip e o.value o.now o.payload).windowStart = log.windowStart := rep.window_eq
  rw [start] at window recent
  rw [recordFlip_recent rep i o] at recent
  unfold logFlip
  dsimp only
  by_cases opens : opensWindow f o.now log.windowStart = true
  · rw [if_pos opens] at window recent ⊢
    refine ⟨value,window,?_⟩
    -- the window-opening flip is the newest of the recorded ones, and stays alone
    have capped : hardLimitRecentItems = 127 + 1 := rfl
    rw [recent,List.map_append,List.map_singleton,capped,List.rtake_concat_succ,if_pos (by simp),
      List.drop_length_sub_one_concat]
    simp [List.rtake]
  · rw [if_neg opens] at window recent ⊢
    by_cases sent : (flipOutcome json zstd f o.now (recordFlip e o.value o.now o.payload)).2.action = .aggregateSent
    · rw [if_pos sent] at recent ⊢
      exact ⟨value,window,by rw [recent]; simp [List.rtake]⟩
    · rw [if_neg sent] at recent ⊢
      exact ⟨value,window,recent⟩

theorem flip_sent (json : JsonCodec π) (zstd : Zstd) (f : Option FlapConfig) (rep : Represents e log) (i : Nat)
    (o : Observation String) :
    log.sent.map (selectedItems json zstd f) ++
        ((flipOutcome json zstd f o.now (recordFlip e o.value o.now o.payload)).2.aggregate.map (·.recent)).toList =
      (logFlip f i o (flipOutcome json zstd f o.now (recordFlip e o.value o.now o.payload)).2.action log).sent.map
        (selectedItems json zstd f) := by
  obtain ⟨_,_,unsent⟩ := flipOutcome_window json zstd f o.now (recordFlip e o.value o.now o.payload)
  have start : (recordFlip e o.value o.now o.payload).windowStart = log.windowStart := rep.window_eq
  rw [start] at unsent
  rw [flipOutcome_aggregate]
  unfold logFlip
  dsimp only
  by_cases opens : opensWindow f o.now log.windowStart = true
  · rw [if_pos opens,if_neg (unsent opens)]
    simp
  · rw [if_neg opens]
    by_cases sent : (flipOutcome json zstd f o.now (recordFlip e o.value o.now o.payload)).2.action = .aggregateSent
    · rw [if_pos sent,if_pos sent,recordFlip_recent rep i o,← List.map_rtake]
      simp [selectedItems]
    · rw [if_neg sent,if_neg sent]
      simp

end

theorem logRun_some (f : Option FlapConfig) (calls : List (Observation String × Action)) (nonempty : calls ≠ []) :
    ∀ (i : Nat) (log : Option FlipLog), ∃ last, logRun f i log calls = some last := by
  induction calls with
  | nil => exact absurd rfl nonempty
  | cons call rest ih =>
    intro i log
    obtain ⟨o,action⟩ := call
    cases rest with
    | nil =>
      cases log with
      | none => exact ⟨_,rfl⟩
      | some log =>
        by_cases stable : log.lastValue = o.value
        · exact ⟨log,by simp [logRun,logStep,stable]⟩
        · exact ⟨logFlip f i o action log,by simp [logRun,logStep,stable]⟩
    | cons next later => exact ih (List.cons_ne_nil next later) (i+1) _

section
variable {clientID scopeKey : String} {f : Option FlapConfig}

theorem evaluate_tracks (json : JsonCodec π) (zstd : Zstd) (marshals : ∀ d, ∃ b, json.marshal d = .ok b)
    {s : StoreState} {o : Observation π} {log : Option FlipLog} {i : Nat}
    (tracks : Tracks (s.edges (clientID,scopeKey)) log i) :
    Tracks ((evaluate json zstd clientID scopeKey f s o).2.edges (clientID,scopeKey))
        (logStep f i ⟨o.value,o.now,storedPayload json zstd o.payload⟩ (evaluate json zstd clientID scopeKey f s o).1.action log)
        (i+1) ∧
      (sentOf log).map (selectedItems json zstd f) ++ ((evaluate json zstd clientID scopeKey f s o).1.aggregate.map (·.recent)).toList =
        (sentOf (logStep f i ⟨o.value,o.now,storedPayload json zstd o.payload⟩
          (evaluate json zstd clientID scopeKey f s o).1.action log)).map (selectedItems json zstd f) := by
  cases stored : s.edges (clientID,scopeKey) with
  | none =>
    rw [stored] at tracks
    cases log with
    | some _ => exact tracks.elim
    | none =>
      rw [evaluate_first stored]
      refine ⟨?_,rfl⟩
      dsimp only
      rw [Function.update_self]
      exact ⟨Int.one_pos,⟨rfl,rfl,by simp [firstEdge]⟩,⟨by simp,by simp,by simp⟩,⟨by simp [FlipLog.sentIndices],by simp [FlipLog.sentIndices]⟩⟩
  | some slot =>
    obtain ⟨e,v⟩ := slot
    rw [stored] at tracks
    cases log with
    | none => exact tracks.elim
    | some log =>
      obtain ⟨positive,rep,chained,ordered⟩ := tracks
      by_cases stable : e.lastValue = o.value
      · obtain ⟨_,unsent,unchanged⟩ : (evaluate json zstd clientID scopeKey f s o).1.action = .noOp ∧
            (evaluate json zstd clientID scopeKey f s o).1.aggregate = none ∧
            (evaluate json zstd clientID scopeKey f s o).2 = s := evaluate_stable stored stable
        have same : log.lastValue = o.value := by rw [← rep.value_eq]; exact stable
        have kept : logStep f i ⟨o.value,o.now,storedPayload json zstd o.payload⟩
            (evaluate json zstd clientID scopeKey f s o).1.action (some log) = some log := by
          simp [logStep,same]
        rw [kept,unsent,unchanged,stored]
        exact ⟨⟨positive,rep,chained,ordered.succ⟩,by simp⟩
      · have flipped : log.lastValue ≠ o.value := by rw [← rep.value_eq]; exact stable
        rw [evaluate_flip marshals stored positive stable]
        simp only [logStep,flipped,if_false,sentOf,Option.map_some,Option.getD_some]
        refine ⟨?_,flip_sent json zstd f rep i ⟨o.value,o.now,storedPayload json zstd o.payload⟩⟩
        rw [Function.update_self]
        exact ⟨by omega,(flip_represents json zstd f rep i ⟨o.value,o.now,storedPayload json zstd o.payload⟩).scoped scopeKey,
          logFlip_chained chained flipped,logFlip_ordered ordered⟩

theorem runs_track (json : JsonCodec π) (zstd : Zstd) (marshals : ∀ d, ∃ b, json.marshal d = .ok b)
    (obs : List (Observation π)) :
    ∀ (s : StoreState) (log : Option FlipLog) (i : Nat), Tracks (s.edges (clientID,scopeKey)) log i →
      Tracks ((runObservations json zstd clientID scopeKey f s obs).2.edges (clientID,scopeKey))
          (logRun f i log (loggedCalls json zstd obs (runObservations json zstd clientID scopeKey f s obs).1)) (i + obs.length) ∧
        (sentOf log).map (selectedItems json zstd f) ++
            ((runObservations json zstd clientID scopeKey f s obs).1.filterMap (·.aggregate)).map (·.recent) =
          (sentOf (logRun f i log (loggedCalls json zstd obs (runObservations json zstd clientID scopeKey f s obs).1))).map
            (selectedItems json zstd f) := by
  induction obs with
  | nil => exact fun s log i tracks => ⟨tracks,by simp [runObservations,loggedCalls,logRun]⟩
  | cons o rest ih =>
    intro s log i tracks
    obtain ⟨stepped,recorded⟩ := evaluate_tracks (f:=f) json zstd marshals (o:=o) tracks
    obtain ⟨tracked,collected⟩ := ih _ _ (i+1) stepped
    have shifted : i + (rest.length + 1) = i + 1 + rest.length := by omega
    simp only [runObservations,loggedCalls_cons,logRun,List.length_cons,shifted]
    refine ⟨tracked,?_⟩
    rw [← collected,← recorded,List.append_assoc]
    congr 1
    cases sent : (evaluate json zstd clientID scopeKey f s o).1.aggregate <;> simp [sent]

end

theorem recent_holds_flips_since_clear (json : JsonCodec π) (zstd : Zstd)
    (marshals : ∀ d, ∃ b, json.marshal d = .ok b) (clientID scopeKey : String) (f : Option FlapConfig) (s : StoreState)
    (empty : s.edges (clientID,scopeKey) = none) (obs : List (Observation π)) (nonempty : obs ≠ []) :
    ∃ e v log, (runObservations json zstd clientID scopeKey f s obs).2.edges (clientID,scopeKey) = some (e,v) ∧
      logRun f 0 none (loggedCalls json zstd obs (runObservations json zstd clientID scopeKey f s obs).1) = some log ∧
      e.recent = (log.pending.map (·.2)).rtake hardLimitRecentItems ∧ (log.pending.map (·.1)).Pairwise (· < ·) ∧
      (∀ x ∈ e.recent, x.from ≠ x.to) ∧ e.recent.IsChain (fun a b => a.to = b.from) ∧
      (∀ x ∈ e.recent.getLast?, x.to = e.lastValue) ∧
      ((runObservations json zstd clientID scopeKey f s obs).1.filterMap (·.aggregate)).map (·.recent) =
        log.sent.map (selectedItems json zstd f) ∧
      log.sentIndices.Nodup := by
  have tracks : Tracks (s.edges (clientID,scopeKey)) none 0 := by
    rw [empty]
    trivial
  obtain ⟨tracked,collected⟩ := runs_track (f:=f) json zstd marshals obs s none 0 tracks
  have calls : loggedCalls json zstd obs (runObservations json zstd clientID scopeKey f s obs).1 ≠ [] := by
    cases obs with
    | nil => exact absurd rfl nonempty
    | cons o rest =>
      simp only [runObservations,loggedCalls_cons]
      exact List.cons_ne_nil _ _
  obtain ⟨log,logged⟩ := logRun_some f _ calls 0 none
  rw [logged] at tracked collected
  cases stored : (runObservations json zstd clientID scopeKey f s obs).2.edges (clientID,scopeKey) with
  | none =>
    rw [stored] at tracked
    exact tracked.elim
  | some slot =>
    obtain ⟨e,v⟩ := slot
    rw [stored] at tracked
    obtain ⟨_,rep,chained,ordered⟩ := tracked
    -- Recent is a suffix of the pending flips, so it inherits their shape
    have suffix : ∀ x ∈ e.recent, x ∈ log.pending.map (·.2) := by
      intro x mem
      rw [rep.recent_eq] at mem
      exact List.mem_of_mem_rtake mem
    have split := List.pairwise_append.1 ordered.increasing
    refine ⟨e,v,log,rfl,logged,rep.recent_eq,split.2.1,?_,?_,?_,?_,?_⟩
    · intro x mem
      obtain ⟨y,pending,rfl⟩ := List.mem_map.1 (suffix x mem)
      exact chained.changes y pending
    · rw [rep.recent_eq,List.rtake]
      exact chained.chain.drop _
    · intro x last
      rw [rep.recent_eq] at last
      rw [rep.value_eq]
      exact chained.last x (List.getLast?_rtake last)
    · simpa [sentOf] using collected
    · exact split.1.imp Nat.ne_of_lt

-- Two flips make an aggregate, which empties Recent; a flip 90 s later opens a
-- new window, and one more flip sends a second aggregate.
def flappingConfig : FlapConfig := ⟨60,0,2,5,0⟩

def flappingRun : List (Observation Unit) := [⟨"on",0,()⟩,⟨"off",5,()⟩,⟨"on",10,()⟩,⟨"off",100,()⟩,⟨"on",105,()⟩]

theorem recent_holds_flips_since_clear_on_flapping :
    (runObservations unitJson plainZstd "c" "s" (some flappingConfig) emptyStore flappingRun).1.map (·.action) =
      [.edgeTriggeredForward,.suppressFlapping,.aggregateSent,.edgeTriggeredForward,.aggregateSent] ∧
    (∀ d, ∃ b, unitJson.marshal d = .ok b) ∧ emptyStore.edges ("c","s") = none ∧ flappingRun ≠ [] ∧
      ∃ e v log, (runObservations unitJson plainZstd "c" "s" (some flappingConfig) emptyStore flappingRun).2.edges ("c","s") =
          some (e,v) ∧
        logRun (some flappingConfig) 0 none (loggedCalls unitJson plainZstd flappingRun
          (runObservations unitJson plainZstd "c" "s" (some flappingConfig) emptyStore flappingRun).1) = some log ∧
        e.recent = (log.pending.map (·.2)).rtake hardLimitRecentItems ∧ (log.pending.map (·.1)).Pairwise (· < ·) ∧
        (∀ x ∈ e.recent, x.from ≠ x.to) ∧ e.recent.IsChain (fun a b => a.to = b.from) ∧
        (∀ x ∈ e.recent.getLast?, x.to = e.lastValue) ∧
        ((runObservations unitJson plainZstd "c" "s" (some flappingConfig) emptyStore flappingRun).1.filterMap
          (·.aggregate)).map (·.recent) = log.sent.map (selectedItems unitJson plainZstd (some flappingConfig)) ∧
        log.sentIndices.Nodup := by
  have actions : (runObservations unitJson plainZstd "c" "s" (some flappingConfig) emptyStore flappingRun).1.map (·.action) =
      [.edgeTriggeredForward,.suppressFlapping,.aggregateSent,.edgeTriggeredForward,.aggregateSent] := by decide
  exact ⟨actions,fun _ => ⟨[],rfl⟩,rfl,List.cons_ne_nil _ _,recent_holds_flips_since_clear unitJson plainZstd
    (fun _ => ⟨[],rfl⟩) "c" "s" (some flappingConfig) emptyStore rfl flappingRun (List.cons_ne_nil _ _)⟩

end Enoti
