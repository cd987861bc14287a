import Enoti.KeySpace
import Enoti.Ttl

namespace Enoti

-- A request's LoadCachedClientConfig in flight, and the clock when it began.
structure Load where
  clientID : String
  started : Int
  program : ConfigProg (Except ClientStoreError ClientConfig)

-- The process around cfgCache, with the loads of the requests it has begun.
structure Process where
  now : Int
  cache : TTL String ClientConfig
  registry : Registry
  loads : List Load

-- init(): cfgCache starts empty.
def Process.start (now : Int) (registry : Registry) : Process := ⟨now,newTTL,registry,[]⟩

-- Each call of a load is one step: Get's read under RLock, its time.Now() after
-- RUnlock, the ClientStore read, and Set, which reads the clock under Lock.
def processAnswer (p : Process) : (op : ConfigCall) → op.Resp × Process
  | .cacheLookup id => (p.cache.data id,p)
  | .timeNow => (p.now,p)
  | .store call => ((registryAnswer p.registry call).1,{p with registry:=(registryAnswer p.registry call).2})
  | .cacheSet id cc ttl => ((),{p with cache:=p.cache.set p.now id cc ttl})

-- Any interleaving of the loads' calls with ticks and admin writes is some list
-- of events.
inductive CacheEvent where
  | tick (elapsed : Nat)
  | admin (call : ClientStoreCall)
  | begin (clientID : String)
  | advance (load : Nat)

def Process.step (p : Process) : CacheEvent → Option (String × Except ClientStoreError ClientConfig) × Process
  | .tick elapsed => (none,{p with now:=p.now + elapsed})
  | .admin call => (none,{p with registry:=(registryAnswer p.registry call).2})
  | .begin id => (none,{p with loads:=p.loads ++ [⟨id,p.now,loadCachedClientConfig id⟩]})
  | .advance l =>
    match p.loads[l]? with
    | some ⟨id,started,.call op next⟩ =>
      ((next (processAnswer p op).1).value?.map fun result => (id,result),
        {(processAnswer p op).2 with loads:=p.loads.set l ⟨id,started,next (processAnswer p op).1⟩})
    | _ => (none,p)

def Process.after (p : Process) (events : List CacheEvent) (n : Nat) : Process :=
  (Interaction.runSteps Process.step p (events.take n)).2

def CacheEvent.writes (id : String) : CacheEvent → Bool
  | .admin (.putClientConfig clientID _) => clientID == id
  | .admin (.deleteClientConfig clientID) => clientID == id
  | _ => false

section
variable {p : Process} {l : Nat}

theorem step_advance {load : Load} {op : ConfigCall} {next : op.Resp → ConfigProg (Except ClientStoreError ClientConfig)}
    (at_l : p.loads[l]? = some load) (calls : load.program = .call op next) :
    p.step (.advance l) = ((next (processAnswer p op).1).value?.map fun result => (load.clientID,result),
      {(processAnswer p op).2 with loads:=p.loads.set l {load with program:=next (processAnswer p op).1}}) := by
  obtain ⟨id,started,program⟩ := load
  dsimp only at calls
  subst calls
  simp [Process.step,at_l]

theorem step_advance_finished {load : Load} {result : Except ClientStoreError ClientConfig}
    (at_l : p.loads[l]? = some load) (finished : load.program = .pure result) : p.step (.advance l) = (none,p) := by
  obtain ⟨id,started,program⟩ := load
  dsimp only at finished
  subst finished
  simp [Process.step,at_l]

theorem step_advance_absent (at_l : p.loads[l]? = none) : p.step (.advance l) = (none,p) := by
  simp [Process.step,at_l]

theorem processAnswer_now (op : ConfigCall) : (processAnswer p op).2.now = p.now := by
  cases op <;> rfl

theorem processAnswer_loads (op : ConfigCall) : (processAnswer p op).2.loads = p.loads := by
  cases op <;> rfl

theorem processAnswer_valid (valid : RegistryValid p.registry) (op : ConfigCall) :
    RegistryValid (processAnswer p op).2.registry := by
  cases op with
  | store call => exact registryAnswer_valid valid call
  | _ => exact valid

theorem step_valid (valid : RegistryValid p.registry) (event : CacheEvent) : RegistryValid (p.step event).2.registry := by
  cases event with
  | admin call => exact registryAnswer_valid valid call
  | advance l =>
    simp only [Process.step]
    split
    · exact processAnswer_valid valid _
    · exact valid
  | _ => exact valid

theorem step_now (event : CacheEvent) : p.now ≤ (p.step event).2.now := by
  cases event with
  | tick elapsed => exact Int.le_add_of_nonneg_right (Int.natCast_nonneg elapsed)
  | admin => exact Int.le_refl _
  | begin => exact Int.le_refl _
  | advance l =>
    simp only [Process.step]
    split
    · exact Int.le_of_eq (processAnswer_now _).symm
    · exact Int.le_refl _

end

section
-- held id cc t: the registry held cc for id at a point whose clock read t.
variable (held : String → ClientConfig → Int → Prop) (D : Nat)

def Fresh (id : String) (e : TTL.Entry ClientConfig) : Prop :=
  ∃ t, held id e.val t ∧ e.exp ≤ t + 300 * second + D

inductive Stage (id : String) (started : Int) : ConfigProg (Except ClientStoreError ClientConfig) → Prop where
  | lookup : Stage id started (loadCachedClientConfig id)
  | miss : Stage id started (loadFromStore id)
  | check {e : TTL.Entry ClientConfig} (fresh : Fresh held D id e) : Stage id started (checkEntry id e)
  -- the read found cc at clock t, after the load began
  | caching {cc : ClientConfig} {t : Int} (read : held id cc t) (late : started ≤ t) :
      Stage id started (cacheConfig id cc)
  | finished {result : Except ClientStoreError ClientConfig} : Stage id started (.pure result)

structure Invariant (p : Process) : Prop where
  cache : ∀ id e, p.cache.data id = some e → Fresh held D id e
  loads : ∀ load ∈ p.loads, load.started ≤ p.now ∧ Stage held D load.clientID load.started load.program

-- What a finished load answered: what a store read then answers, or a config
-- the registry held within 300 s + D.
def Answered (p : Process) (id : String) (result : Except ClientStoreError ClientConfig) : Prop :=
  result = (registryAnswer p.registry (.getClientConfig id)).1 ∨
    ∃ v t, result = .ok v ∧ held id v t ∧ p.now ≤ t + 300 * second + D

structure Keeps (p : Process) (out : Option (String × Except ClientStoreError ClientConfig) × Process) : Prop where
  invariant : Invariant held D out.2
  registry : out.2.registry = p.registry
  answered : ∀ id result, out.1 = some (id,result) → Answered held D p id result

end

def InFlight (D : Nat) (p : Process) : Prop :=
  ∀ load ∈ p.loads, load.program.value?.isNone → p.now ≤ load.started + D

instance (D : Nat) (p : Process) : Decidable (InFlight D p) :=
  inferInstanceAs (Decidable (∀ load ∈ p.loads, load.program.value?.isNone → p.now ≤ load.started + D))

section
variable {held held' : String → ClientConfig → Int → Prop} {D : Nat}

theorem Fresh.mono (weaker : ∀ id cc t, held id cc t → held' id cc t) {id : String} {e : TTL.Entry ClientConfig}
    (fresh : Fresh held D id e) : Fresh held' D id e := by
  obtain ⟨t,found,expires⟩ := fresh
  exact ⟨t,weaker _ _ _ found,expires⟩

theorem Stage.mono (weaker : ∀ id cc t, held id cc t → held' id cc t) {id : String} {started : Int}
    {program : ConfigProg (Except ClientStoreError ClientConfig)} (stage : Stage held D id started program) :
    Stage held' D id started program := by
  cases stage with
  | lookup => exact .lookup
  | miss => exact .miss
  | check fresh => exact .check (fresh.mono weaker)
  | caching read late => exact .caching (weaker _ _ _ read) late
  | finished => exact .finished

theorem Invariant.mono (weaker : ∀ id cc t, held id cc t → held' id cc t) {p : Process} (inv : Invariant held D p) :
    Invariant held' D p := by
  refine ⟨fun id e cached => (inv.cache id e cached).mono weaker,fun load mem => ?_⟩
  obtain ⟨late,stage⟩ := inv.loads load mem
  exact ⟨late,stage.mono weaker⟩

theorem invariant_start (now : Int) (registry : Registry) : Invariant held D (Process.start now registry) :=
  ⟨fun _ _ cached => (nomatch cached),fun _ mem => (nomatch mem)⟩

end

section
variable {held : String → ClientConfig → Int → Prop} {D : Nat} {p : Process}

theorem Invariant.set_load (inv : Invariant held D p) {l : Nat} {load : Load} (at_l : p.loads[l]? = some load)
    {program : ConfigProg (Except ClientStoreError ClientConfig)}
    (stage : Stage held D load.clientID load.started program) :
    Invariant held D {p with loads:=p.loads.set l {load with program:=program}} := by
  refine ⟨inv.cache,fun load' mem => ?_⟩
  rcases List.mem_or_eq_of_mem_set mem with kept | rfl
  · exact inv.loads load' kept
  · exact ⟨(inv.loads load (List.mem_of_getElem? at_l)).1,stage⟩

theorem Invariant.cache_set (inv : Invariant held D p) {id : String} {cc : ClientConfig} {ttl : Int}
    (fresh : Fresh held D id ⟨cc,p.now + ttl⟩) : Invariant held D {p with cache:=p.cache.set p.now id cc ttl} := by
  refine ⟨fun id' e cached => ?_,inv.loads⟩
  by_cases same : id' = id
  · subst same
    rw [TTL.set_data_self,Option.some.injEq] at cached
    exact cached ▸ fresh
  · rw [TTL.set_data_of_ne _ _ _ _ same] at cached
    exact inv.cache id' e cached

theorem keeps_of_call (inv : Invariant held D p) {l : Nat} {load : Load} (at_l : p.loads[l]? = some load)
    {op : ConfigCall} {next : op.Resp → ConfigProg (Except ClientStoreError ClientConfig)} (calls : load.program = .call op next)
    {program : ConfigProg (Except ClientStoreError ClientConfig)} (moves : next (processAnswer p op).1 = program)
    (unfinished : program.value? = none) (same : (processAnswer p op).2 = p)
    (stage : Stage held D load.clientID load.started program) : Keeps held D p (p.step (.advance l)) := by
  rw [step_advance at_l calls,moves,unfinished,same]
  exact ⟨inv.set_load at_l stage,rfl,fun _ _ none => nomatch none⟩

theorem advance_lookup (inv : Invariant held D p) {l : Nat} {id : String} {started : Int}
    (at_l : p.loads[l]? = some ⟨id,started,loadCachedClientConfig id⟩) : Keeps held D p (p.step (.advance l)) := by
  cases cached : p.cache.data id with
  | none => exact keeps_of_call inv at_l rfl (by simp [processAnswer,cached]) rfl rfl .miss
  | some e => exact keeps_of_call inv at_l rfl (by simp [processAnswer,cached]) rfl rfl (.check (inv.cache id e cached))

theorem advance_miss (inv : Invariant held D p) (current : ∀ id cc, p.registry.lookup id = some cc → held id cc p.now)
    {l : Nat} {id : String} {started : Int} (at_l : p.loads[l]? = some ⟨id,started,loadFromStore id⟩) :
    Keeps held D p (p.step (.advance l)) := by
  have same : (processAnswer p (.store (.getClientConfig id))).2 = p := by simp [processAnswer]
  have late := (inv.loads _ (List.mem_of_getElem? at_l)).1
  cases answer : (registryAnswer p.registry (.getClientConfig id)).1 with
  | ok cc =>
    have found := registryAnswer_get_ok.1 answer
    exact keeps_of_call inv at_l rfl (by simp [processAnswer,answer]) rfl same (.caching (current id cc found) late)
  | error err =>
    rw [step_advance at_l rfl,same]
    simp only [processAnswer,answer]
    refine ⟨inv.set_load at_l .finished,rfl,fun id' result finished => ?_⟩
    simp only [Interaction.value?,Option.map_some,Option.some.injEq,Prod.mk.injEq] at finished
    obtain ⟨rfl,rfl⟩ := finished
    exact .inl answer.symm

theorem advance_check (inv : Invariant held D p) {l : Nat} {id : String} {started : Int} {e : TTL.Entry ClientConfig}
    (fresh : Fresh held D id e) (at_l : p.loads[l]? = some ⟨id,started,checkEntry id e⟩) :
    Keeps held D p (p.step (.advance l)) := by
  by_cases expired : p.now > e.exp
  · exact keeps_of_call inv at_l rfl (by simp [processAnswer,expired]) rfl rfl .miss
  · rw [step_advance at_l rfl]
    simp only [processAnswer,expired,if_false]
    refine ⟨inv.set_load at_l .finished,rfl,fun id' result finished => ?_⟩
    simp only [Interaction.value?,Option.map_some,Option.some.injEq,Prod.mk.injEq] at finished
    obtain ⟨rfl,rfl⟩ := finished
    obtain ⟨t,found,expires⟩ := fresh
    exact .inr ⟨e.val,t,rfl,found,by omega⟩

-- The Set's entry expires 300 s after a clock no more than D past the load's
-- start, hence past its read.
theorem advance_caching (inv : Invariant held D p) (inFlight : InFlight D p) {l : Nat} {id : String} {started t : Int}
    {cc : ClientConfig} (read : held id cc t) (late : started ≤ t)
    (at_l : p.loads[l]? = some ⟨id,started,cacheConfig id cc⟩) : Keeps held D p (p.step (.advance l)) := by
  have within : p.now ≤ started + D := inFlight _ (List.mem_of_getElem? at_l) rfl
  have nonneg : (0 : Int) ≤ 300 * second := by decide
  have fresh : Fresh held D id ⟨cc,p.now + 300 * second⟩ := ⟨t,read,by dsimp only; omega⟩
  rw [step_advance at_l rfl]
  refine ⟨(inv.cache_set fresh).set_load at_l .finished,rfl,fun id' result finished => ?_⟩
  simp only [Interaction.value?,Option.map_some,Option.some.injEq,Prod.mk.injEq] at finished
  obtain ⟨rfl,rfl⟩ := finished
  exact .inr ⟨cc,t,rfl,read,by omega⟩

theorem Invariant.advance (inv : Invariant held D p) (current : ∀ id cc, p.registry.lookup id = some cc → held id cc p.now)
    (inFlight : InFlight D p) (l : Nat) : Keeps held D p (p.step (.advance l)) := by
  cases at_l : p.loads[l]? with
  | none =>
    rw [step_advance_absent at_l]
    exact ⟨inv,rfl,fun _ _ none => nomatch none⟩
  | some load =>
    obtain ⟨id,started,program⟩ := load
    have stage := (inv.loads _ (List.mem_of_getElem? at_l)).2
    dsimp only at stage
    cases stage with
    | lookup => exact advance_lookup inv at_l
    | miss => exact advance_miss inv current at_l
    | check fresh => exact advance_check inv fresh at_l
    | caching read late => exact advance_caching inv inFlight read late at_l
    | finished =>
      rw [step_advance_finished at_l rfl]
      exact ⟨inv,rfl,fun _ _ none => nomatch none⟩

theorem Invariant.step (inv : Invariant held D p) (current : ∀ id cc, p.registry.lookup id = some cc → held id cc p.now)
    (inFlight : InFlight D p) (event : CacheEvent) :
    Invariant held D (p.step event).2 ∧ ∀ id result, (p.step event).1 = some (id,result) → Answered held D p id result := by
  cases event with
  | tick elapsed =>
    refine ⟨⟨inv.cache,fun load mem => ?_⟩,fun _ _ none => nomatch none⟩
    obtain ⟨late,stage⟩ := inv.loads load mem
    exact ⟨Int.le_trans late (Int.le_add_of_nonneg_right (Int.natCast_nonneg elapsed)),stage⟩
  | admin call => exact ⟨⟨inv.cache,inv.loads⟩,fun _ _ none => nomatch none⟩
  | begin id =>
    refine ⟨⟨inv.cache,fun load mem => ?_⟩,fun _ _ none => nomatch none⟩
    rcases List.mem_append.1 mem with old | fresh
    · exact inv.loads load old
    · rw [List.mem_singleton.1 fresh]
      exact ⟨Int.le_refl _,.lookup⟩
  | advance l =>
    have keeps := inv.advance current inFlight l
    exact ⟨keeps.invariant,keeps.answered⟩

theorem Invariant.step_lookup (inv : Invariant held D p) (current : ∀ id cc, p.registry.lookup id = some cc → held id cc p.now)
    (inFlight : InFlight D p) {id : String} (event : CacheEvent) (quiet : event.writes id = false) :
    (p.step event).2.registry.lookup id = p.registry.lookup id := by
  cases event with
  | tick => rfl
  | begin => rfl
  | advance l => rw [(inv.advance current inFlight l).registry]
  | admin call =>
    cases call with
    | getClientConfig clientID => simp only [Process.step,registryAnswer_get_registry]
    | listClients => rfl
    | putClientConfig clientID config =>
      have other : id ≠ clientID := fun same => by simp [CacheEvent.writes,same] at quiet
      simp only [Process.step,registryAnswer]
      split
      · rfl
      · exact AList.lookup_insert_ne other
    | deleteClientConfig clientID =>
      have other : id ≠ clientID := fun same => by simp [CacheEvent.writes,same] at quiet
      exact AList.lookup_erase_ne other

end

section
variable (p : Process) (events : List CacheEvent)

theorem after_succ {n : Nat} (within : n < events.length) :
    p.after events (n+1) = (Process.step (p.after events n) events[n]).2 :=
  Interaction.runSteps_take_succ Process.step p events n within

theorem after_of_le {n : Nat} (beyond : events.length ≤ n) : p.after events n = p.after events events.length := by
  simp only [Process.after,List.take_of_length_le beyond,List.take_length]

theorem after_now_mono {j n : Nat} (le : j ≤ n) : (p.after events j).now ≤ (p.after events n).now := by
  induction n, le using Nat.le_induction with
  | base => exact Int.le_refl _
  | succ n _ ih =>
    refine Int.le_trans ih ?_
    by_cases within : n < events.length
    · rw [after_succ p events within]
      exact step_now _
    · rw [after_of_le p events (n := n + 1) (by omega),after_of_le p events (n := n) (by omega)]

theorem output_getElem? (i : Nat) :
    (Interaction.runSteps Process.step p events).1[i]? = events[i]?.map fun event => ((p.after events i).step event).1 :=
  Interaction.runSteps_getElem? Process.step p events i

def Process.Held (n : Nat) (id : String) (cc : ClientConfig) (t : Int) : Prop :=
  ∃ j ≤ n, (p.after events j).registry.lookup id = some cc ∧ (p.after events j).now = t

theorem held_succ {n : Nat} {id : String} {cc : ClientConfig} {t : Int} (held : p.Held events n id cc t) :
    p.Held events (n+1) id cc t := by
  obtain ⟨j,le,found,clock⟩ := held
  exact ⟨j,Nat.le_succ_of_le le,found,clock⟩

theorem held_current (n : Nat) (id : String) (cc : ClientConfig) (found : (p.after events n).registry.lookup id = some cc) :
    p.Held events n id cc (p.after events n).now :=
  ⟨n,Nat.le_refl n,found,rfl⟩

end

section
variable {D : Nat} {p : Process} {events : List CacheEvent}
  (start : Invariant (p.Held events 0) D p) (within : ∀ n < events.length, InFlight D (p.after events n))
include start within

theorem invariant_after (n : Nat) : Invariant (p.Held events n) D (p.after events n) := by
  induction n with
  | zero => exact start
  | succ n ih =>
    have kept := ih.mono fun _ _ _ => held_succ p events
    by_cases stepped : n < events.length
    · rw [after_succ p events stepped]
      exact (kept.step (fun id cc found => held_current p events n id cc found |> held_succ p events)
        (within n stepped) events[n]).1
    · rw [after_of_le p events (n := n + 1) (by omega),← after_of_le p events (n := n) (by omega)]
      exact kept

theorem load_answered {i : Nat} {id : String} {result : Except ClientStoreError ClientConfig}
    (finished : (Interaction.runSteps Process.step p events).1[i]? = some (some (id,result))) :
    Answered (p.Held events i) D (p.after events i) id result := by
  rw [output_getElem?] at finished
  obtain ⟨event,at_i,stepped⟩ := Option.map_eq_some_iff.1 finished
  have inside : i < events.length := (List.getElem?_eq_some_iff.1 at_i).1
  exact ((invariant_after start within i).step (held_current p events i) (within i inside) event).2 id result stepped

theorem lookup_after_quiet {id : String} {j i : Nat} (le : j ≤ i)
    (quiet : ∀ k, j ≤ k → k < i → ∀ e ∈ events[k]?, e.writes id = false) :
    (p.after events i).registry.lookup id = (p.after events j).registry.lookup id := by
  induction i, le using Nat.le_induction with
  | base => rfl
  | succ i le ih =>
    rw [← ih fun k low high => quiet k low (Nat.lt_succ_of_lt high)]
    by_cases stepped : i < events.length
    · rw [after_succ p events stepped]
      exact (invariant_after start within i).step_lookup (held_current p events i) (within i stepped) events[i]
        (quiet i le (Nat.lt_succ_self i) _ (List.getElem?_eq_getElem stepped))
    · rw [after_of_le p events (n := i + 1) (by omega),after_of_le p events (n := i) (by omega)]

end

theorem after_registry_valid {now : Int} {registry : Registry} (valid : RegistryValid registry) (events : List CacheEvent)
    (n : Nat) : RegistryValid ((Process.start now registry).after events n).registry := by
  induction n with
  | zero => exact valid
  | succ n ih =>
    by_cases within : n < events.length
    · rw [after_succ _ events within]
      exact step_valid ih events[n]
    · rw [after_of_le _ events (n := n + 1) (by omega),← after_of_le _ events (n := n) (by omega)]
      exact ih

-- D bounds how long a load stays in flight: a load that stalls between its read
-- and its Set caches what it read for five minutes from the Set.
theorem cached_configs_are_recent_and_valid (now : Int) (registry : Registry) (valid : RegistryValid registry)
    (events : List CacheEvent) (D : Nat) (within : ∀ n < events.length, InFlight D ((Process.start now registry).after events n))
    {i : Nat} {id : String} {v : ClientConfig}
    (served : (Interaction.runSteps Process.step (Process.start now registry) events).1[i]? = some (some (id,.ok v))) :
    v.validate = none ∧ ∃ j ≤ i, ((Process.start now registry).after events j).registry.lookup id = some v ∧
      ((Process.start now registry).after events i).now ≤
        ((Process.start now registry).after events j).now + 300 * second + D := by
  have nonneg : (0 : Int) ≤ 300 * second := by decide
  have recent : ∃ j ≤ i, ((Process.start now registry).after events j).registry.lookup id = some v ∧
      ((Process.start now registry).after events i).now ≤
        ((Process.start now registry).after events j).now + 300 * second + D := by
    rcases load_answered (invariant_start now registry) within served with read | ⟨v',t,same,⟨j,le,found,rfl⟩,bound⟩
    · exact ⟨i,Nat.le_refl i,registryAnswer_get_ok.1 read.symm,by omega⟩
    · cases same
      exact ⟨j,le,found,bound⟩
  obtain ⟨j,le,found,bound⟩ := recent
  exact ⟨after_registry_valid valid events j id v found,j,le,found,bound⟩

def oneClient : Registry := (∅ : Registry).insert "c1" keyedConfig

theorem oneClient_valid : RegistryValid oneClient := by
  intro id config found
  by_cases same : id = "c1"
  · subst same
    rw [oneClient,AList.lookup_insert,Option.some.injEq] at found
    subst found
    decide
  · rw [oneClient,AList.lookup_insert_ne same] at found
    cases found

-- A load's Set lands 2 s after its read, after the config was deleted; 300 s
-- later a second load still gets the deleted config.
def stalledRun : List CacheEvent :=
  [.begin "c1",.advance 0,.advance 0,.tick 1000000000,.admin (.deleteClientConfig "c1"),.tick 1000000000,.advance 0,
    .tick 300000000000,.begin "c1",.advance 1,.advance 1]

theorem cached_configs_are_recent_and_valid_on_stall :
    RegistryValid oneClient ∧
      (∀ n < stalledRun.length, InFlight 2000000000 ((Process.start 0 oneClient).after stalledRun n)) ∧
      (Interaction.runSteps Process.step (Process.start 0 oneClient) stalledRun).1[10]? = some (some ("c1",.ok keyedConfig)) ∧
      ((Process.start 0 oneClient).after stalledRun 10).registry.lookup "c1" = none ∧
      (keyedConfig.validate = none ∧ ∃ j ≤ 10, ((Process.start 0 oneClient).after stalledRun j).registry.lookup "c1" = some keyedConfig ∧
        ((Process.start 0 oneClient).after stalledRun 10).now ≤
          ((Process.start 0 oneClient).after stalledRun j).now + 300 * second + (2000000000 : Nat)) := by
  have within : ∀ n < stalledRun.length, InFlight 2000000000 ((Process.start 0 oneClient).after stalledRun n) := by
    decide
  have served : (Interaction.runSteps Process.step (Process.start 0 oneClient) stalledRun).1[10]? =
      some (some ("c1",.ok keyedConfig)) := by decide
  have deleted : ((Process.start 0 oneClient).after stalledRun 10).registry.lookup "c1" = none := by decide
  exact ⟨oneClient_valid,within,served,deleted,
    cached_configs_are_recent_and_valid 0 oneClient oneClient_valid stalledRun 2000000000 within served⟩

theorem cached_load_answers_as_store (now : Int) (registry : Registry) (events : List CacheEvent) (D : Nat)
    (within : ∀ n < events.length, InFlight D ((Process.start now registry).after events n)) {i : Nat} {id : String}
    {result : Except ClientStoreError ClientConfig}
    (finished : (Interaction.runSteps Process.step (Process.start now registry) events).1[i]? = some (some (id,result)))
    (quiet : ∀ k < i, ((Process.start now registry).after events i).now ≤
      ((Process.start now registry).after events k).now + 300 * second + D → ∀ e ∈ events[k]?, e.writes id = false) :
    result = (registryAnswer ((Process.start now registry).after events i).registry (.getClientConfig id)).1 := by
  rcases load_answered (invariant_start now registry) within finished with read | ⟨v,t,rfl,⟨j,le,found,rfl⟩,recent⟩
  · exact read
  · -- the registry held v at j, and no write to the client came after
    have unchanged := lookup_after_quiet (invariant_start now registry) within le fun k low high =>
      quiet k high (by have := after_now_mono (Process.start now registry) events low; omega)
    rw [found] at unchanged
    simp only [registryAnswer,unchanged]

-- A load misses and caches c1's config; a second load 1 s later hits the cache.
def quietRun : List CacheEvent :=
  [.admin (.putClientConfig "c1" keyedConfig),.tick 301000000000,.begin "c1",.advance 0,.advance 0,.advance 0,
    .tick 1000000000,.begin "c1",.advance 1,.advance 1]

theorem cached_load_answers_as_store_on_hit :
    (∀ n < quietRun.length, InFlight 0 ((Process.start 0 ∅).after quietRun n)) ∧
      (Interaction.runSteps Process.step (Process.start 0 ∅) quietRun).1[9]? = some (some ("c1",.ok keyedConfig)) ∧
      (∀ k < 9, ((Process.start 0 ∅).after quietRun 9).now ≤ ((Process.start 0 ∅).after quietRun k).now + 300 * second + (0 : Nat) →
        ∀ e ∈ quietRun[k]?, e.writes "c1" = false) ∧
      Except.ok keyedConfig = (registryAnswer ((Process.start 0 ∅).after quietRun 9).registry (.getClientConfig "c1")).1 := by
  have within : ∀ n < quietRun.length, InFlight 0 ((Process.start 0 ∅).after quietRun n) := by decide
  have served : (Interaction.runSteps Process.step (Process.start 0 ∅) quietRun).1[9]? = some (some ("c1",.ok keyedConfig)) := by
    decide
  have quiet : ∀ k < 9, ((Process.start 0 ∅).after quietRun 9).now ≤
      ((Process.start 0 ∅).after quietRun k).now + 300 * second + (0 : Nat) → ∀ e ∈ quietRun[k]?, e.writes "c1" = false := by
    decide
  exact ⟨within,served,quiet,cached_load_answers_as_store 0 ∅ quietRun 0 within served quiet⟩

end Enoti
