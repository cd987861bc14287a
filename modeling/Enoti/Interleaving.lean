import Enoti.Interaction

namespace Interaction

variable {Op : Type} {Resp : Op → Type} {α σ : Type}

structure Event (Op : Type) (Resp : Op → Type) where
  thread : Nat
  op : Op
  resp : Resp op

-- Programs that share one environment; the trace records the answered calls.
structure Threads (Op : Type) (Resp : Op → Type) (α σ : Type) where
  programs : List (Interaction Op Resp α)
  state : σ
  trace : List (Event Op Resp)

namespace Threads

-- A finished or absent thread does nothing, so every interleaving of the
-- threads' calls is some schedule.
def step (answer : σ → (op : Op) → Resp op × σ) (c : Threads Op Resp α σ) (i : Nat) : Threads Op Resp α σ :=
  match c.programs[i]? with
  | some (.call op next) =>
    ⟨c.programs.set i (next (answer c.state op).1),(answer c.state op).2,c.trace++[⟨i,op,(answer c.state op).1⟩]⟩
  | _ => c

def interleave (answer : σ → (op : Op) → Resp op × σ) (c : Threads Op Resp α σ) : List Nat → Threads Op Resp α σ
  | [] => c
  | i :: schedule => (c.step answer i).interleave answer schedule

theorem step_of_call {answer : σ → (op : Op) → Resp op × σ} {c : Threads Op Resp α σ} {i : Nat}
    {op : Op} {next : Resp op → Interaction Op Resp α} (at_i : c.programs[i]? = some (.call op next)) :
    c.step answer i = ⟨c.programs.set i (next (answer c.state op).1),(answer c.state op).2,
      c.trace++[⟨i,op,(answer c.state op).1⟩]⟩ := by
  simp [step,at_i]

theorem step_of_not_call {answer : σ → (op : Op) → Resp op × σ} {c : Threads Op Resp α σ} {i : Nat}
    (idle : ∀ op next, c.programs[i]? ≠ some (.call op next)) : c.step answer i = c := by
  unfold step
  split
  · rename_i op next at_i
    exact absurd at_i (idle op next)
  · rfl

theorem interleave_invariant {answer : σ → (op : Op) → Resp op × σ} (keep : Threads Op Resp α σ → Prop)
    (kept : ∀ c i, keep c → keep (c.step answer i)) {c : Threads Op Resp α σ} (schedule : List Nat)
    (start : keep c) : keep (c.interleave answer schedule) := by
  induction schedule generalizing c with
  | nil => exact start
  | cons i schedule ih => exact ih (kept c i start)

inductive Steps (answers : σ → (op : Op) → Resp op → σ → Prop) :
    Threads Op Resp α σ → List Nat → Threads Op Resp α σ → Prop where
  | nil : Steps answers c [] c
  | call {next : Resp op → Interaction Op Resp α} (at_i : c.programs[i]? = some (.call op next))
      (answered : answers c.state op r s') (rest : Steps answers ⟨c.programs.set i (next r),s',c.trace++[⟨i,op,r⟩]⟩ schedule d) :
      Steps answers c (i :: schedule) d
  | idle (idle : ∀ op next, c.programs[i]? ≠ some (.call op next)) (rest : Steps answers c schedule d) :
      Steps answers c (i :: schedule) d

theorem steps_interleave {answer : σ → (op : Op) → Resp op × σ} {answers : σ → (op : Op) → Resp op → σ → Prop}
    (meets : ∀ s op, answers s op (answer s op).1 (answer s op).2) (c : Threads Op Resp α σ) (schedule : List Nat) :
    Steps answers c schedule (c.interleave answer schedule) := by
  induction schedule generalizing c with
  | nil => exact .nil
  | cons i schedule ih =>
    show Steps answers c (i :: schedule) ((c.step answer i).interleave answer schedule)
    cases at_i : c.programs[i]? with
    | none =>
      rw [step_of_not_call (by simp [at_i])]
      exact .idle (by simp [at_i]) (ih c)
    | some program =>
      cases program with
      | pure value =>
        rw [step_of_not_call (by simp [at_i])]
        exact .idle (by simp [at_i]) (ih c)
      | call op next =>
        rw [step_of_call at_i]
        exact .call at_i (meets c.state op) (ih _)

-- An implementation that answers each allowed call with one call of the level
-- below is atomic: every interleaving below is one above, step for step.

def Atomic {Op' : Type} {Resp' : Op' → Type} (impl : (op : Op) → Interaction Op' Resp' (Resp op)) (allowed : Op → Prop) :
    Prop :=
  ∀ op, allowed op → ∃ (op' : Op') (k : Resp' op' → Interaction Op' Resp' (Resp op)),
    impl op = .call op' k ∧ ∀ r, ∃ value, k r = .pure value

structure Implements {Op' : Type} {Resp' : Op' → Type} {τ : Type} (impl : (op : Op) → Interaction Op' Resp' (Resp op))
    (allowed : Op → Prop) (R : τ → σ → Prop) (c' : Threads Op' Resp' α τ) (c : Threads Op Resp α σ) : Prop where
  programs : c'.programs = c.programs.map (implement impl)
  confined : ∀ program ∈ c.programs, Confined allowed program
  related : R c'.state c.state

section
variable {Op' : Type} {Resp' : Op' → Type} {τ : Type} {impl : (op : Op) → Interaction Op' Resp' (Resp op)}
  {allowed : Op → Prop} {R : τ → σ → Prop}

theorem Implements.getElem? {c' : Threads Op' Resp' α τ} {c : Threads Op Resp α σ}
    (implements : Implements impl allowed R c' c) (i : Nat) :
    c'.programs[i]? = c.programs[i]?.map (implement impl) := by
  rw [implements.programs,List.getElem?_map]

theorem Implements.at_call (atomic : Atomic impl allowed) {c' : Threads Op' Resp' α τ} {c : Threads Op Resp α σ}
    (implements : Implements impl allowed R c' c) {i : Nat} {op' : Op'} {next' : Resp' op' → Interaction Op' Resp' α}
    (at_i : c'.programs[i]? = some (.call op' next')) :
    ∃ (op : Op) (next : Resp op → Interaction Op Resp α) (k : Resp' op' → Interaction Op' Resp' (Resp op)),
      c.programs[i]? = some (.call op next) ∧ allowed op ∧ impl op = .call op' k ∧ (∀ r, ∃ value, k r = .pure value) ∧
      next' = fun r => (k r).bind fun r => (next r).implement impl := by
  rw [implements.getElem? i] at at_i
  obtain ⟨program,above,implemented⟩ := Option.map_eq_some_iff.1 at_i
  cases program with
  | pure value => cases implemented
  | call op next =>
    cases implements.confined _ (List.mem_of_getElem? above) with
    | call permitted _ =>
      obtain ⟨op'',k,single,answered⟩ := atomic op permitted
      rw [implement,single,call_bind] at implemented
      obtain ⟨rfl,same⟩ := Interaction.call.inj implemented
      exact ⟨op,next,k,above,permitted,single,answered,(eq_of_heq same).symm⟩

theorem Implements.idle (atomic : Atomic impl allowed) {c' : Threads Op' Resp' α τ} {c : Threads Op Resp α σ}
    (implements : Implements impl allowed R c' c) {i : Nat} (idle : ∀ op' next', c'.programs[i]? ≠ some (.call op' next'))
    (op : Op) (next : Resp op → Interaction Op Resp α) : c.programs[i]? ≠ some (.call op next) := by
  intro at_i
  cases implements.confined _ (List.mem_of_getElem? at_i) with
  | call permitted _ =>
    obtain ⟨op',k,single,-⟩ := atomic op permitted
    refine idle op' (fun r => (k r).bind fun r => (next r).implement impl) ?_
    rw [implements.getElem? i,at_i,Option.map_some,implement,single,call_bind]

theorem Implements.values (atomic : Atomic impl allowed) {c' : Threads Op' Resp' α τ} {c : Threads Op Resp α σ}
    (implements : Implements impl allowed R c' c) : c'.programs.map value? = c.programs.map value? := by
  rw [implements.programs,List.map_map]
  refine List.map_congr_left fun program listed => ?_
  cases program with
  | pure value => rfl
  | call op next =>
    cases implements.confined _ listed with
    | call permitted _ =>
      obtain ⟨op',k,single,_⟩ := atomic op permitted
      simp only [Function.comp_apply,implement,single]
      rfl

section
variable {answers : σ → (op : Op) → Resp op → σ → Prop} {answers' : τ → (op : Op') → Resp' op → τ → Prop}
  (atomic : Atomic impl allowed)
  (simulates : ∀ t s op r t', R t s → allowed op → Runs answers' (impl op) t r t' → ∃ s', answers s op r s' ∧ R t' s')
include atomic simulates

theorem Implements.call_step {c' : Threads Op' Resp' α τ} {c : Threads Op Resp α σ}
    (implements : Implements impl allowed R c' c) {i : Nat} {op' : Op'} {next' : Resp' op' → Interaction Op' Resp' α}
    {r' : Resp' op'} {t' : τ} (at_i : c'.programs[i]? = some (.call op' next')) (answered : answers' c'.state op' r' t') :
    ∃ (op : Op) (next : Resp op → Interaction Op Resp α) (r : Resp op) (s' : σ), c.programs[i]? = some (.call op next) ∧
      answers c.state op r s' ∧
      Implements impl allowed R ⟨c'.programs.set i (next' r'),t',c'.trace++[⟨i,op',r'⟩]⟩
        ⟨c.programs.set i (next r),s',c.trace++[⟨i,op,r⟩]⟩ := by
  obtain ⟨op,next,k,above,permitted,single,settles,rfl⟩ := implements.at_call atomic at_i
  obtain ⟨value,ready⟩ := settles r'
  have ran : Runs answers' (impl op) c'.state value t' := by
    rw [single]
    exact .call answered (by rw [ready]; exact .pure)
  obtain ⟨s',answered',related⟩ := simulates _ _ _ _ _ implements.related permitted ran
  refine ⟨op,next,value,s',above,answered',?_,fun program mem => ?_,related⟩
  · show c'.programs.set i ((k r').bind _) = (c.programs.set i (next value)).map (implement impl)
    rw [ready,implements.programs,List.map_set]
    rfl
  · rcases List.mem_or_eq_of_mem_set mem with kept | rfl
    · exact implements.confined program kept
    · cases implements.confined _ (List.mem_of_getElem? above) with
      | call _ rest => exact rest value

theorem Implements.steps {c' d' : Threads Op' Resp' α τ} {schedule : List Nat} (path : Steps answers' c' schedule d')
    {c : Threads Op Resp α σ} (implements : Implements impl allowed R c' c) :
    ∃ d, Steps answers c schedule d ∧ Implements impl allowed R d' d := by
  induction path generalizing c with
  | nil => exact ⟨c,.nil,implements⟩
  | call at_i answered _ ih =>
    obtain ⟨op,next,r,s',above,answered',implements'⟩ := implements.call_step atomic simulates at_i answered
    obtain ⟨d,later,final⟩ := ih implements'
    exact ⟨d,.call above answered' later,final⟩
  | idle idle _ ih =>
    obtain ⟨d,later,final⟩ := ih implements
    exact ⟨d,.idle (implements.idle atomic idle) later,final⟩

end

end

end Threads

end Interaction
