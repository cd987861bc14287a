import Enoti.Interaction

namespace Interaction

variable {Op Op' : Type} {Resp : Op → Type} {Resp' : Op' → Type} {α β σ τ : Type}

-- Every call along any run of the program meets the guard where it is made.
inductive Safe (answers : σ → (op : Op) → Resp op → σ → Prop) (guard : σ → Op → Prop) : Interaction Op Resp α → σ → Prop where
  | pure : Safe answers guard (.pure value) s
  | call (allowed : guard s op) (rest : ∀ r middle, answers s op r middle → Safe answers guard (next r) middle) :
      Safe answers guard (.call op next) s

section
variable {answers : σ → (op : Op) → Resp op → σ → Prop} {guard guard' : σ → Op → Prop}

theorem Safe.of_confined {allowed : Op → Prop} {program : Interaction Op Resp α} (confined : Confined allowed program)
    (implied : ∀ s op, allowed op → guard s op) (s : σ) : Safe answers guard program s := by
  induction confined generalizing s with
  | pure => exact .pure
  | call permitted _ ih => exact .call (implied s _ permitted) fun r middle _ => ih r middle

theorem Safe.and {program : Interaction Op Resp α} {s : σ} (first : Safe answers guard program s)
    (second : Safe answers guard' program s) : Safe answers (fun s op => guard s op ∧ guard' s op) program s := by
  induction first with
  | pure => exact .pure
  | call allowed _ ih =>
    cases second with
    | call allowed' rest' =>
      exact .call ⟨allowed,allowed'⟩ fun r middle answered => ih r middle answered (rest' r middle answered)

theorem Safe.bind {program : Interaction Op Resp α} {f : α → Interaction Op Resp β} {s : σ}
    (first : Safe answers guard program s)
    (rest : ∀ value middle, Runs answers program s value middle → Safe answers guard (f value) middle) :
    Safe answers guard (program.bind f) s := by
  induction first with
  | pure => exact rest _ _ .pure
  | call allowed _ ih =>
    exact .call allowed fun r middle answered =>
      ih r middle answered fun value after path => rest value after (.call answered path)

theorem Safe.call_pure {op : Op} {next : Resp op → Interaction Op Resp α} {s : σ} (allowed : guard s op)
    (answered : ∀ r, ∃ value, next r = .pure value) : Safe answers guard (.call op next) s := by
  refine .call allowed fun r middle _ => ?_
  obtain ⟨value,same⟩ := answered r
  rw [same]
  exact .pure

end

section
variable {impl : (op : Op) → Interaction Op' Resp' (Resp op)} {answers : σ → (op : Op) → Resp op → σ → Prop}
  {answers' : τ → (op : Op') → Resp' op → τ → Prop} {guard : σ → Op → Prop} (R : τ → σ → Prop)
  (simulates : ∀ t s op r t', R t s → guard s op → Runs answers' (impl op) t r t' → ∃ s', answers s op r s' ∧ R t' s')

include simulates

theorem runs_implement {program : Interaction Op Resp α} {s : σ} (safe : Safe answers guard program s)
    {t t' : τ} {value : α} (path : Runs answers' (program.implement impl) t value t') (related : R t s) :
    ∃ s', Runs answers program s value s' ∧ R t' s' := by
  induction safe generalizing t with
  | pure =>
    obtain ⟨rfl,rfl⟩ := runs_pure_inv path
    exact ⟨_,.pure,related⟩
  | call allowed _ ih =>
    -- the implementation of the call runs first, then the implemented rest
    obtain ⟨r,middle,first,rest⟩ := runs_of_bind path
    obtain ⟨s',answered,related'⟩ := simulates _ _ _ _ _ related allowed first
    obtain ⟨after,later,final⟩ := ih r s' answered rest related'
    exact ⟨after,.call answered later,final⟩

-- The guard need only hold from the states of an invariant every answer keeps.
theorem runsList_implement (keep : σ → Prop) (kept : ∀ s op r s', keep s → answers s op r s' → keep s')
    {programs : List (Interaction Op Resp α)} (safe : ∀ program ∈ programs, ∀ s, keep s → Safe answers guard program s)
    {t t' : τ} {values : List α} (path : RunsList answers' (programs.map fun program => program.implement impl) t values t')
    {s : σ} (related : R t s) (start : keep s) :
    ∃ s', RunsList answers programs s values s' ∧ R t' s' := by
  induction programs generalizing t s values with
  | nil =>
    cases path
    exact ⟨s,.nil,related⟩
  | cons program rest ih =>
    rw [List.map_cons] at path
    cases path with
    | cons first later =>
      obtain ⟨middle,ran,related'⟩ := runs_implement R simulates (safe program List.mem_cons_self s start) first related
      obtain ⟨after,others,final⟩ := ih (fun p mem => safe p (List.mem_cons_of_mem _ mem)) later related'
        (runs_invariant keep kept ran start)
      exact ⟨after,.cons ran others,final⟩

end

-- An environment that answers a call as answer does, or fails it with no effect.
def OrFails (answer : σ → (op : Op) → Resp op × σ) (failed : (op : Op) → String → Resp op) (s : σ) (op : Op)
    (r : Resp op) (s' : σ) : Prop :=
  answer s op = (r,s') ∨ ∃ msg, r = failed op msg ∧ s' = s

theorem simulates_orFails {impl : (op : Op) → Interaction Op' Resp' (Resp op)} {answer : σ → (op : Op) → Resp op × σ}
    {answer' : τ → (op : Op') → Resp' op × τ} {answers' : τ → (op : Op') → Resp' op → τ → Prop} {guard : σ → Op → Prop}
    {failed : (op : Op) → String → Resp op} (R : τ → σ → Prop)
    (refines : ∀ t s op, R t s → guard s op →
      ((impl op).run answer' t).1 = (answer s op).1 ∧ R ((impl op).run answer' t).2 (answer s op).2)
    (faults : ∀ t op r t', Runs answers' (impl op) t r t' →
      (impl op).run answer' t = (r,t') ∨ ∃ msg, r = failed op msg ∧ t' = t)
    (t : τ) (s : σ) (op : Op) (r : Resp op) (t' : τ) (related : R t s) (allowed : guard s op)
    (path : Runs answers' (impl op) t r t') : ∃ s', OrFails answer failed s op r s' ∧ R t' s' := by
  rcases faults t op r t' path with ran | ⟨msg,failure,rfl⟩
  · obtain ⟨answered,related'⟩ := refines t s op related allowed
    rw [ran] at answered related'
    exact ⟨_,.inl (Prod.ext answered.symm rfl),related'⟩
  · exact ⟨s,.inr ⟨msg,failure,rfl⟩,related⟩

theorem runsList_of_runAll {answer : σ → (op : Op) → Resp op × σ} {answers : σ → (op : Op) → Resp op → σ → Prop}
    (meets : ∀ s op, answers s op (answer s op).1 (answer s op).2) (programs : List (Interaction Op Resp α)) (s : σ) :
    RunsList answers programs s (runAll answer programs s).1 (runAll answer programs s).2 := by
  induction programs generalizing s with
  | nil => exact .nil
  | cons program rest ih => exact .cons (runs_of_answer meets program s) (ih _)

end Interaction
