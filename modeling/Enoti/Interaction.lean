import Mathlib.Logic.Function.Basic

-- A program that calls an environment; each call of a service interface is one operation.
inductive Interaction (Op : Type) (Resp : Op → Type) (α : Type) : Type where
  | pure (value : α)
  | call (op : Op) (next : Resp op → Interaction Op Resp α)

namespace Interaction

variable {Op : Type} {Resp : Op → Type} {α β σ : Type}

def bind : Interaction Op Resp α → (α → Interaction Op Resp β) → Interaction Op Resp β
  | .pure value,f => f value
  | .call op next,f => .call op (fun r => (next r).bind f)

instance : Monad (Interaction Op Resp) where
  pure := .pure
  bind := bind

@[simp] theorem pure_bind (value : α) (f : α → Interaction Op Resp β) : (Interaction.pure value).bind f = f value := rfl
@[simp] theorem call_bind (op : Op) (next : Resp op → Interaction Op Resp α) (f : α → Interaction Op Resp β) :
    (Interaction.call op next).bind f = .call op (fun r => (next r).bind f) := rfl

def value? : Interaction Op Resp α → Option α
  | .pure value => some value
  | .call .. => none

def lift (op : Op) : Interaction Op Resp (Resp op) := .call op .pure

def translate {Op' : Type} {Resp' : Op' → Type} (embed : Op → Op') (back : (op : Op) → Resp' (embed op) → Resp op) :
    Interaction Op Resp α → Interaction Op' Resp' α
  | .pure value => .pure value
  | .call op next => .call (embed op) (fun r => (next (back op r)).translate embed back)

def implement {Op' : Type} {Resp' : Op' → Type} (impl : (op : Op) → Interaction Op' Resp' (Resp op)) :
    Interaction Op Resp α → Interaction Op' Resp' α
  | .pure value => .pure value
  | .call op next => (impl op).bind fun r => (next r).implement impl

def run (answer : σ → (op : Op) → Resp op × σ) : Interaction Op Resp α → σ → α × σ
  | .pure value,s => (value,s)
  | .call op next,s => (next (answer s op).1).run answer (answer s op).2

@[simp] theorem run_pure (answer : σ → (op : Op) → Resp op × σ) (value : α) (s : σ) :
    (Interaction.pure value).run answer s = (value,s) := rfl
@[simp] theorem run_call (answer : σ → (op : Op) → Resp op × σ) (op : Op) (next : Resp op → Interaction Op Resp α) (s : σ) :
    (Interaction.call op next).run answer s = (next (answer s op).1).run answer (answer s op).2 := rfl

theorem run_bind (answer : σ → (op : Op) → Resp op × σ) (program : Interaction Op Resp α)
    (f : α → Interaction Op Resp β) (s : σ) :
    (program.bind f).run answer s = (f (program.run answer s).1).run answer (program.run answer s).2 := by
  induction program generalizing s with
  | pure value => rfl
  | call op next ih => exact ih _ _

def runAll (answer : σ → (op : Op) → Resp op × σ) : List (Interaction Op Resp α) → σ → List α × σ
  | [],s => ([],s)
  | program :: rest,s =>
    ((program.run answer s).1 :: (runAll answer rest (program.run answer s).2).1,(runAll answer rest (program.run answer s).2).2)

inductive Confined (allowed : Op → Prop) : Interaction Op Resp α → Prop where
  | pure : Confined allowed (.pure value)
  | call (permitted : allowed op) (rest : ∀ r, Confined allowed (next r)) : Confined allowed (.call op next)

theorem Confined.mono {allowed allowed' : Op → Prop} {program : Interaction Op Resp α} (confined : Confined allowed program)
    (weaker : ∀ op, allowed op → allowed' op) : Confined allowed' program := by
  induction confined with
  | pure => exact .pure
  | call permitted _ ih => exact .call (weaker _ permitted) ih

theorem Confined.bind {allowed : Op → Prop} {program : Interaction Op Resp α} {f : α → Interaction Op Resp β}
    (first : Confined allowed program) (rest : ∀ value, Confined allowed (f value)) : Confined allowed (program.bind f) := by
  induction first with
  | pure => exact rest _
  | call permitted _ ih => exact .call permitted ih

inductive Yields (P : α → Prop) : Interaction Op Resp α → Prop where
  | pure (holds : P value) : Yields P (.pure value)
  | call {op : Op} {next : Resp op → Interaction Op Resp α} (rest : ∀ r, Yields P (next r)) : Yields P (.call op next)

theorem Yields.mono {P Q : α → Prop} {program : Interaction Op Resp α} (yields : Yields P program)
    (weaker : ∀ value, P value → Q value) : Yields Q program := by
  induction yields with
  | pure holds => exact .pure (weaker _ holds)
  | call _ ih => exact .call ih

theorem Yields.bind {P : β → Prop} {program : Interaction Op Resp α} {f : α → Interaction Op Resp β}
    (rest : ∀ value, Yields P (f value)) : Yields P (program.bind f) := by
  induction program with
  | pure value => exact rest value
  | call op next ih => exact .call ih

theorem run_invariant {answer : σ → (op : Op) → Resp op × σ} (keep : σ → Prop) {allowed : Op → Prop}
    (kept : ∀ s op, allowed op → keep s → keep (answer s op).2) {program : Interaction Op Resp α}
    (confined : Confined allowed program) (s : σ) (start : keep s) : keep (program.run answer s).2 := by
  induction confined generalizing s with
  | pure => exact start
  | call permitted _ ih => exact ih _ _ (kept s _ permitted start)

inductive Runs (answers : σ → (op : Op) → Resp op → σ → Prop) : Interaction Op Resp α → σ → α → σ → Prop where
  | pure : Runs answers (.pure value) s value s
  | call (answered : answers s op r middle) (rest : Runs answers (next r) middle value after) :
      Runs answers (.call op next) s value after

theorem runs_pure_inv {answers : σ → (op : Op) → Resp op → σ → Prop} {v result : α} {s after : σ}
    (path : Runs answers (.pure v) s result after) : result = v ∧ after = s := by
  cases path
  exact ⟨rfl,rfl⟩

theorem runs_call_inv {answers : σ → (op : Op) → Resp op → σ → Prop} {op : Op} {next : Resp op → Interaction Op Resp α}
    {result : α} {s after : σ} (path : Runs answers (.call op next) s result after) :
    ∃ r middle, answers s op r middle ∧ Runs answers (next r) middle result after := by
  cases path with
  | call answered rest => exact ⟨_,_,answered,rest⟩

theorem runs_of_translate {Op' : Type} {Resp' : Op' → Type} {embed : Op → Op'} {back : (op : Op) → Resp' (embed op) → Resp op}
    {answers : σ → (op : Op') → Resp' op → σ → Prop} {program : Interaction Op Resp α} {s after : σ} {result : α}
    (path : Runs answers (program.translate embed back) s result after) :
    Runs (fun s op r s' => ∃ r', answers s (embed op) r' s' ∧ back op r' = r) program s result after := by
  induction program generalizing s with
  | pure value =>
    obtain ⟨rfl,rfl⟩ := runs_pure_inv path
    exact .pure
  | call op next ih =>
    obtain ⟨r,middle,answered,rest⟩ := runs_call_inv path
    exact .call ⟨r,answered,rfl⟩ (ih _ rest)

theorem runs_of_answer {answer : σ → (op : Op) → Resp op × σ} {answers : σ → (op : Op) → Resp op → σ → Prop}
    (meets : ∀ s op, answers s op (answer s op).1 (answer s op).2) (program : Interaction Op Resp α) (s : σ) :
    Runs answers program s (program.run answer s).1 (program.run answer s).2 := by
  induction program generalizing s with
  | pure value => exact .pure
  | call op next ih => exact .call (meets s op) (ih _ _)

theorem runs_of_bind {answers : σ → (op : Op) → Resp op → σ → Prop} {program : Interaction Op Resp α}
    {f : α → Interaction Op Resp β} (whole : Runs answers (program.bind f) s result after) :
    ∃ value middle, Runs answers program s value middle ∧ Runs answers (f value) middle result after := by
  induction program generalizing s with
  | pure value => exact ⟨value,s,.pure,whole⟩
  | call op next ih =>
    cases whole with
    | call answered rest =>
      obtain ⟨value,middle,first,second⟩ := ih _ rest
      exact ⟨value,middle,.call answered first,second⟩

theorem Runs.bind {answers : σ → (op : Op) → Resp op → σ → Prop} {program : Interaction Op Resp α}
    {f : α → Interaction Op Resp β} (first : Runs answers program s value middle) (rest : Runs answers (f value) middle result after) :
    Runs answers (program.bind f) s result after := by
  induction first with
  | pure => exact rest
  | call answered _ ih => exact .call answered (ih rest)

theorem runs_invariant {answers : σ → (op : Op) → Resp op → σ → Prop} (keep : σ → Prop)
    (kept : ∀ s op r s', keep s → answers s op r s' → keep s')
    {program : Interaction Op Resp α} (path : Runs answers program s value after) (start : keep s) : keep after := by
  induction path with
  | pure => exact start
  | call answered _ ih => exact ih (kept _ _ _ _ start answered)

theorem runs_yields {answers : σ → (op : Op) → Resp op → σ → Prop} {P : α → Prop} {program : Interaction Op Resp α}
    (yields : Yields P program) (path : Runs answers program s value after) : P value := by
  induction path with
  | pure =>
    cases yields with
    | pure holds => exact holds
  | call _ _ ih =>
    cases yields with
    | call rest => exact ih (rest _)

theorem runs_map {τ : Type} {answers : σ → (op : Op) → Resp op → σ → Prop} {answers' : τ → (op : Op) → Resp op → τ → Prop}
    (view : σ → τ) (follows : ∀ s op r s', answers s op r s' → answers' (view s) op r (view s'))
    {program : Interaction Op Resp α} (path : Runs answers program s value after) :
    Runs answers' program (view s) value (view after) := by
  induction path with
  | pure => exact .pure
  | call answered _ ih => exact .call (follows _ _ _ _ answered) ih

inductive RunsSeq (answers : σ → (op : Op) → Resp op → σ → Prop) : List (Interaction Op Resp α) → σ → σ → Prop where
  | nil : RunsSeq answers [] s s
  | cons (first : Runs answers program s value middle) (rest : RunsSeq answers programs middle after) :
      RunsSeq answers (program :: programs) s after

-- A potential argument: f rises by no more than g over the whole sequence.
theorem runsSeq_le {answers : σ → (op : Op) → Resp op → σ → Prop} {programs : List (Interaction Op Resp α)}
    {keep : σ → Prop} {f g : σ → Nat}
    (step : ∀ program ∈ programs, ∀ s value s', keep s → Runs answers program s value s' → keep s' ∧ f s' + g s ≤ f s + g s')
    (path : RunsSeq answers programs s after) (start : keep s) : keep after ∧ f after + g s ≤ f s + g after := by
  induction path with
  | nil => exact ⟨start,Nat.le_refl _⟩
  | cons first _ ih =>
    obtain ⟨kept,raised⟩ := step _ List.mem_cons_self _ _ _ start first
    obtain ⟨final,rest⟩ := ih (fun program mem => step program (List.mem_cons_of_mem _ mem)) kept
    exact ⟨final,by omega⟩

-- A machine fed a list of inputs one at a time.

section
variable {ι ω : Type} (step : σ → ι → ω × σ)

def runSteps (s : σ) : List ι → List ω × σ
  | [] => ([],s)
  | x :: rest => ((step s x).1 :: (runSteps (step s x).2 rest).1,(runSteps (step s x).2 rest).2)

theorem runSteps_append (s : σ) (xs ys : List ι) :
    runSteps step s (xs ++ ys) =
      ((runSteps step s xs).1 ++ (runSteps step (runSteps step s xs).2 ys).1,(runSteps step (runSteps step s xs).2 ys).2) := by
  induction xs generalizing s with
  | nil => rfl
  | cons x rest ih => simp only [List.cons_append,runSteps,ih]

@[simp] theorem runSteps_length (s : σ) (xs : List ι) : (runSteps step s xs).1.length = xs.length := by
  induction xs generalizing s with
  | nil => rfl
  | cons x rest ih => simp [runSteps,ih]

theorem runSteps_take_succ (s : σ) (xs : List ι) (i : Nat) (within : i < xs.length) :
    (runSteps step s (xs.take (i+1))).2 = (step (runSteps step s (xs.take i)).2 xs[i]).2 := by
  rw [List.take_succ_eq_append_getElem within,runSteps_append]
  rfl

theorem runSteps_getElem? (s : σ) (xs : List ι) (i : Nat) :
    (runSteps step s xs).1[i]? = xs[i]?.map fun x => (step (runSteps step s (xs.take i)).2 x).1 := by
  induction xs generalizing s i with
  | nil => rfl
  | cons x rest ih =>
    cases i with
    | zero => rfl
    | succ j =>
      simp only [runSteps,List.getElem?_cons_succ,List.take_succ_cons]
      exact ih _ j

end

inductive RunsList (answers : σ → (op : Op) → Resp op → σ → Prop) :
    List (Interaction Op Resp α) → σ → List α → σ → Prop where
  | nil : RunsList answers [] s [] s
  | cons (first : Runs answers program s value middle) (rest : RunsList answers programs middle values after) :
      RunsList answers (program :: programs) s (value :: values) after

section
variable {answers : σ → (op : Op) → Resp op → σ → Prop}

theorem RunsList.seq {programs : List (Interaction Op Resp α)} {values : List α} {s after : σ}
    (path : RunsList answers programs s values after) : RunsSeq answers programs s after := by
  induction path with
  | nil => exact .nil
  | cons first _ ih => exact .cons first ih

theorem RunsList.length_eq {programs : List (Interaction Op Resp α)} {values : List α} {s after : σ}
    (path : RunsList answers programs s values after) : values.length = programs.length := by
  induction path with
  | nil => rfl
  | cons _ _ ih => simp only [List.length_cons,ih]

theorem RunsSeq.append {first second : List (Interaction Op Resp α)} {s middle after : σ}
    (one : RunsSeq answers first s middle) (two : RunsSeq answers second middle after) :
    RunsSeq answers (first ++ second) s after := by
  induction one with
  | nil => exact two
  | cons first _ ih => exact .cons first (ih two)

theorem RunsSeq.invariant {programs : List (Interaction Op Resp α)} {s after : σ} (keep : σ → Prop)
    (step : ∀ program ∈ programs, ∀ s value s', keep s → Runs answers program s value s' → keep s')
    (path : RunsSeq answers programs s after) (start : keep s) : keep after := by
  induction path with
  | nil => exact start
  | cons first _ ih =>
    exact ih (fun program mem => step program (List.mem_cons_of_mem _ mem)) (step _ List.mem_cons_self _ _ _ start first)

theorem RunsList.mem_zip (keep : σ → Prop) (kept : ∀ s op r s', keep s → answers s op r s' → keep s')
    {programs : List (Interaction Op Resp α)} {values : List α} {s after : σ}
    (path : RunsList answers programs s values after) (start : keep s) {program : Interaction Op Resp α} {value : α}
    (mem : (program,value) ∈ programs.zip values) : ∃ s₀ s₁, keep s₀ ∧ Runs answers program s₀ value s₁ := by
  induction path with
  | nil => cases mem
  | cons first _ ih =>
    rcases List.mem_cons.1 mem with same | later
    · obtain ⟨rfl,rfl⟩ := Prod.mk.inj same
      exact ⟨_,_,start,first⟩
    · exact ih (runs_invariant keep kept first start) later

variable {ι : Type}

def forEach (body : ι → Interaction Op Resp α) (collect : β → ι → α → β) : β → List ι → Interaction Op Resp β
  | acc,[] => .pure acc
  | acc,x :: xs => (body x).bind fun value => forEach body collect (collect acc x value) xs

theorem run_forEach (answer : σ → (op : Op) → Resp op × σ) (body : ι → Interaction Op Resp α) (collect : β → ι → α → β)
    (acc : β) (items : List ι) (s : σ) :
    (forEach body collect acc items).run answer s =
      items.foldl (fun (p : β × σ) x => (collect p.1 x ((body x).run answer p.2).1,((body x).run answer p.2).2)) (acc,s) := by
  induction items generalizing acc s with
  | nil => rfl
  | cons x xs ih =>
    rw [forEach,run_bind,ih]
    rfl

theorem runs_forEach {body : ι → Interaction Op Resp α} {collect : β → ι → α → β} {acc result : β} {items : List ι}
    {s after : σ} (path : Runs answers (forEach body collect acc items) s result after) :
    ∃ values, RunsList answers (items.map body) s values after ∧
      result = (items.zip values).foldl (fun acc q => collect acc q.1 q.2) acc := by
  induction items generalizing acc s with
  | nil =>
    obtain ⟨rfl,rfl⟩ := runs_pure_inv path
    exact ⟨[],.nil,rfl⟩
  | cons x xs ih =>
    obtain ⟨value,middle,first,rest⟩ := runs_of_bind path
    obtain ⟨values,later,folded⟩ := ih rest
    exact ⟨value :: values,.cons first later,folded⟩

end

end Interaction
