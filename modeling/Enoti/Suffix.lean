import Mathlib.Data.List.DropRight
import Mathlib.Data.List.Chain

-- The newest n elements of a list (List.rtake).

namespace List

variable {α β : Type*} {l : List α} {n m : Nat}

theorem rtake_rtake (le : n ≤ m) : (l.rtake m).rtake n = l.rtake n := by
  simp only [rtake_eq_reverse_take_reverse,reverse_reverse,take_take,Nat.min_eq_left le]

theorem rtake_append_singleton (x : α) : (l.rtake n ++ [x]).rtake n = (l ++ [x]).rtake n := by
  cases n with
  | zero => simp [rtake_zero]
  | succ n => rw [rtake_concat_succ,rtake_concat_succ,rtake_rtake (Nat.le_succ n)]

theorem map_rtake (f : α → β) : (l.rtake n).map f = (l.map f).rtake n := by
  simp [rtake,map_drop]

theorem rtake_sublist (l : List α) (n : Nat) : l.rtake n <+ l :=
  drop_sublist _ _

theorem mem_of_mem_rtake {x : α} (mem : x ∈ l.rtake n) : x ∈ l :=
  mem_of_mem_drop mem

theorem getLast?_rtake {x : α} (last : x ∈ (l.rtake n).getLast?) : x ∈ l.getLast? := by
  rw [rtake,getLast?_drop] at last
  split at last
  · simp at last
  · exact last

theorem drop_length_sub_one_concat (x : α) : (l ++ [x]).drop ((l ++ [x]).length - 1) = [x] := by
  simp

theorem takeWhile_reverse_cut {p : α → Bool} {a : α} {d : List α} (out : p a = false) (inside : ∀ x ∈ d, p x)
    (l : List α) : (l ++ a :: d).reverse.takeWhile p = d.reverse := by
  rw [reverse_append,reverse_cons,append_assoc,takeWhile_append_of_pos (by simpa using inside),singleton_append,
    takeWhile_cons_of_neg (by simp [out]),append_nil]

theorem append_cons_inj_of_cut {p : α → Bool} {l₁ l₂ d₁ d₂ : List α} {a b : α} (outA : p a = false)
    (outB : p b = false) (inside₁ : ∀ x ∈ d₁, p x) (inside₂ : ∀ x ∈ d₂, p x) (same : l₁ ++ a :: d₁ = l₂ ++ b :: d₂) :
    l₁ = l₂ ∧ a = b ∧ d₁ = d₂ := by
  have suffixes : d₁.reverse = d₂.reverse := by
    rw [← takeWhile_reverse_cut outA inside₁ l₁,← takeWhile_reverse_cut outB inside₂ l₂,same]
  obtain rfl := reverse_injective suffixes
  have fronts : l₁ ++ [a] = l₂ ++ [b] := append_cancel_right (by simpa using same)
  obtain ⟨rfl,rfl⟩ := concat_inj.1 (by simpa using fronts)
  exact ⟨rfl,rfl,rfl⟩

end List
