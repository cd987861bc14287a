import Enoti.Runs

namespace Enoti

-- BuildAggregate: which flips of Recent its loop visits, and in what order.

variable {π : Type}

theorem countDown_from (a c : Nat) :
    countDown (((a + c : Nat) : Int) - 1) ((a : Int) - 1) = (List.range c).reverse.map fun j => ((a + j : Nat) : Int) := by
  induction c with
  | zero =>
    rw [countDown,if_neg (by omega)]
    rfl
  | succ c ih =>
    rw [countDown,if_pos (by omega)]
    have lower : ((a + (c+1) : Nat) : Int) - 1 - 1 = ((a + c : Nat) : Int) - 1 := by omega
    have top : ((a + (c+1) : Nat) : Int) - 1 = ((a + c : Nat) : Int) := by omega
    rw [lower,ih,top,List.range_succ,List.reverse_append]
    rfl

theorem loop_in_bounds {num k : Int} (positive : 0 < k) (within : k ≤ num) :
    ∀ i ∈ countDown (num - 1) (num - k - 1), 0 ≤ i ∧ i < num := by
  have top : num - 1 = (((num - k).toNat + k.toNat : Nat) : Int) - 1 := by omega
  have stop : num - k - 1 = (((num - k).toNat : Nat) : Int) - 1 := by omega
  rw [top,stop,countDown_from]
  intro i visited
  obtain ⟨j,ranged,rfl⟩ := List.mem_map.1 visited
  rw [List.mem_reverse,List.mem_range] at ranged
  omega

theorem items_from (json : JsonCodec π) (zstd : Zstd) (l : List Flip) (a c : Nat) (fits : a + c ≤ l.length) :
    ((List.range c).reverse.map fun j => ((a + j : Nat) : Int)).map (fun i => aggregateItem json zstd l[i.toNat]!) =
      ((l.drop a).take c).reverse.map (aggregateItem json zstd) := by
  induction c with
  | zero => simp
  | succ c ih =>
    have inside : a + c < l.length := by omega
    rw [List.range_succ,List.reverse_append,List.take_add_one,List.reverse_append]
    simp only [List.reverse_singleton,List.singleton_append,List.map_cons,List.map_map]
    rw [List.getElem?_drop,List.getElem?_eq_getElem inside,Option.toList_some,List.reverse_singleton,List.singleton_append,
      List.map_cons]
    congr 1
    · rw [Int.toNat_natCast,getElem!_pos l (a + c) inside]
    · rw [← ih (by omega),List.map_map]

theorem buildAggregate_recent (json : JsonCodec π) (zstd : Zstd) (e : Edge) {k : Int} (positive : 0 < k) :
    (buildAggregate json zstd e k).recent = (e.recent.rtake k.toNat).reverse.map (aggregateItem json zstd) := by
  unfold buildAggregate
  dsimp only
  by_cases empty : e.recent = []
  · simp [empty]
  have filled : (e.recent.length : Int) > 0 := by
    have := List.length_pos_of_ne_nil empty
    omega
  rw [if_pos ⟨positive,filled⟩]
  -- the clamped k is min k n, and the loop runs from n-1 down to n-min k n
  have clamp : (if k > (e.recent.length : Int) then (e.recent.length : Int) else k) = ((min k.toNat e.recent.length : Nat) : Int) := by
    split <;> omega
  have top : (e.recent.length : Int) - 1 =
      (((e.recent.length - min k.toNat e.recent.length) + min k.toNat e.recent.length : Nat) : Int) - 1 := by omega
  have stop : (e.recent.length : Int) - ((min k.toNat e.recent.length : Nat) : Int) - 1 =
      ((e.recent.length - min k.toNat e.recent.length : Nat) : Int) - 1 := by omega
  rw [clamp,stop]
  conv => lhs; rw [top]
  rw [countDown_from,items_from json zstd e.recent _ _ (by omega),List.rtake]
  congr 2
  rw [List.take_of_length_le (by simp; omega)]
  congr 1
  omega

theorem buildAggregate_recent_on_three_flips :
    0 < (2 : Int) ∧
      (buildAggregate unitJson plainZstd ({recent:=[⟨1,"off","on",""⟩,⟨2,"on","off",""⟩,⟨3,"off","on",""⟩]} : Edge) 2).recent =
        (([⟨1,"off","on",""⟩,⟨2,"on","off",""⟩,⟨3,"off","on",""⟩] : List Flip).rtake (2 : Int).toNat).reverse.map
          (aggregateItem unitJson plainZstd) :=
  ⟨by decide,buildAggregate_recent unitJson plainZstd _ (by decide)⟩

theorem buildAggregate_nonpositive (json : JsonCodec π) (zstd : Zstd) (e : Edge) {k : Int} (nonpositive : k ≤ 0) :
    (buildAggregate json zstd e k).recent = [] := by
  unfold buildAggregate
  dsimp only
  rw [if_neg (fun selecting => by omega)]

-- AggregateMaxItems = 0, documented as all flips, selects none of them.
theorem buildAggregate_zero_selects_nothing :
    (buildAggregate unitJson plainZstd ({recent:=[⟨0,"on","off",""⟩]} : Edge) 0).recent = [] :=
  rfl

end Enoti
