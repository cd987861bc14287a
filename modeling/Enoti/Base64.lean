import Mathlib.Data.List.GetD
import Mathlib.Data.List.Nodup

namespace Base64

-- Decoders skip line breaks, so an alphabet may not contain one.
structure Alphabet where
  chars : List Char
  length_eq : chars.length = 64
  nodup : chars.Nodup
  no_line_break : '\n' ∉ chars ∧ '\r' ∉ chars

def Alphabet.char (a : Alphabet) (six : Nat) : Char := a.chars.getD six 'A'

def Alphabet.value (a : Alphabet) (c : Char) : Option Nat := a.chars.idxOf? c

def encode (a : Alphabet) : List UInt8 → List Char
  | b0 :: b1 :: b2 :: rest =>
    let v := b0.toNat * 65536 + b1.toNat * 256 + b2.toNat
    a.char (v / 262144) :: a.char (v / 4096 % 64) :: a.char (v / 64 % 64) :: a.char (v % 64) :: encode a rest
  | [b0,b1] =>
    let v := b0.toNat * 65536 + b1.toNat * 256
    [a.char (v / 262144),a.char (v / 4096 % 64),a.char (v / 64 % 64)]
  | [b0] =>
    let v := b0.toNat * 65536
    [a.char (v / 262144),a.char (v / 4096 % 64)]
  | [] => []

-- A final quantum of three or two values gives two or one bytes, its unused low
-- bits ignored; a final single value is corrupt input.
def decodeValues : List Nat → Option (List UInt8)
  | c0 :: c1 :: c2 :: c3 :: rest =>
    let v := c0 * 262144 + c1 * 4096 + c2 * 64 + c3
    (decodeValues rest).map fun tail => UInt8.ofNat (v / 65536) :: UInt8.ofNat (v / 256 % 256) :: UInt8.ofNat (v % 256) :: tail
  | [c0,c1,c2] =>
    let v := c0 * 262144 + c1 * 4096 + c2 * 64
    some [UInt8.ofNat (v / 65536),UInt8.ofNat (v / 256 % 256)]
  | [c0,c1] => some [UInt8.ofNat ((c0 * 262144 + c1 * 4096) / 65536)]
  | [_] => none
  | [] => some []

def decode (a : Alphabet) (s : List Char) : Option (List UInt8) :=
  ((s.filter fun c => c ≠ '\n' ∧ c ≠ '\r').mapM a.value).bind decodeValues

def sextets : List UInt8 → List Nat
  | b0 :: b1 :: b2 :: rest =>
    let v := b0.toNat * 65536 + b1.toNat * 256 + b2.toNat
    v / 262144 :: v / 4096 % 64 :: v / 64 % 64 :: v % 64 :: sextets rest
  | [b0,b1] =>
    let v := b0.toNat * 65536 + b1.toNat * 256
    [v / 262144,v / 4096 % 64,v / 64 % 64]
  | [b0] =>
    let v := b0.toNat * 65536
    [v / 262144,v / 4096 % 64]
  | [] => []

theorem encode_eq_map (a : Alphabet) (bytes : List UInt8) : encode a bytes = (sextets bytes).map a.char := by
  induction bytes using sextets.induct with
  | case1 b0 b1 b2 rest ih => simp only [encode,sextets,List.map_cons,ih]
  | case2 b0 b1 => rfl
  | case3 b0 => rfl
  | case4 => rfl

theorem sextets_lt (bytes : List UInt8) : ∀ n ∈ sextets bytes, n < 64 := by
  induction bytes using sextets.induct with
  | case1 b0 b1 b2 rest ih =>
    have small0 := UInt8.toNat_lt b0
    have small1 := UInt8.toNat_lt b1
    have small2 := UInt8.toNat_lt b2
    simp only [sextets,List.mem_cons]
    rintro n (rfl | rfl | rfl | rfl | rest)
    · omega
    · exact Nat.mod_lt _ (by decide)
    · exact Nat.mod_lt _ (by decide)
    · exact Nat.mod_lt _ (by decide)
    · exact ih n rest
  | case2 b0 b1 =>
    have small0 := UInt8.toNat_lt b0
    have small1 := UInt8.toNat_lt b1
    simp only [sextets,List.mem_cons,List.not_mem_nil,or_false]
    rintro n (rfl | rfl | rfl) <;> omega
  | case3 b0 =>
    have small := UInt8.toNat_lt b0
    simp only [sextets,List.mem_cons,List.not_mem_nil,or_false]
    rintro n (rfl | rfl) <;> omega
  | case4 => simp [sextets]

theorem ofNat_eq_of_toNat {b : UInt8} {n : Nat} (same : n = b.toNat) : UInt8.ofNat n = b := by
  rw [same,UInt8.ofNat_toNat]

theorem decodeValues_sextets (bytes : List UInt8) : decodeValues (sextets bytes) = some bytes := by
  induction bytes using sextets.induct with
  | case1 b0 b1 b2 rest ih =>
    have small0 := UInt8.toNat_lt b0
    have small1 := UInt8.toNat_lt b1
    have small2 := UInt8.toNat_lt b2
    simp only [sextets,decodeValues,ih,Option.map_some,Option.some.injEq,List.cons.injEq,and_true]
    refine ⟨ofNat_eq_of_toNat ?_,ofNat_eq_of_toNat ?_,ofNat_eq_of_toNat ?_⟩ <;> omega
  | case2 b0 b1 =>
    have small0 := UInt8.toNat_lt b0
    have small1 := UInt8.toNat_lt b1
    simp only [sextets,decodeValues,Option.some.injEq,List.cons.injEq,and_true]
    refine ⟨ofNat_eq_of_toNat ?_,ofNat_eq_of_toNat ?_⟩ <;> omega
  | case3 b0 =>
    have small0 := UInt8.toNat_lt b0
    simp only [sextets,decodeValues,Option.some.injEq,List.cons.injEq,and_true]
    exact ofNat_eq_of_toNat (by omega)
  | case4 => rfl

theorem Alphabet.char_mem (a : Alphabet) {n : Nat} (small : n < 64) : a.char n ∈ a.chars := by
  have inside : n < a.chars.length := a.length_eq ▸ small
  rw [Alphabet.char,List.getD_eq_getElem _ _ inside]
  exact List.getElem_mem inside

theorem Alphabet.value_char (a : Alphabet) {n : Nat} (small : n < 64) : a.value (a.char n) = some n := by
  have inside : n < a.chars.length := a.length_eq ▸ small
  rw [Alphabet.value,Alphabet.char,List.getD_eq_getElem _ _ inside,List.idxOf?_eq_some_iff]
  refine ⟨inside,rfl,fun j before same => ?_⟩
  have := (a.nodup.getElem_inj_iff).1 same
  omega

theorem mapM_value_char (a : Alphabet) {values : List Nat} (small : ∀ n ∈ values, n < 64) :
    (values.map a.char).mapM a.value = some values := by
  induction values with
  | nil => rfl
  | cons n rest ih =>
    have head : a.value (a.char n) = some n := a.value_char (small n List.mem_cons_self)
    have tail := ih fun m mem => small m (List.mem_cons_of_mem n mem)
    simp only [List.map_cons,List.mapM_cons,head,tail]
    rfl

theorem decode_encode (a : Alphabet) (bytes : List UInt8) : decode a (encode a bytes) = some bytes := by
  have kept : ∀ c ∈ encode a bytes, (c ≠ '\n' ∧ c ≠ '\r') := by
    rw [encode_eq_map]
    intro c mem
    obtain ⟨n,small,rfl⟩ := List.mem_map.1 mem
    have present := a.char_mem (sextets_lt bytes n small)
    exact ⟨fun same => a.no_line_break.1 (same ▸ present),fun same => a.no_line_break.2 (same ▸ present)⟩
  have unfiltered : (encode a bytes).filter (fun c => c ≠ '\n' ∧ c ≠ '\r') = encode a bytes :=
    List.filter_eq_self.2 fun c mem => by simpa using kept c mem
  rw [decode,unfiltered,encode_eq_map,mapM_value_char a (sextets_lt bytes),Option.bind_some,decodeValues_sextets]

end Base64
