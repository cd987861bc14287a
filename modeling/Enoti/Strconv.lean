import Mathlib

-- Go's strconv in base 10. parseSigned reads with no bound, as Redis reads its
-- counters.

namespace Strconv

def digitsValue (ds : List Char) : Nat :=
  ds.foldl (fun acc d => 10*acc + (d.toNat - 48)) 0

def parseDigits (ds : List Char) : Option Nat :=
  if ds ≠ [] ∧ ds.all Char.isDigit then some (digitsValue ds) else none

def parseSigned : List Char → Option Int
  | '-' :: ds => (parseDigits ds).map fun n => -(n : Int)
  | '+' :: ds => (parseDigits ds).map fun n => (n : Int)
  | ds => (parseDigits ds).map fun n => (n : Int)

def syntaxError (fn s : String) : String :=
  "strconv." ++ fn ++ ": parsing \"" ++ s ++ "\": invalid syntax"

def rangeError (fn s : String) : String :=
  "strconv." ++ fn ++ ": parsing \"" ++ s ++ "\": value out of range"

inductive NumError where
  | errSyntax
  | errRange

-- ParseUint's loop in base 10 with bitSize 64: a syntax or a range error,
-- whichever comes first.
def scanUint (n : Nat) : List Char → Except NumError Nat
  | [] => .ok n
  | c :: cs =>
    if c.isDigit then
      if 10 * n + (c.toNat - 48) < 2^64 then scanUint (10 * n + (c.toNat - 48)) cs else .error .errRange
    else .error .errSyntax

def splitSign (s : String) : Bool × List Char :=
  match s.toList with
  | '+' :: ds => (false,ds)
  | '-' :: ds => (true,ds)
  | ds => (false,ds)

-- ParseInt(s, 10, 64) under the name fn; Atoi is the same reading with its own name.
def parseIntAs (fn s : String) : Except String Int :=
  let signed := splitSign s
  match (if signed.2 = [] then .error .errSyntax else scanUint 0 signed.2 : Except NumError Nat) with
  | .error .errSyntax => .error (syntaxError fn s)
  | .error .errRange => .error (rangeError fn s)
  | .ok un =>
    if (!signed.1 ∧ 2^63 ≤ un) ∨ (signed.1 ∧ 2^63 < un) then .error (rangeError fn s)
    else .ok (if signed.1 then -(un : Int) else un)

def parseInt (s : String) : Except String Int := parseIntAs "ParseInt" s

def atoi (s : String) : Except String Int := parseIntAs "Atoi" s

def parseBool (str : String) : Except String Bool :=
  match str with
  | "1" | "t" | "T" | "TRUE" | "true" | "True" => .ok true
  | "0" | "f" | "F" | "FALSE" | "false" | "False" => .ok false
  | _ => .error (syntaxError "ParseBool" str)

def formatInt (n : Int) : String := toString n

theorem digitsValue_append_digit (ds : List Char) (d : Char) :
    digitsValue (ds ++ [d]) = 10 * digitsValue ds + (d.toNat - 48) := by
  simp [digitsValue,List.foldl_append]

theorem digitsValue_toDigits (n : Nat) : digitsValue (Nat.toDigits 10 n) = n := by
  induction n using Nat.strongRecOn with
  | ind n ih =>
    rw [Nat.toDigits_eq_if (by decide)]
    split
    · rename_i small
      simp [digitsValue,Nat.toNat_digitChar_sub_48_of_lt_ten small]
    · rename_i large
      have lower : n / 10 < n := Nat.div_lt_self (by omega) (by decide)
      rw [digitsValue_append_digit,ih _ lower,Nat.toNat_digitChar_sub_48_of_lt_ten (Nat.mod_lt n (by decide))]
      omega

theorem parseDigits_toDigits (n : Nat) : parseDigits (Nat.toDigits 10 n) = some n := by
  have nonempty : Nat.toDigits 10 n ≠ [] := List.ne_nil_of_length_pos Nat.length_toDigits_pos
  have digits : (Nat.toDigits 10 n).all Char.isDigit = true :=
    List.all_eq_true.2 fun c mem => Nat.isDigit_of_mem_toDigits (by decide) (by decide) mem
  simp [parseDigits,nonempty,digits,digitsValue_toDigits]

theorem toDigits_head (n : Nat) : ∃ c rest, Nat.toDigits 10 n = c :: rest ∧ c.isDigit := by
  match digits : Nat.toDigits 10 n with
  | [] => exact absurd digits (List.ne_nil_of_length_pos Nat.length_toDigits_pos)
  | c :: rest =>
    exact ⟨c,rest,rfl,Nat.isDigit_of_mem_toDigits (by decide) (by decide) (digits ▸ List.mem_cons_self)⟩

theorem parseSigned_toDigits (n : Nat) : parseSigned (Nat.toDigits 10 n) = some (n : Int) := by
  obtain ⟨c,rest,digits,isDigit⟩ := toDigits_head n
  have unsigned : parseSigned (c :: rest) = (parseDigits (c :: rest)).map fun n => (n : Int) := by
    unfold parseSigned
    split
    · rename_i minus
      cases minus
      simp at isDigit
    · rename_i plus
      cases plus
      simp at isDigit
    · rfl
  rw [digits,unsigned,← digits,parseDigits_toDigits]
  rfl

theorem parseSigned_formatInt (n : Int) : parseSigned (formatInt n).toList = some n := by
  cases n with
  | ofNat m =>
    show parseSigned (String.ofList (Nat.toDigits 10 m)).toList = some (m : Int)
    rw [String.toList_ofList,parseSigned_toDigits]
  | negSucc m =>
    show parseSigned ("-" ++ String.ofList (Nat.toDigits 10 (m+1))).toList = some (Int.negSucc m)
    simp only [String.toList_append,String.toList_ofList]
    simp [parseSigned,parseDigits_toDigits,Int.negSucc_eq]

theorem le_foldl_digits (acc : Nat) (ds : List Char) :
    acc ≤ ds.foldl (fun acc d => 10*acc + (d.toNat - 48)) acc := by
  induction ds generalizing acc with
  | nil => exact Nat.le_refl acc
  | cons d ds ih => exact Nat.le_trans (show acc ≤ 10*acc + (d.toNat - 48) by omega) (ih _)

theorem scanUint_digits (acc : Nat) (ds : List Char) (digits : ∀ c ∈ ds, c.isDigit)
    (fits : ds.foldl (fun acc d => 10*acc + (d.toNat - 48)) acc < 2^64) :
    scanUint acc ds = .ok (ds.foldl (fun acc d => 10*acc + (d.toNat - 48)) acc) := by
  induction ds generalizing acc with
  | nil => rfl
  | cons d ds ih =>
    have step : 10 * acc + (d.toNat - 48) < 2^64 := Nat.lt_of_le_of_lt (le_foldl_digits _ ds) fits
    rw [scanUint,if_pos (digits d List.mem_cons_self),if_pos step]
    exact ih _ (fun c mem => digits c (List.mem_cons_of_mem d mem)) fits

theorem scanUint_toDigits {m : Nat} (fits : m < 2^64) : scanUint 0 (Nat.toDigits 10 m) = .ok m := by
  have value := digitsValue_toDigits m
  unfold digitsValue at value
  have digits : ∀ c ∈ Nat.toDigits 10 m, c.isDigit := fun c mem =>
    Nat.isDigit_of_mem_toDigits (by decide) (by decide) mem
  have scanned := scanUint_digits 0 _ digits (by rw [value]; exact fits)
  rw [scanned,value]

theorem toDigits_ne_nil (m : Nat) : Nat.toDigits 10 m ≠ [] := List.ne_nil_of_length_pos Nat.length_toDigits_pos

theorem splitSign_formatInt (n : Int) : splitSign (formatInt n) = (decide (n < 0),Nat.toDigits 10 n.natAbs) := by
  cases n with
  | ofNat m =>
    obtain ⟨c,rest,digits,isDigit⟩ := toDigits_head m
    show splitSign (String.ofList (Nat.toDigits 10 m)) = _
    unfold splitSign
    rw [String.toList_ofList,digits]
    split
    · rename_i plus
      cases plus
      simp at isDigit
    · rename_i minus
      cases minus
      simp at isDigit
    · simp [digits]
  | negSucc m =>
    show splitSign ("-" ++ String.ofList (Nat.toDigits 10 (m+1))) = _
    simp [splitSign,Int.negSucc_lt_zero,Int.natAbs_negSucc]

theorem scanUint_ok {acc un : Nat} {ds : List Char} (scanned : scanUint acc ds = .ok un) :
    un = ds.foldl (fun acc d => 10*acc + (d.toNat - 48)) acc := by
  induction ds generalizing acc with
  | nil =>
    cases scanned
    rfl
  | cons d ds ih =>
    unfold scanUint at scanned
    split at scanned
    · split at scanned
      · exact ih scanned
      · cases scanned
    · cases scanned

theorem parseIntAs_formatInt (fn : String) {n : Int} (low : -2^63 ≤ n) (high : n < 2^63) :
    parseIntAs fn (formatInt n) = .ok n := by
  have fits : n.natAbs < 2^64 := by omega
  simp only [parseIntAs,splitSign_formatInt,toDigits_ne_nil,if_false,scanUint_toDigits fits]
  by_cases negative : n < 0
  · have within : ¬ 2^63 < n.natAbs := by omega
    simp only [negative,decide_true,Bool.not_true,Bool.false_eq_true,false_and,true_and,within,or_self,if_false,if_true]
    exact congrArg Except.ok (by omega)
  · have within : ¬ 2^63 ≤ n.natAbs := by omega
    simp only [negative,decide_false,Bool.not_false,true_and,within,Bool.false_eq_true,false_and,or_self,if_false]
    exact congrArg Except.ok (by omega)

-- Out of int64 a formatted integer does not read back at all.
theorem parseIntAs_formatInt_ok {fn : String} {n m : Int} (parsed : parseIntAs fn (formatInt n) = .ok m) : m = n := by
  simp only [parseIntAs,splitSign_formatInt,toDigits_ne_nil,if_false] at parsed
  split at parsed
  · cases parsed
  · cases parsed
  · rename_i un scanned
    have value : un = n.natAbs := by
      rw [scanUint_ok scanned]
      exact digitsValue_toDigits _
    split at parsed
    · cases parsed
    · cases parsed
      subst value
      by_cases negative : n < 0
      · rw [if_pos (decide_eq_true negative)]
        omega
      · rw [if_neg (by simpa using negative)]
        omega

theorem parseInt_formatInt {n : Int} (low : -2^63 ≤ n) (high : n < 2^63) : parseInt (formatInt n) = .ok n :=
  parseIntAs_formatInt "ParseInt" low high

theorem atoi_formatInt {n : Int} (low : -2^63 ≤ n) (high : n < 2^63) : atoi (formatInt n) = .ok n :=
  parseIntAs_formatInt "Atoi" low high

theorem parseInt_formatInt_ok {n m : Int} (parsed : parseInt (formatInt n) = .ok m) : m = n := parseIntAs_formatInt_ok parsed

theorem atoi_formatInt_ok {n m : Int} (parsed : atoi (formatInt n) = .ok m) : m = n := parseIntAs_formatInt_ok parsed

theorem formatInt_natCast (n : Nat) : (formatInt n).toList = Nat.toDigits 10 n := by
  show (String.ofList (Nat.toDigits 10 n)).toList = _
  rw [String.toList_ofList]

theorem formatInt_inj {m n : Int} (same : formatInt m = formatInt n) : m = n := by
  have parsed := parseSigned_formatInt m
  rw [same,parseSigned_formatInt] at parsed
  exact (Option.some.inj parsed).symm

theorem formatInt_ne_empty (n : Int) : formatInt n ≠ "" := by
  intro empty
  have parsed := parseSigned_formatInt n
  rw [empty] at parsed
  cases parsed

example : parseInt "+007" = .ok 7 := by decide
example : parseInt "9223372036854775808" = .error "strconv.ParseInt: parsing \"9223372036854775808\": value out of range" := by
  decide
example : parseInt "" = .error "strconv.ParseInt: parsing \"\": invalid syntax" := by decide

end Strconv
