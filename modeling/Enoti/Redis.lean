import Mathlib.Data.List.AList
import Mathlib.Data.List.Infix
import Enoti.Strconv

-- A Redis keyspace of strings and hashes, each command atomic. Expiry is not
-- modelled: a TTL only removes keys, which no result here depends on.

namespace Redis

abbrev Fields := AList fun _ : String => String

inductive Value where
  | str (s : String)
  | hash (fields : Fields)

abbrev Store := AList fun _ : String => Value

inductive Error where
  | nil
  | failure (msg : String)
deriving DecidableEq, Repr

def Error.message : Error → String
  | .nil => "redis: nil"
  | .failure msg => msg

def wrongType : Error := .failure "WRONGTYPE Operation against a key holding the wrong kind of value"

-- KEYS patterns, without character classes.

def globMatch : List Char → List Char → Bool
  | [],s => s.isEmpty
  | '*' :: p,s => s.tails.any (globMatch p)
  | '?' :: p,_ :: s => globMatch p s
  | '\\' :: c :: p,d :: s => c == d && globMatch p s
  | c :: p,d :: s => c == d && globMatch p s
  | _ :: _,[] => false

theorem globMatch_plain_cons {c : Char} (star : c ≠ '*') (question : c ≠ '?') (backslash : c ≠ '\\') (p : List Char)
    (d : Char) (s : List Char) : globMatch (c :: p) (d :: s) = (c == d && globMatch p s) := by
  rw [globMatch.eq_def]
  split <;> simp_all

theorem plain_of_all {p : List Char} (checked : p.all (fun c => c != '*' && (c != '?' && c != '\\')) = true) :
    ∀ c ∈ p, c ≠ '*' ∧ c ≠ '?' ∧ c ≠ '\\' := fun c mem => by
  have passed := List.all_eq_true.1 checked c mem
  simp only [Bool.and_eq_true,bne_iff_ne] at passed
  exact passed

theorem globMatch_literal {p s : List Char} (plain : ∀ c ∈ p, c ≠ '*' ∧ c ≠ '?' ∧ c ≠ '\\')
    (matched : globMatch p s = true) : s = p := by
  induction p generalizing s with
  | nil => simpa [globMatch] using matched
  | cons c p ih =>
    obtain ⟨star,question,backslash⟩ := plain c List.mem_cons_self
    cases s with
    | nil => simp_all [globMatch]
    | cons d s =>
      rw [globMatch_plain_cons star question backslash,Bool.and_eq_true,beq_iff_eq] at matched
      rw [ih (fun x mem => plain x (List.mem_cons_of_mem c mem)) matched.2,matched.1]

theorem isPrefix_of_globMatch_plain {p q s : List Char} (plain : ∀ c ∈ p, c ≠ '*' ∧ c ≠ '?' ∧ c ≠ '\\')
    (matched : globMatch (p ++ q) s = true) : p <+: s := by
  induction p generalizing s with
  | nil => exact List.nil_prefix
  | cons c p ih =>
    obtain ⟨star,question,backslash⟩ := plain c List.mem_cons_self
    cases s with
    | nil => simp [globMatch] at matched
    | cons d s =>
      rw [List.cons_append,globMatch_plain_cons star question backslash,Bool.and_eq_true,beq_iff_eq] at matched
      obtain ⟨rfl,rest⟩ := matched
      exact List.cons_prefix_cons.2 ⟨rfl,ih (fun x mem => plain x (List.mem_cons_of_mem c mem)) rest⟩

theorem globMatch_prefix_star {p s : List Char} (plain : ∀ c ∈ p, c ≠ '*' ∧ c ≠ '?' ∧ c ≠ '\\') :
    globMatch (p ++ ['*']) s = true ↔ p <+: s := by
  refine ⟨isPrefix_of_globMatch_plain plain,?_⟩
  rintro ⟨rest,rfl⟩
  induction p with
  | nil =>
    rw [List.nil_append,List.nil_append,globMatch]
    exact List.any_eq_true.2 ⟨[],(List.mem_tails [] rest).2 List.nil_suffix,rfl⟩
  | cons c p ih =>
    obtain ⟨star,question,backslash⟩ := plain c List.mem_cons_self
    rw [List.cons_append,List.cons_append,globMatch_plain_cons star question backslash]
    simp [ih fun x mem => plain x (List.mem_cons_of_mem c mem)]

inductive Command where
  | get (key : String)
  | set (key value : String)
  | del (keys : List String)
  | keys (pattern : String)
  | hGetAll (key : String)
  | hMSet (key : String) (values : List (String × String))
  | hMGet (key : String) (fields : List String)
  | hGet (key field : String)
  | hIncrBy (key field : String) (incr : Int)
  | expire (key : String) (seconds : Int)

abbrev Command.Resp : Command → Type
  | .get _ => Except Error String
  | .set .. => Except Error Unit
  | .del _ => Except Error Nat
  | .keys _ => Except Error (List String)
  | .hGetAll _ => Except Error Fields
  | .hMSet .. => Except Error Bool
  | .hMGet .. => Except Error (List (Option String))
  | .hGet .. => Except Error String
  | .hIncrBy .. => Except Error Int
  | .expire .. => Except Error Bool

def setFields (fields : Fields) (values : List (String × String)) : Fields :=
  values.foldl (fun acc kv => acc.insert kv.1 kv.2) fields

def hIncrBy (s : Store) (key field : String) (incr : Int) : Except Error Int × Store :=
  match s.lookup key with
  | some (.str _) => (.error wrongType,s)
  | none => (.ok incr,s.insert key (.hash ((∅ : Fields).insert field (Strconv.formatInt incr))))
  | some (.hash fields) =>
    match fields.lookup field with
    | none => (.ok incr,s.insert key (.hash (fields.insert field (Strconv.formatInt incr))))
    | some v =>
      match Strconv.parseSigned v.toList with
      | none => (.error (.failure "ERR hash value is not an integer"),s)
      | some n => (.ok (n + incr),s.insert key (.hash (fields.insert field (Strconv.formatInt (n + incr)))))

def exec (s : Store) : (c : Command) → c.Resp × Store
  | .get key =>
    match s.lookup key with
    | some (.str v) => (.ok v,s)
    | some (.hash _) => (.error wrongType,s)
    | none => (.error .nil,s)
  | .set key value => (.ok (),s.insert key (.str value))
  | .del keys =>
    ((.ok (keys.eraseDups.filter fun k => (s.lookup k).isSome).length),keys.foldl (fun acc k => acc.erase k) s)
  | .keys pattern => (.ok (s.keys.filter fun k => globMatch pattern.toList k.toList),s)
  | .hGetAll key =>
    match s.lookup key with
    | some (.hash fields) => (.ok fields,s)
    | some (.str _) => (.error wrongType,s)
    | none => (.ok ∅,s)
  | .hMSet key values =>
    match s.lookup key with
    | some (.hash fields) => (.ok true,s.insert key (.hash (setFields fields values)))
    | some (.str _) => (.error wrongType,s)
    | none => (.ok true,s.insert key (.hash (setFields ∅ values)))
  | .hMGet key fields =>
    match s.lookup key with
    | some (.hash stored) => (.ok (fields.map stored.lookup),s)
    | some (.str _) => (.error wrongType,s)
    | none => (.ok (fields.map fun _ => none),s)
  | .hGet key field =>
    match s.lookup key with
    | some (.hash fields) =>
      match fields.lookup field with
      | some v => (.ok v,s)
      | none => (.error .nil,s)
    | some (.str _) => (.error wrongType,s)
    | none => (.error .nil,s)
  | .hIncrBy key field incr => hIncrBy s key field incr
  | .expire key _ => (.ok (s.lookup key).isSome,s)

-- A command that fails on the way never reaches the keyspace.
def Command.failed : (c : Command) → String → c.Resp
  | .get _,msg => .error (.failure msg)
  | .set ..,msg => .error (.failure msg)
  | .del _,msg => .error (.failure msg)
  | .keys _,msg => .error (.failure msg)
  | .hGetAll _,msg => .error (.failure msg)
  | .hMSet ..,msg => .error (.failure msg)
  | .hMGet ..,msg => .error (.failure msg)
  | .hGet ..,msg => .error (.failure msg)
  | .hIncrBy ..,msg => .error (.failure msg)
  | .expire ..,msg => .error (.failure msg)

def Answers (s : Store) (c : Command) (r : c.Resp) (s' : Store) : Prop :=
  exec s c = (r,s') ∨ ∃ msg, r = c.failed msg ∧ s' = s

theorem answers_exec (s : Store) (c : Command) : Answers s c (exec s c).1 (exec s c).2 := .inl rfl

@[simp] theorem exec_keys (s : Store) (pattern : String) :
    exec s (.keys pattern) = (.ok (s.keys.filter fun k => globMatch pattern.toList k.toList),s) := rfl

@[simp] theorem exec_del (s : Store) (keys : List String) :
    exec s (.del keys) =
      ((.ok (keys.eraseDups.filter fun k => (s.lookup k).isSome).length),keys.foldl (fun acc k => acc.erase k) s) := rfl

@[simp] theorem exec_set (s : Store) (key value : String) : exec s (.set key value) = (.ok (),s.insert key (.str value)) := rfl

theorem lookup_foldl_erase (keys : List String) (s : Store) (k : String) :
    (keys.foldl (fun acc key => acc.erase key) s).lookup k = if k ∈ keys then none else s.lookup k := by
  induction keys generalizing s with
  | nil => simp
  | cons key rest ih =>
    rw [List.foldl_cons,ih]
    by_cases same : k = key
    · subst same
      simp [AList.lookup_erase]
    · simp [same,AList.lookup_erase_ne same]

theorem exec_get_absent {s : Store} {key : String} (absent : s.lookup key = none) : exec s (.get key) = (.error .nil,s) := by
  simp [exec,absent]

theorem exec_hGetAll_hash {s : Store} {key : String} {fields : Fields} (stored : s.lookup key = some (.hash fields)) :
    exec s (.hGetAll key) = (.ok fields,s) := by
  simp [exec,stored]

theorem exec_hGetAll_absent {s : Store} {key : String} (absent : s.lookup key = none) : exec s (.hGetAll key) = (.ok ∅,s) := by
  simp [exec,absent]

theorem exec_hMSet_hash {s : Store} {key : String} {fields : Fields} (stored : s.lookup key = some (.hash fields))
    (values : List (String × String)) :
    exec s (.hMSet key values) = (.ok true,s.insert key (.hash (setFields fields values))) := by
  simp [exec,stored]

theorem exec_hMSet_absent {s : Store} {key : String} (absent : s.lookup key = none) (values : List (String × String)) :
    exec s (.hMSet key values) = (.ok true,s.insert key (.hash (setFields ∅ values))) := by
  simp [exec,absent]

theorem exec_hMGet_hash {s : Store} {key : String} {stored : Fields} (held : s.lookup key = some (.hash stored))
    (fields : List String) : exec s (.hMGet key fields) = (.ok (fields.map stored.lookup),s) := by
  simp [exec,held]

theorem exec_hMGet_absent {s : Store} {key : String} (absent : s.lookup key = none) (fields : List String) :
    exec s (.hMGet key fields) = (.ok (fields.map fun _ => none),s) := by
  simp [exec,absent]

theorem exec_hGet_absent {s : Store} {key : String} (absent : s.lookup key = none) (field : String) :
    exec s (.hGet key field) = (.error .nil,s) := by
  simp [exec,absent]

theorem exec_hGet_field {s : Store} {key field v : String} {fields : Fields} (held : s.lookup key = some (.hash fields))
    (present : fields.lookup field = some v) : exec s (.hGet key field) = (.ok v,s) := by
  simp [exec,held,present]

theorem exec_hGet_unset {s : Store} {key field : String} {fields : Fields} (held : s.lookup key = some (.hash fields))
    (unset : fields.lookup field = none) : exec s (.hGet key field) = (.error .nil,s) := by
  simp [exec,held,unset]

@[simp] theorem exec_hIncrBy (s : Store) (key field : String) (incr : Int) :
    exec s (.hIncrBy key field incr) = hIncrBy s key field incr := rfl

@[simp] theorem exec_expire (s : Store) (key : String) (seconds : Int) :
    exec s (.expire key seconds) = (.ok (s.lookup key).isSome,s) := rfl

theorem hIncrBy_unset {s : Store} {key field : String} {fields : Fields} (held : s.lookup key = some (.hash fields))
    (unset : fields.lookup field = none) (incr : Int) :
    hIncrBy s key field incr = (.ok incr,s.insert key (.hash (fields.insert field (Strconv.formatInt incr)))) := by
  simp [hIncrBy,held,unset]

theorem hIncrBy_absent {s : Store} {key : String} (absent : s.lookup key = none) (field : String) (incr : Int) :
    hIncrBy s key field incr = (.ok incr,s.insert key (.hash ((∅ : Fields).insert field (Strconv.formatInt incr)))) := by
  simp [hIncrBy,absent]

theorem hIncrBy_counter {s : Store} {key field : String} {fields : Fields} {n : Int}
    (held : s.lookup key = some (.hash fields)) (counter : fields.lookup field = some (Strconv.formatInt n)) (incr : Int) :
    hIncrBy s key field incr = (.ok (n + incr),s.insert key (.hash (fields.insert field (Strconv.formatInt (n + incr))))) := by
  simp [hIncrBy,held,counter,Strconv.parseSigned_formatInt]

end Redis
