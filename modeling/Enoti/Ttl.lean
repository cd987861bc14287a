import Enoti.ClientStore

namespace Enoti

-- flow/ttl.go and LoadCachedClientConfig. Times are nanoseconds of one clock.

def second : Int := 1000000000

structure TTL.Entry (V : Type) where
  val : V
  exp : Int

-- Get reads the entry under the read lock and the clock after releasing it;
-- Set reads the clock and writes under the lock.
structure TTL (K V : Type) where
  data : K → Option (TTL.Entry V)

def newTTL {K V : Type} : TTL K V := ⟨fun _ => none⟩

namespace TTL

variable {K V : Type}

def check (entry : Option (Entry V)) (now : Int) : Option V :=
  match entry with
  | none => none
  | some e => if now > e.exp then none else some e.val

-- Get with both reads at one instant.
def get (t : TTL K V) (now : Int) (k : K) : Option V := check (t.data k) now

def set [DecidableEq K] (t : TTL K V) (now : Int) (k : K) (v : V) (ttl : Int) : TTL K V :=
  ⟨Function.update t.data k (some ⟨v,now + ttl⟩)⟩

theorem get_eq_some {t : TTL K V} {now : Int} {k : K} {v : V} :
    t.get now k = some v ↔ ∃ e, t.data k = some e ∧ e.val = v ∧ now ≤ e.exp := by
  unfold get check
  cases t.data k with
  | none => simp
  | some e =>
    by_cases expired : now > e.exp
    · simp only [if_pos expired,reduceCtorEq,false_iff,not_exists,not_and,Option.some.injEq]
      intro e' same _ within
      subst same
      omega
    · have within : now ≤ e.exp := by omega
      simp [if_neg expired,within]

@[simp] theorem set_data_self [DecidableEq K] (t : TTL K V) (now : Int) (k : K) (v : V) (ttl : Int) :
    (t.set now k v ttl).data k = some ⟨v,now + ttl⟩ := by
  simp [set]

@[simp] theorem set_data_of_ne [DecidableEq K] (t : TTL K V) (now : Int) {k k' : K} (v : V) (ttl : Int) (other : k' ≠ k) :
    (t.set now k v ttl).data k' = t.data k' := by
  simp [set,Function.update_of_ne other]

theorem get_set_self [DecidableEq K] (t : TTL K V) (now : Int) (k : K) (v : V) {ttl : Int} (nonneg : 0 ≤ ttl) :
    (t.set now k v ttl).get now k = some v := by
  simp only [get,check,set_data_self]
  rw [if_neg (by omega)]

theorem get_set_of_ne [DecidableEq K] (t : TTL K V) (now : Int) {k k' : K} (v : V) (ttl : Int) (other : k' ≠ k) :
    (t.set now k v ttl).get now k' = t.get now k' := by
  simp only [get,set_data_of_ne _ _ _ _ other]

end TTL

inductive ConfigCall where
  | cacheLookup (clientID : String)
  | timeNow
  | store (call : ClientStoreCall)
  | cacheSet (clientID : String) (config : ClientConfig) (ttl : Int)

abbrev ConfigCall.Resp : ConfigCall → Type
  | .cacheLookup _ => Option (TTL.Entry ClientConfig)
  | .timeNow => Int
  | .store call => call.Resp
  | .cacheSet .. => Unit

abbrev ConfigProg := Interaction ConfigCall ConfigCall.Resp

def cacheConfig (id : String) (cc : ClientConfig) : ConfigProg (Except ClientStoreError ClientConfig) :=
  .call (.cacheSet id cc (300 * second)) fun _ => .pure (.ok cc)

-- A failed read is not cached.
def loadFromStore (id : String) : ConfigProg (Except ClientStoreError ClientConfig) :=
  .call (.store (.getClientConfig id)) fun
    | .error err => .pure (.error err)
    | .ok cc => cacheConfig id cc

-- The rest of Get once it has read an entry: time.Now(), outside the lock.
def checkEntry (id : String) (e : TTL.Entry ClientConfig) : ConfigProg (Except ClientStoreError ClientConfig) :=
  .call .timeNow fun now => if now > e.exp then loadFromStore id else .pure (.ok e.val)

def loadCachedClientConfig (id : String) : ConfigProg (Except ClientStoreError ClientConfig) :=
  .call (.cacheLookup id) fun
    | none => loadFromStore id
    | some e => checkEntry id e

end Enoti
