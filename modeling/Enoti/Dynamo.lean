import Mathlib
import Enoti.Interaction

-- A DynamoDB table for the requests enoti makes; expressions are syntax trees.

namespace Dynamo

inductive AttributeValue where
  | s (value : String)
  | n (value : Int)
  | l (values : List AttributeValue)
  | m (fields : List (String × AttributeValue))
  | null

abbrev Item := AList fun _ : String => AttributeValue

structure Key where
  pk : String
  sk : String
deriving DecidableEq, Repr

abbrev Table := AList fun _ : Key => Item

def Item.key? (item : Item) : Option Key :=
  match item.lookup "PK",item.lookup "SK" with
  | some (.s pk),some (.s sk) => some ⟨pk,sk⟩
  | _,_ => none

def Key.item (key : Key) : Item := ((∅ : Item).insert "PK" (.s key.pk)).insert "SK" (.s key.sk)

inductive Condition where
  | attributeNotExists (name : String)
  | numberEquals (name : String) (value : Int)
  | numberLess (name : String) (value : Int)
  | and (a b : Condition)
  | or (a b : Condition)

-- A comparison with a missing attribute is false.
def Condition.holds (item : Item) : Condition → Bool
  | .attributeNotExists name => (item.lookup name).isNone
  | .numberEquals name v =>
    match item.lookup name with
    | some (.n x) => decide (x = v)
    | _ => false
  | .numberLess name v =>
    match item.lookup name with
    | some (.n x) => decide (x < v)
    | _ => false
  | .and a b => a.holds item && b.holds item
  | .or a b => a.holds item || b.holds item

def admits (condition : Option Condition) (item : Item) : Bool :=
  match condition with
  | none => true
  | some c => c.holds item

inductive Error where
  | conditionalCheckFailed
  | failure (msg : String)

def Error.message : Error → String
  | .conditionalCheckFailed => "ConditionalCheckFailedException: The conditional request failed"
  | .failure msg => msg

inductive Update where
  | set (name : String) (value : AttributeValue)
  | setIfNotExists (name : String) (value : AttributeValue)
  | add (name : String) (incr : Int)

def Update.apply (item : Item) : Update → Except Error Item
  | .set name v => .ok (item.insert name v)
  | .setIfNotExists name v => .ok (if (item.lookup name).isSome then item else item.insert name v)
  | .add name incr =>
    match item.lookup name with
    | none => .ok (item.insert name (.n incr))
    | some (.n x) => .ok (item.insert name (.n (x + incr)))
    | some _ => .error (.failure "ValidationException: An operand in the update expression has an incorrect data type")

def applyAll (item : Item) : List Update → Except Error Item
  | [] => .ok item
  | u :: rest =>
    match u.apply item with
    | .ok item => applyAll item rest
    | .error err => .error err

def project (item : Item) (names : List String) : Item :=
  names.foldl (fun acc name => match item.lookup name with
    | some v => acc.insert name v
    | none => acc) ∅

inductive Request where
  | getItem (key : Key)
  | putItem (item : Item) (condition : Option Condition)
  | updateItem (key : Key) (updates : List Update) (condition : Option Condition)
  | deleteItem (key : Key)
  | query (pk skPrefix : String) (projection : List String)

abbrev Request.Resp : Request → Type
  | .getItem _ => Except Error (Option Item)
  | .putItem .. => Except Error Unit
  | .updateItem .. => Except Error Unit
  | .deleteItem _ => Except Error Unit
  | .query .. => Except Error (List Item)

def keyMatches (pk skPrefix : String) (key : Key) : Bool :=
  key.pk == pk && skPrefix.toList.isPrefixOf key.sk.toList

def exec (t : Table) : (r : Request) → r.Resp × Table
  | .getItem key => (.ok (t.lookup key),t)
  | .putItem item condition =>
    match item.key? with
    | none => (.error (.failure "ValidationException: One of the required keys was not given a value"),t)
    | some key =>
      if admits condition ((t.lookup key).getD ∅) then (.ok (),t.insert key item)
      else (.error .conditionalCheckFailed,t)
  | .updateItem key updates condition =>
    if admits condition ((t.lookup key).getD ∅) then
      match applyAll ((t.lookup key).getD key.item) updates with
      | .ok item => (.ok (),t.insert key item)
      | .error err => (.error err,t)
    else (.error .conditionalCheckFailed,t)
  | .deleteItem key => (.ok (),t.erase key)
  | .query pk skPrefix projection =>
    (.ok ((t.entries.filter fun e => keyMatches pk skPrefix e.1).map fun e => project e.2 projection),t)

@[simp] theorem exec_getItem (t : Table) (key : Key) : exec t (.getItem key) = (.ok (t.lookup key),t) := rfl

@[simp] theorem exec_deleteItem (t : Table) (key : Key) : exec t (.deleteItem key) = (.ok (),t.erase key) := rfl

-- An item's size as the developer guide counts it; a number takes one byte per
-- two digits and one more.
mutual
def AttributeValue.size : AttributeValue → Nat
  | .s v => v.utf8ByteSize
  | .n v => ((Nat.toDigits 10 v.natAbs).length + 1) / 2 + 1
  | .l vs => 3 + AttributeValue.listSize vs
  | .m fs => 3 + AttributeValue.fieldsSize fs
  | .null => 1
def AttributeValue.listSize : List AttributeValue → Nat
  | [] => 0
  | v :: vs => v.size + 1 + AttributeValue.listSize vs
def AttributeValue.fieldsSize : List (String × AttributeValue) → Nat
  | [] => 0
  | (name,v) :: fs => name.utf8ByteSize + v.size + 1 + AttributeValue.fieldsSize fs
end

def Item.size (item : Item) : Nat := (item.entries.map fun e => e.1.utf8ByteSize + e.2.size).sum

def maxItemSize : Nat := 400 * 1024

def itemTooLarge : String := "ValidationException: Item size has exceeded the maximum allowed size"

def written (t : Table) : Request → Option Item
  | .putItem item condition =>
    match item.key? with
    | some key => if admits condition ((t.lookup key).getD ∅) then some item else none
    | none => none
  | .updateItem key updates condition =>
    if admits condition ((t.lookup key).getD ∅) then
      match applyAll ((t.lookup key).getD key.item) updates with
      | .ok item => some item
      | .error _ => none
    else none
  | _ => none

def Request.failed : (r : Request) → String → r.Resp
  | .getItem _,msg => .error (.failure msg)
  | .putItem ..,msg => .error (.failure msg)
  | .updateItem ..,msg => .error (.failure msg)
  | .deleteItem _,msg => .error (.failure msg)
  | .query ..,msg => .error (.failure msg)

-- A request is applied atomically unless the item it would store is above
-- 400 KB; any request may fail and change nothing.
inductive Answers (t : Table) (r : Request) : r.Resp → Table → Prop where
  | applied (fits : ∀ item, written t r = some item → item.size ≤ maxItemSize) : Answers t r (exec t r).1 (exec t r).2
  | tooLarge {item : Item} (stored : written t r = some item) (exceeds : maxItemSize < item.size) :
      Answers t r (r.failed itemTooLarge) t
  | failed (msg : String) : Answers t r (r.failed msg) t

def serve (t : Table) (r : Request) : r.Resp × Table :=
  match written t r with
  | some item => if item.size ≤ maxItemSize then exec t r else (r.failed itemTooLarge,t)
  | none => exec t r

theorem answers_serve (t : Table) (r : Request) : Answers t r (serve t r).1 (serve t r).2 := by
  unfold serve
  split
  · rename_i item stored
    split
    · rename_i fits
      refine .applied fun item' stored' => ?_
      rw [stored,Option.some_inj] at stored'
      rw [← stored']
      exact fits
    · exact .tooLarge stored (by omega)
  · rename_i unwritten
    exact .applied fun item stored => absurd stored (by simp [unwritten])

theorem Answers.runs_call {α : Type} {req : Request} {k : req.Resp → Interaction Request Request.Resp α}
    (settles : ∀ resp, ∃ v, k resp = .pure v) {t t' : Table} {value : α}
    (path : Interaction.Runs Answers (.call req k) t value t') :
    (Interaction.call req k).run exec t = (value,t') ∨ ∃ msg, k (req.failed msg) = .pure value ∧ t' = t := by
  obtain ⟨resp,middle,answered,rest⟩ := Interaction.runs_call_inv path
  obtain ⟨v,settled⟩ := settles resp
  rw [settled] at rest
  obtain ⟨rfl,rfl⟩ := Interaction.runs_pure_inv rest
  cases answered with
  | applied fits => exact .inl (by rw [Interaction.run_call,settled,Interaction.run_pure])
  | tooLarge stored exceeds => exact .inr ⟨itemTooLarge,settled,rfl⟩
  | failed msg => exact .inr ⟨msg,settled,rfl⟩

theorem exec_putItem {item : Item} {key : Key} (keyed : item.key? = some key) (t : Table) (condition : Option Condition) :
    exec t (.putItem item condition) =
      if admits condition ((t.lookup key).getD ∅) then (.ok (),t.insert key item) else (.error .conditionalCheckFailed,t) := by
  simp [exec,keyed]

theorem exec_updateItem (t : Table) (key : Key) (updates : List Update) (condition : Option Condition) :
    exec t (.updateItem key updates condition) =
      if admits condition ((t.lookup key).getD ∅) then
        match applyAll ((t.lookup key).getD key.item) updates with
        | .ok item => (.ok (),t.insert key item)
        | .error err => (.error err,t)
      else (.error .conditionalCheckFailed,t) := rfl

def Request.writes : Request → Key → Prop
  | .putItem item _,key => item.key? = some key
  | .updateItem k ..,key => k = key
  | .deleteItem k,key => k = key
  | _,_ => False

theorem exec_frame (t : Table) (r : Request) (key : Key) (untouched : ¬r.writes key) :
    (exec t r).2.lookup key = t.lookup key := by
  cases r with
  | getItem k => rfl
  | putItem item condition =>
    simp only [Request.writes] at untouched
    cases keyed : item.key? with
    | none => simp [exec,keyed]
    | some k =>
      rw [exec_putItem keyed]
      split
      · exact AList.lookup_insert_ne fun same => untouched (same ▸ keyed)
      · rfl
  | updateItem k updates condition =>
    simp only [Request.writes] at untouched
    rw [exec_updateItem]
    split
    · split
      · exact AList.lookup_insert_ne fun same => untouched same.symm
      · rfl
    · rfl
  | deleteItem k =>
    simp only [Request.writes] at untouched
    exact AList.lookup_erase_ne fun same => untouched same.symm
  | query pk skPrefix projection => rfl

theorem run_frame {α : Type} {program : Interaction Request Request.Resp α} {key : Key}
    (confined : Interaction.Confined (fun r => ¬r.writes key) program) (t : Table) :
    (program.run exec t).2.lookup key = t.lookup key :=
  Interaction.run_invariant (fun t' : Table => t'.lookup key = t.lookup key)
    (fun t' r untouched kept => (exec_frame t' r key untouched).trans kept) confined t rfl

def KeysStored (t : Table) : Prop := ∀ key item, t.lookup key = some item → item.key? = some key

theorem keysStored_empty : KeysStored ∅ := fun _ _ found => by
  rw [AList.lookup_empty] at found
  cases found

theorem KeysStored.insert {t : Table} (stored : KeysStored t) {key : Key} {item : Item} (keyed : item.key? = some key) :
    KeysStored (t.insert key item) := by
  intro k found item'
  by_cases same : k = key
  · subst same
    rw [AList.lookup_insert] at item'
    cases item'
    exact keyed
  · rw [AList.lookup_insert_ne same] at item'
    exact stored k found item'

theorem KeysStored.erase {t : Table} (stored : KeysStored t) (key : Key) : KeysStored (t.erase key) := by
  intro k item found
  by_cases same : k = key
  · subst same
    rw [AList.lookup_erase] at found
    cases found
  · rw [AList.lookup_erase_ne same] at found
    exact stored k item found

theorem KeysStored.pk_isSome {t : Table} (stored : KeysStored t) {key : Key} {item : Item} (found : t.lookup key = some item) :
    (item.lookup "PK").isSome := by
  have keyed := stored key item found
  unfold Item.key? at keyed
  split at keyed
  · rename_i pk sk storedPK storedSK
    rw [storedPK]
    rfl
  · cases keyed

theorem Item.key?_congr {item item' : Item} (pk : item'.lookup "PK" = item.lookup "PK")
    (sk : item'.lookup "SK" = item.lookup "SK") : item'.key? = item.key? := by
  simp only [Item.key?,pk,sk]

theorem Key.item_key (key : Key) : key.item.key? = some key := by
  simp [Key.item,Item.key?,AList.lookup_insert,AList.lookup_insert_ne (show ("PK" : String) ≠ "SK" by decide),
    -AList.insert_empty]

def Update.name : Update → String
  | .set name _ | .setIfNotExists name _ | .add name _ => name

theorem Update.apply_lookup_ne {item item' : Item} {u : Update} (applied : u.apply item = .ok item') {name : String}
    (other : u.name ≠ name) : item'.lookup name = item.lookup name := by
  cases u with
  | set n v =>
    cases applied
    exact AList.lookup_insert_ne (Ne.symm other)
  | setIfNotExists n v =>
    cases applied
    split
    · rfl
    · exact AList.lookup_insert_ne (Ne.symm other)
  | add n incr =>
    simp only [Update.apply] at applied
    split at applied
    · cases applied
      exact AList.lookup_insert_ne (Ne.symm other)
    · cases applied
      exact AList.lookup_insert_ne (Ne.symm other)
    · cases applied

theorem applyAll_lookup_ne {item item' : Item} {updates : List Update} (applied : applyAll item updates = .ok item')
    {name : String} (untouched : ∀ u ∈ updates, u.name ≠ name) : item'.lookup name = item.lookup name := by
  induction updates generalizing item with
  | nil =>
    cases applied
    rfl
  | cons u rest ih =>
    simp only [applyAll] at applied
    split at applied
    · rename_i mid first
      rw [ih applied fun u' mem => untouched u' (List.mem_cons_of_mem u mem),
        Update.apply_lookup_ne first (untouched u List.mem_cons_self)]
    · cases applied

def Request.KeepsKeys : Request → Prop
  | .updateItem _ updates _ => ∀ u ∈ updates, u.name ≠ "PK" ∧ u.name ≠ "SK"
  | _ => True

theorem exec_keysStored {t : Table} (stored : KeysStored t) (r : Request) (keeps : r.KeepsKeys) : KeysStored (exec t r).2 := by
  cases r with
  | getItem key => exact stored
  | putItem item condition =>
    cases keyed : item.key? with
    | none => simpa [exec,keyed] using stored
    | some key =>
      rw [exec_putItem keyed]
      split
      · exact stored.insert keyed
      · exact stored
  | updateItem key updates condition =>
    rw [exec_updateItem]
    split
    · split
      · rename_i item applied
        have base : ((t.lookup key).getD key.item).key? = some key := by
          cases found : t.lookup key with
          | none => exact key.item_key
          | some item' => exact stored key item' found
        refine stored.insert ?_
        rw [Item.key?_congr (applyAll_lookup_ne applied fun u mem => (keeps u mem).1)
          (applyAll_lookup_ne applied fun u mem => (keeps u mem).2)]
        exact base
      · exact stored
    · exact stored
  | deleteItem key => exact stored.erase key
  | query pk skPrefix projection => exact stored

theorem exec_putItem_absent {t : Table} (stored : KeysStored t) {item : Item} {key : Key} (keyed : item.key? = some key) :
    exec t (.putItem item (some (.and (.attributeNotExists "PK") (.attributeNotExists "SK")))) =
      if (t.lookup key).isSome then (.error .conditionalCheckFailed,t) else (.ok (),t.insert key item) := by
  rw [exec_putItem keyed]
  cases found : t.lookup key with
  | none => simp [admits,Condition.holds]
  | some item' =>
    have present := stored.pk_isSome found
    simp [admits,Condition.holds,Option.isSome_iff_ne_none.1 present]

end Dynamo
