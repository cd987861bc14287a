import Enoti.Dynamo

-- CreateTable, DeleteTable and the TableNotExists waiter. DeleteTable returns
-- while the table is still being deleted, and any request may fail on its own.

namespace Dynamo

inductive TableStatus where
  | absent
  | active (t : Table)
  | deleting

inductive ControlError where
  | resourceInUse
  | resourceNotFound
  | failure (msg : String)

def ControlError.message : ControlError → String
  | .resourceInUse => "ResourceInUseException"
  | .resourceNotFound => "ResourceNotFoundException"
  | .failure msg => msg

inductive ControlRequest where
  | createTable
  | deleteTable
  | waitNotExists (maxWait : Int)

abbrev ControlRequest.Resp (_ : ControlRequest) : Type := Except ControlError Unit

def controlAnswers (s : TableStatus) : (r : ControlRequest) → r.Resp → TableStatus → Prop
  | .createTable,answer,s' =>
    (answer = .ok () ∧ s = .absent ∧ s' = .active ∅) ∨ (answer = .error .resourceInUse ∧ s ≠ .absent ∧ s' = s) ∨
      (∃ msg, answer = .error (.failure msg) ∧ s' = s)
  | .deleteTable,answer,s' =>
    (answer = .ok () ∧ (∃ t, s = .active t) ∧ s' = .deleting) ∨
      (answer = .error .resourceNotFound ∧ s = .absent ∧ s' = s) ∨
      (answer = .error .resourceInUse ∧ s = .deleting ∧ s' = s) ∨ (∃ msg, answer = .error (.failure msg) ∧ s' = s)
  | .waitNotExists _,answer,s' =>
    -- the deletion may end while the waiter polls, whatever it answers
    (answer = .ok () ∧ (s = .absent ∨ s = .deleting) ∧ s' = .absent) ∨
      (∃ msg, answer = .error (.failure msg) ∧ (s' = s ∨ s = .deleting ∧ s' = .absent))

section
variable {s s' : TableStatus} {err : ControlError}

theorem createTable_ok (answered : controlAnswers s .createTable (.ok ()) s') : s = .absent ∧ s' = .active ∅ := by
  rcases answered with ⟨-,absent,created⟩ | ⟨refused,-⟩ | ⟨msg,failed,-⟩
  · exact ⟨absent,created⟩
  · cases refused
  · cases failed

theorem createTable_active {t : Table} {answer : Except ControlError Unit}
    (answered : controlAnswers (.active t) .createTable answer s') :
    s' = .active t ∧ (answer = .error .resourceInUse ∨ ∃ msg, answer = .error (.failure msg)) := by
  rcases answered with ⟨-,absent,-⟩ | ⟨refused,-,kept⟩ | ⟨msg,failed,kept⟩
  · cases absent
  · exact ⟨kept,.inl refused⟩
  · exact ⟨kept,.inr ⟨msg,failed⟩⟩

theorem createTable_absent_refused (answered : controlAnswers .absent .createTable (.error .resourceInUse) s') : False := by
  rcases answered with ⟨refused,-⟩ | ⟨-,present,-⟩ | ⟨msg,failed,-⟩
  · cases refused
  · exact present rfl
  · cases failed

theorem createTable_error (answered : controlAnswers s .createTable (.error err) s') : s' = s := by
  rcases answered with ⟨refused,-⟩ | ⟨-,-,kept⟩ | ⟨msg,-,kept⟩
  · cases refused
  · exact kept
  · exact kept

theorem deleteTable_ok (answered : controlAnswers s .deleteTable (.ok ()) s') : s' = .deleting := by
  rcases answered with ⟨-,-,deleting⟩ | ⟨refused,-⟩ | ⟨refused,-⟩ | ⟨msg,failed,-⟩
  · exact deleting
  · cases refused
  · cases refused
  · cases failed

theorem deleteTable_error (answered : controlAnswers s .deleteTable (.error err) s') : s' = s := by
  rcases answered with ⟨refused,-⟩ | ⟨-,-,kept⟩ | ⟨-,-,kept⟩ | ⟨msg,-,kept⟩
  · cases refused
  · exact kept
  · exact kept
  · exact kept

theorem waitNotExists_ok {maxWait : Int} (answered : controlAnswers s (.waitNotExists maxWait) (.ok ()) s') :
    s' = .absent := by
  rcases answered with ⟨-,-,gone⟩ | ⟨msg,failed,-⟩
  · exact gone
  · cases failed

theorem waitNotExists_error {maxWait : Int} (answered : controlAnswers s (.waitNotExists maxWait) (.error err) s') :
    s' = s ∨ s' = .absent := by
  rcases answered with ⟨refused,-⟩ | ⟨msg,-,kept | ⟨-,gone⟩⟩
  · cases refused
  · exact .inl kept
  · exact .inr gone

end

end Dynamo
