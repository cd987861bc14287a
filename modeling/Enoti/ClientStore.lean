import Mathlib.Data.List.AList
import Enoti.Interaction
import Enoti.Types

namespace Enoti

-- ports.ClientStore and its contract, a finite map from client ID to
-- configuration. ClearAll is for tests and left out.

inductive ClientStoreError where
  | notFound
  | other (msg : String)
deriving DecidableEq, Repr

def ClientStoreError.message : ClientStoreError → String
  | .notFound => "not found"
  | .other msg => msg

inductive ClientStoreCall where
  | getClientConfig (clientID : String)
  | listClients
  | putClientConfig (clientID : String) (config : ClientConfig)
  | deleteClientConfig (clientID : String)

abbrev ClientStoreCall.Resp : ClientStoreCall → Type
  | .getClientConfig _ => Except ClientStoreError ClientConfig
  | .listClients => Except ClientStoreError (List String)
  | .putClientConfig .. => Except ClientStoreError Unit
  | .deleteClientConfig _ => Except ClientStoreError Unit

abbrev Registry := AList fun _ : String => ClientConfig

def registryAnswer (r : Registry) : (call : ClientStoreCall) → call.Resp × Registry
  | .getClientConfig clientID =>
    match r.lookup clientID with
    | some config => (.ok config,r)
    | none => (.error .notFound,r)
  | .listClients => (.ok r.keys,r)
  | .putClientConfig clientID config =>
    match config.validate with
    | some err => (.error (.other err),r)
    | none => (.ok (),r.insert clientID config)
  | .deleteClientConfig clientID => (.ok (),r.erase clientID)

def ClientStoreCall.failed : (call : ClientStoreCall) → String → call.Resp
  | .getClientConfig _,msg => .error (.other msg)
  | .listClients,msg => .error (.other msg)
  | .putClientConfig ..,msg => .error (.other msg)
  | .deleteClientConfig _,msg => .error (.other msg)

-- A failed call changes nothing.
def registryAnswers (r : Registry) (call : ClientStoreCall) (resp : call.Resp) (r' : Registry) : Prop :=
  registryAnswer r call = (resp,r') ∨ ∃ err, resp = call.failed err ∧ r' = r

@[simp] theorem registryAnswer_get_registry (r : Registry) (clientID : String) :
    (registryAnswer r (.getClientConfig clientID)).2 = r := by
  simp only [registryAnswer]
  split <;> rfl

theorem registryAnswer_get_ok {r : Registry} {clientID : String} {config : ClientConfig} :
    (registryAnswer r (.getClientConfig clientID)).1 = .ok config ↔ r.lookup clientID = some config := by
  simp only [registryAnswer]
  split <;> simp_all

theorem registryAnswers_get {r r' : Registry} {clientID : String} {resp : Except ClientStoreError ClientConfig}
    (answered : registryAnswers r (.getClientConfig clientID) resp r') :
    r' = r ∧ (resp = (registryAnswer r (.getClientConfig clientID)).1 ∨ ∃ msg, resp = .error (.other msg)) := by
  rcases answered with exact | ⟨msg,failed,rfl⟩
  · have first : (registryAnswer r (.getClientConfig clientID)).1 = resp := congrArg Prod.fst exact
    have second : (registryAnswer r (.getClientConfig clientID)).2 = r' := congrArg Prod.snd exact
    exact ⟨second.symm.trans (registryAnswer_get_registry r clientID),.inl first.symm⟩
  · exact ⟨rfl,.inr ⟨msg,failed⟩⟩

def RegistryValid (r : Registry) : Prop := ∀ id config, r.lookup id = some config → config.validate = none

theorem registryAnswer_valid {r : Registry} (valid : RegistryValid r) (call : ClientStoreCall) :
    RegistryValid (registryAnswer r call).2 := by
  cases call with
  | getClientConfig clientID =>
    simp only [registryAnswer]
    split <;> exact valid
  | listClients => exact valid
  | putClientConfig clientID config =>
    simp only [registryAnswer]
    cases accepted : config.validate with
    | some err => exact valid
    | none =>
      intro id stored found
      by_cases same : id = clientID
      · subst same
        rw [AList.lookup_insert,Option.some.injEq] at found
        rw [← found]
        exact accepted
      · rw [AList.lookup_insert_ne same] at found
        exact valid id stored found
  | deleteClientConfig clientID =>
    intro id stored found
    by_cases same : id = clientID
    · subst same
      simp [registryAnswer,AList.lookup_erase] at found
    · rw [registryAnswer,AList.lookup_erase_ne same] at found
      exact valid id stored found

end Enoti
