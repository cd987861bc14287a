import Mathlib

namespace Enoti

def hardLimitRecentItems : Nat := 128

structure Flip where
  «at» : Int
  «from» : String
  «to» : String
  payload : String
deriving DecidableEq, Repr

-- Defaults are Go's zero values, so {lastValue:=v} is types.Edge{LastValue: v}.
structure Edge where
  scopeKey : String := ""
  lastValue : String := ""
  lastChangeTS : Int := 0
  windowStart : Int := 0
  flipCount : Int := 0
  recent : List Flip := []
  aggUntilTS : Int := 0
  version : Int := 0
deriving DecidableEq, Repr

def appendRecent (rs : List Flip) (f : Flip) (cap : Nat) : List Flip :=
  let rs := rs ++ [f]
  if rs.length > cap then rs.drop (rs.length - cap) else rs

theorem appendRecent_eq_rtake (rs : List Flip) (f : Flip) (cap : Nat) :
    appendRecent rs f cap = (rs ++ [f]).rtake cap := by
  unfold appendRecent List.rtake
  dsimp only
  split
  · rfl
  · rename_i within
    rw [Nat.sub_eq_zero_of_le (Nat.le_of_not_gt within),List.drop_zero]

theorem appendRecent_length (rs : List Flip) (f : Flip) (cap : Nat) :
    (appendRecent rs f cap).length = min (rs.length + 1) cap := by
  rw [appendRecent_eq_rtake,List.rtake]
  simp only [List.length_drop,List.length_append,List.length_singleton]
  omega

structure FlapConfig where
  windowSeconds : Int
  suppressBelow : Int
  aggregateAt : Int
  aggregateMaxItems : Int
  aggregateCooldownSeconds : Int
deriving DecidableEq, Repr

-- Go's int64 addition: the sum wraps around modulo 2^64.
def addInt64 (a b : Int) : Int := (a + b).bmod (2^64)

theorem addInt64_of_fits {a b : Int} (low : -2^63 ≤ a + b) (high : a + b < 2^63) : addInt64 a b = a + b :=
  Int.bmod_eq_of_le low high

-- unicode.IsSpace: tab to CR, space, NEL, NBSP, and White_Space above Latin-1.
def isSpace (c : Char) : Bool :=
  let n := c.toNat
  (9 ≤ n && n ≤ 13) || n == 32 || n == 0x85 || n == 0xA0 || n == 0x1680 || (0x2000 ≤ n && n ≤ 0x200A) ||
    n == 0x2028 || n == 0x2029 || n == 0x202F || n == 0x205F || n == 0x3000

structure TargetConfig where
  snsArn : String
  snsRPM : Int
deriving DecidableEq, Repr

structure TriggerConfig where
  fieldExpr : String
  target : TargetConfig
  flapping : Option FlapConfig
deriving DecidableEq, Repr

structure Passthrough where
  fieldExpr : String
  negate : Bool
deriving DecidableEq, Repr

structure ClientConfig where
  clientID : String
  clientName : String
  clientKey : String
  ipRPM : Int
  clientRPM : Int
  passthrough : Passthrough
  trigger : TriggerConfig
deriving DecidableEq, Repr

def clientKeyMinLength : Nat := 8
def minWindowSizeSeconds : Int := 10
def clientIDHdrName : String := "x-client-id"
def clientKeyHdrName : String := "x-client-key"

def validateFlapping (flapping : FlapConfig) : Option String :=
  if flapping.windowSeconds < minWindowSizeSeconds then
    some ("flapping.window_seconds must be greater than or equal to " ++ toString minWindowSizeSeconds ++ " seconds")
  else if flapping.suppressBelow < 0 ∨ flapping.suppressBelow > flapping.windowSeconds then
    some "flapping.suppress_below must be non-negative and less than or equal to window_seconds"
  else none

-- The first failing check's message, or nil. Go's len of a string counts bytes.
def ClientConfig.validate (c : ClientConfig) : Option String :=
  if c.clientID = "" then some "client_id is required"
  else if c.clientName = "" then some "client_name is required"
  else if c.clientKey = "" then some "client_key is required"
  else if c.clientKey.utf8ByteSize < clientKeyMinLength then
    some ("api_key must be at least " ++ toString clientKeyMinLength ++ " characters")
  else if c.ipRPM < 0 then some "ip_rpm must be non-negative. 0 for non limit"
  else if c.clientRPM < 0 then some "client_rpm must be non-negative. 0 for non limit"
  else match c.trigger.flapping with
    | some flapping => validateFlapping flapping
    | none => none

theorem validateFlapping_bounds {f : FlapConfig} (accepted : validateFlapping f = none) :
    minWindowSizeSeconds ≤ f.windowSeconds ∧ 0 ≤ f.suppressBelow ∧ f.suppressBelow ≤ f.windowSeconds := by
  unfold validateFlapping at accepted
  split at accepted
  · cases accepted
  · split at accepted
    · cases accepted
    · omega

theorem validate_flapping {c : ClientConfig} {f : FlapConfig} (accepted : c.validate = none)
    (present : c.trigger.flapping = some f) : validateFlapping f = none := by
  unfold ClientConfig.validate at accepted
  simp only [present] at accepted
  split_ifs at accepted
  exact accepted

inductive Action where
  | noOp
  | suppressFlapping
  | suppressDedup
  | edgeTriggeredForward
  | forwardedAsIs
  | aggregateSent
deriving DecidableEq, Repr

def statusText : Action → String
  | .noOp => "no_op"
  | .suppressFlapping => "suppress_flap"
  | .suppressDedup => "suppress_dedup"
  | .edgeTriggeredForward => "edge_triggered_forward"
  | .forwardedAsIs => "forwarded_as_is"
  | .aggregateSent => "aggregate_sent"

end Enoti
