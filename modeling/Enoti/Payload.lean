import Enoti.Base64
import Enoti.Types

namespace Enoti

-- EncodePayload and DecodePayload; JSON and zstd are parameters.

abbrev Bytes := List UInt8

structure JsonCodec (π : Type) where
  marshal : π → Except String Bytes
  unmarshal : Bytes → Except String π

-- DecodeAll fails on corrupt input.
structure Zstd where
  encodeAll : Bytes → Bytes
  decodeAll : Bytes → Option Bytes

def rawURLEncoding : Base64.Alphabet :=
  ⟨"ABCDEFGHIJKLMNOPQRSTUVWXYZabcdefghijklmnopqrstuvwxyz0123456789-_".toList,by decide,by decide,by decide⟩

variable {π : Type}

def encodePayload (json : JsonCodec π) (zstd : Zstd) (d : π) : Except String String :=
  match json.marshal d with
  | .error err => .error err
  | .ok s => .ok (String.ofList (Base64.encode rawURLEncoding (zstd.encodeAll s)))

-- The error value is only ever compared with nil, so a failure is none.
def decodePayload (zstd : Zstd) (input : String) : Option Bytes :=
  (Base64.decode rawURLEncoding input.toList).bind zstd.decodeAll

theorem encodePayload_ok {json : JsonCodec π} {zstd : Zstd} {d : π} {s : Bytes} (marshaled : json.marshal d = .ok s) :
    encodePayload json zstd d = .ok (String.ofList (Base64.encode rawURLEncoding (zstd.encodeAll s))) := by
  simp [encodePayload,marshaled]

-- The round trip, under the JSON and zstd packages' own laws.

structure Zstd.Inverse (zstd : Zstd) : Prop where
  decodeAll_encodeAll : ∀ b, zstd.decodeAll (zstd.encodeAll b) = some b

structure JsonCodec.Inverse (json : JsonCodec π) : Prop where
  marshal_decoded : ∀ raw d, json.unmarshal raw = .ok d → ∃ s, json.marshal d = .ok s ∧ json.unmarshal s = .ok d

theorem decodePayload_encoded {zstd : Zstd} (inverse : zstd.Inverse) (s : Bytes) :
    decodePayload zstd (String.ofList (Base64.encode rawURLEncoding (zstd.encodeAll s))) = some s := by
  rw [decodePayload,String.toList_ofList,Base64.decode_encode,Option.bind_some,inverse.decodeAll_encodeAll]

example : Base64.encode rawURLEncoding [251,255] = ['-','_','8'] := by rfl

theorem payload_round_trips (json : JsonCodec π) (zstd : Zstd) (zstdInverse : zstd.Inverse) (jsonInverse : json.Inverse)
    (raw : Bytes) (d : π) (decoded : json.unmarshal raw = .ok d) :
    ∃ e s, encodePayload json zstd d = .ok e ∧ json.marshal d = .ok s ∧ decodePayload zstd e = some s ∧
      json.unmarshal s = .ok d := by
  obtain ⟨s,marshaled,readBack⟩ := jsonInverse.marshal_decoded raw d decoded
  exact ⟨_,s,encodePayload_ok marshaled,marshaled,decodePayload_encoded zstdInverse s,readBack⟩

def plainZstd : Zstd := ⟨id,some⟩

def bytesJson : JsonCodec Bytes := ⟨.ok,.ok⟩

theorem payload_round_trips_on_bytes :
    plainZstd.Inverse ∧ bytesJson.Inverse ∧ bytesJson.unmarshal [123,125] = .ok [123,125] ∧
      ∃ e s, encodePayload bytesJson plainZstd [123,125] = .ok e ∧ bytesJson.marshal [123,125] = .ok s ∧
        decodePayload plainZstd e = some s ∧ bytesJson.unmarshal s = .ok [123,125] :=
  ⟨⟨fun _ => rfl⟩,⟨fun _ d _ => ⟨d,rfl,rfl⟩⟩,rfl,
    payload_round_trips bytesJson plainZstd ⟨fun _ => rfl⟩ ⟨fun _ d _ => ⟨d,rfl,rfl⟩⟩ [123,125] [123,125] rfl⟩

end Enoti
