import DeclMerge.Text.Hex

/-!
# Strict UTF-8

Bytes become text only if every byte belongs to a well-formed sequence. The lead byte decides how
many continuation bytes follow and which range the first of them has to fall in; overlong forms,
surrogates and values above U+10FFFF are out of range at that byte already. The first sequence
that is not well formed is reported with its place, its lead byte and the number of its bytes that
were in order.
-/
namespace DeclMerge.Utf8

/-- Why a sequence of bytes is no character. -/
inductive Reason where
  -- Its first byte can start no sequence.
  | startByte
  -- A continuation byte is missing or out of range, and another byte stands there.
  | continuationByte
  -- The bytes end within the sequence.
  | endOfData
  deriving DecidableEq, Repr

/-- The first bad sequence: where it starts, its first byte, and its length in bytes without the
byte that spoils it. -/
structure Fault where
  position : Nat
  first : UInt8
  length : Nat
  reason : Reason
  deriving DecidableEq, Repr

def Reason.message : Reason → String
  | .startByte => "invalid start byte"
  | .continuationByte => "invalid continuation byte"
  | .endOfData => "unexpected end of data"

/-- A single byte is named by its value, several by their first and last position. -/
def Fault.message (fault : Fault) : String :=
  let place :=
    if fault.length ≤ 1 then
      "byte 0x" ++ String.ofList (Text.hex 2 fault.first.toNat)
        ++ " in position " ++ fault.position.repr
    else
      "bytes in position " ++ fault.position.repr
        ++ "-" ++ (fault.position + fault.length - 1).repr
  "'utf-8' codec can't decode " ++ place ++ ": " ++ fault.reason.message

/-- A sequence that is not complete yet. `missing` more continuation bytes follow the next one,
and the next one lies between `low` and `high`. -/
structure Pending where
  position : Nat
  first : UInt8
  length : Nat
  value : Nat
  missing : Nat
  low : UInt8
  high : UInt8

namespace Pending

/-- What a lead byte of two or more bytes announces. -/
def ofLead (position : Nat) (byte : UInt8) : Option Pending :=
  if byte < 0xC2 then none
  else if byte < 0xE0 then some ⟨position, byte, 1, byte.toNat - 0xC0, 0, 0x80, 0xBF⟩
  else if byte < 0xF0 then
    some ⟨position, byte, 1, byte.toNat - 0xE0, 1,
      if byte = 0xE0 then 0xA0 else 0x80, if byte = 0xED then 0x9F else 0xBF⟩
  else if byte < 0xF5 then
    some ⟨position, byte, 1, byte.toNat - 0xF0, 2,
      if byte = 0xF0 then 0x90 else 0x80, if byte = 0xF4 then 0x8F else 0xBF⟩
  else none

def fault (pending : Pending) (reason : Reason) : Fault :=
  ⟨pending.position, pending.first, pending.length, reason⟩

/-- The scalar value with the six bits of one more continuation byte. -/
def extend (pending : Pending) (byte : UInt8) : Nat :=
  pending.value * 64 + (byte.toNat - 0x80)

/-- After a continuation byte that is not the last. -/
def next (pending : Pending) (byte : UInt8) (missing : Nat) : Pending :=
  { pending with
    length := pending.length + 1, value := pending.extend byte, missing, low := 0x80, high := 0xBF }

end Pending

/-- Decode from `position`, in the middle of the sequence `pending` if there is one. -/
def decodeFrom (position : Nat) : Option Pending → List UInt8 → Except Fault (List Char)
  | none, [] => .ok []
  | some pending, [] => .error (pending.fault .endOfData)
  | none, byte :: rest =>
    if byte < 0x80 then
      (decodeFrom (position + 1) none rest).map (Char.ofNat byte.toNat :: ·)
    else
      match Pending.ofLead position byte with
      | none => .error ⟨position, byte, 1, .startByte⟩
      | some pending => decodeFrom (position + 1) (some pending) rest
  | some pending, byte :: rest =>
    if pending.low ≤ byte ∧ byte ≤ pending.high then
      match pending.missing with
      | 0 => (decodeFrom (position + 1) none rest).map (Char.ofNat (pending.extend byte) :: ·)
      | missing + 1 => decodeFrom (position + 1) (some (pending.next byte missing)) rest
    else .error (pending.fault .continuationByte)

def decode (bytes : List UInt8) : Except Fault (List Char) := decodeFrom 0 none bytes

def decodeString (bytes : List UInt8) : Except Fault String := (decode bytes).map String.ofList

def encode (text : List Char) : List UInt8 := text.flatMap String.utf8EncodeChar

@[simp] theorem encode_nil : encode [] = [] := rfl

@[simp] theorem encode_append (left right : List Char) :
    encode (left ++ right) = encode left ++ encode right := List.flatMap_append

@[simp] theorem decode_nil : decode [] = .ok [] := rfl

/-- The widest and the narrowest sequence of each length reads back. -/
example : decode (encode ['\x00', '\x7F', '\u0080', '\u07FF', '\u0800', '\uD7FF', '\uE000',
    '\uFFFF', Char.ofNat 0x10000, Char.ofNat 0x10FFFF])
    = .ok ['\x00', '\x7F', '\u0080', '\u07FF', '\u0800', '\uD7FF', '\uE000',
      '\uFFFF', Char.ofNat 0x10000, Char.ofNat 0x10FFFF] := rfl

/-- An encoded surrogate fails at its second byte, so only its lead byte is reported. -/
example : decode [0x61, 0xED, 0xA0, 0x80] = .error ⟨1, 0xED, 1, .continuationByte⟩ := rfl

example : decode [0xF0, 0x9F, 0x98] = .error ⟨0, 0xF0, 3, .endOfData⟩ := rfl

end DeclMerge.Utf8
