import AppSupervisor.Text.Digit

/-!
Reading bytes as UTF-8.

A strict reading stops at the first byte sequence that is no character and says which bytes are
wrong and why. A lossy reading puts the replacement character for each such sequence, which is as
long as the bytes that could still have begun a character.
-/

namespace AppSupervisor.Text

inductive Utf8Reason
  | invalidStart
  | invalidContinuation
  | unexpectedEnd
  deriving DecidableEq, Repr

def Utf8Reason.message : Utf8Reason → String
  | .invalidStart => "invalid start byte"
  | .invalidContinuation => "invalid continuation byte"
  | .unexpectedEnd => "unexpected end of data"

structure Utf8Fault where
  position : Nat
  length : Nat
  first : UInt8
  reason : Utf8Reason
  deriving DecidableEq, Repr

def Utf8Fault.message (fault : Utf8Fault) : String :=
  if fault.length == 1 then
    s!"'utf-8' codec can't decode byte 0x{hex fault.first.toNat 2} in position " ++
      s!"{fault.position}: {fault.reason.message}"
  else
    s!"'utf-8' codec can't decode bytes in position {fault.position}-" ++
      s!"{fault.position + fault.length - 1}: {fault.reason.message}"

/-- The continuation bytes that a first byte asks for: the admitted range of the next byte, the
number of continuation bytes after that one, and the bits that the first byte contributes. -/
def utf8Lead (b : Nat) : Option (Nat × Nat × Nat × Nat) :=
  if 0xc2 ≤ b && b ≤ 0xdf then some (0x80, 0xbf, 0, b - 0xc0)
  else if b == 0xe0 then some (0xa0, 0xbf, 1, 0)
  else if b == 0xed then some (0x80, 0x9f, 1, 0xd)
  else if 0xe1 ≤ b && b ≤ 0xef then some (0x80, 0xbf, 1, b - 0xe0)
  else if b == 0xf0 then some (0x90, 0xbf, 2, 0)
  else if 0xf1 ≤ b && b ≤ 0xf3 then some (0x80, 0xbf, 2, b - 0xf0)
  else if b == 0xf4 then some (0x80, 0x8f, 2, 4)
  else none

/-- Reads continuation bytes: `low` and `high` bound the next byte, `more` bytes follow it, `length`
bytes are read so far and `code` holds their bits. The answer is the code point and the number of
continuation bytes, or the length of the faulty sequence and the reason. -/
def utf8Tail (low high more length code : Nat) : List UInt8 → Except (Nat × Utf8Reason) (Nat × Nat)
  | [] => .error (length, .unexpectedEnd)
  | b :: rest =>
    if b.toNat < low || high < b.toNat then .error (length, .invalidContinuation)
    else
      let code := code * 64 + (b.toNat - 0x80)
      match more with
      | 0 => .ok (code, length)
      | more + 1 => utf8Tail 0x80 0xbf more (length + 1) code rest

def utf8Next (b : UInt8) (rest : List UInt8) : Except (Nat × Utf8Reason) (Char × Nat) :=
  if b.toNat < 0x80 then .ok (Char.ofNat b.toNat, 0)
  else match utf8Lead b.toNat with
    | none => .error (1, .invalidStart)
    | some (low, high, more, bits) =>
      (utf8Tail low high more 1 bits rest).map fun found => (Char.ofNat found.1, found.2)

def decodeUtf8From (position : Nat) : Nat → List UInt8 → Except Utf8Fault (List Char)
  | _, [] => .ok []
  | skip + 1, _ :: rest => decodeUtf8From (position + 1) skip rest
  | 0, b :: rest =>
    match utf8Next b rest with
    | .ok (c, taken) => (c :: ·) <$> decodeUtf8From (position + 1) taken rest
    | .error (length, reason) => .error ⟨position, length, b, reason⟩

def decodeUtf8 (bytes : List UInt8) : Except Utf8Fault (List Char) :=
  decodeUtf8From 0 0 bytes

def decodeUtf8LossyFrom : Nat → List UInt8 → List Char
  | _, [] => []
  | skip + 1, _ :: rest => decodeUtf8LossyFrom skip rest
  | 0, b :: rest =>
    match utf8Next b rest with
    | .ok (c, taken) => c :: decodeUtf8LossyFrom taken rest
    | .error (length, _) => '\uFFFD' :: decodeUtf8LossyFrom (length - 1) rest

def decodeUtf8Lossy (bytes : List UInt8) : List Char :=
  decodeUtf8LossyFrom 0 bytes

/-- A text whose line ends are all line feeds: a carriage return, alone or before a line feed, ends
a line too. -/
def unifyNewlines : List Char → List Char
  | [] => []
  | '\r' :: '\n' :: rest => '\n' :: unifyNewlines rest
  | '\r' :: rest => '\n' :: unifyNewlines rest
  | c :: rest => c :: unifyNewlines rest

end AppSupervisor.Text
