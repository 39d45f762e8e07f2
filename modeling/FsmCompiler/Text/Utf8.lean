/-
# Decoding UTF-8

Bytes as text, strictly: overlong forms, surrogates and code points beyond the
last one are refused. The first byte of a character says how many follow and
what the next one may be; each of the others is any continuation byte. A fault
names the bytes at which decoding stops.
-/

import FsmCompiler.Text.Quoted

namespace FsmCompiler.Text

/-- Why bytes are no text. -/
inductive Utf8Reason
  | invalidStart
  | invalidContinuation
  | unexpectedEnd
  deriving DecidableEq, Repr

/-- The bytes at which decoding stops, the position of the first of them, and the
reason. -/
structure Utf8Fault where
  position : Nat
  bytes : List UInt8
  reason : Utf8Reason
  deriving DecidableEq, Repr

/-- The reason in words. -/
def Utf8Reason.message : Utf8Reason → String
  | invalidStart => "invalid start byte"
  | invalidContinuation => "invalid continuation byte"
  | unexpectedEnd => "unexpected end of data"

/-- The message for bytes that are no text. -/
def Utf8Fault.message (fault : Utf8Fault) : String :=
  let place := match fault.bytes with
    | [byte] => s!"byte 0x{String.ofList (hexDigits 2 byte.toNat)} in position {fault.position}"
    | bytes =>
      s!"bytes in position {fault.position}-{fault.position + bytes.length - 1}"
  s!"'utf-8' codec can't decode {place}: {fault.reason.message}"

/-- The form of the characters with a given first byte: how many bytes follow,
and the least and greatest value of the next one. -/
structure Utf8Form where
  following : Nat
  least : UInt8
  greatest : UInt8
  deriving DecidableEq, Repr

/-- The form that a first byte announces. -/
def Utf8Form.ofByte? (byte : UInt8) : Option Utf8Form :=
  if byte < 0x80 then some ⟨0, 0x80, 0xbf⟩
  else if byte < 0xc2 then none
  else if byte < 0xe0 then some ⟨1, 0x80, 0xbf⟩
  else if byte = 0xe0 then some ⟨2, 0xa0, 0xbf⟩
  else if byte = 0xed then some ⟨2, 0x80, 0x9f⟩
  else if byte < 0xf0 then some ⟨2, 0x80, 0xbf⟩
  else if byte = 0xf0 then some ⟨3, 0x90, 0xbf⟩
  else if byte < 0xf4 then some ⟨3, 0x80, 0xbf⟩
  else if byte = 0xf4 then some ⟨3, 0x80, 0x8f⟩
  else none

/-- The longest run of at most `form.following` bytes that may follow. -/
def Utf8Form.run (form : Utf8Form) : List UInt8 → List UInt8
  | [] => []
  | byte :: rest =>
    if 0 < form.following ∧ form.least ≤ byte ∧ byte ≤ form.greatest then
      byte :: (rest.take (form.following - 1)).takeWhile fun b => 0x80 ≤ b && b ≤ 0xbf
    else []

/-- The character with the given first byte and the bytes that follow it. -/
def characterOf (first : UInt8) (following : List UInt8) : Char :=
  let bits := match following.length with
    | 0 => first.toNat
    | 1 => first.toNat % 0x20
    | 2 => first.toNat % 0x10
    | _ => first.toNat % 0x08
  Char.ofNat (following.foldl (fun n byte => n * 0x40 + byte.toNat % 0x40) bits)

/-- The characters of `bytes`, which stand at `position`. -/
def decodeFrom (position : Nat) (bytes : List UInt8) : Except Utf8Fault (List Char) :=
  match bytes with
  | [] => .ok []
  | first :: rest =>
    match Utf8Form.ofByte? first with
    | none => .error ⟨position, [first], .invalidStart⟩
    | some form =>
      let following := form.run rest
      if following.length = form.following then
        (decodeFrom (position + 1 + following.length) (rest.drop following.length)).map
          (characterOf first following :: ·)
      else
        .error ⟨position, first :: following,
          if following.length = rest.length then .unexpectedEnd else .invalidContinuation⟩
  termination_by bytes.length

/-- The text that bytes stand for. -/
def decode (bytes : List UInt8) : Except Utf8Fault String :=
  (decodeFrom 0 bytes).map String.ofList

/-- The bytes of a text. -/
def encode (text : String) : List UInt8 := text.toUTF8.toList

end FsmCompiler.Text
