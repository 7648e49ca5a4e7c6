/-!
# UTF-8

Texts are stored as bytes. Decoding reports the first fault with the bytes it concerns: a byte
that starts no character, a byte that does not continue the character begun, or an end of the
data inside a character.
-/

namespace RpcSession.Text

inductive Utf8Fault where
  | startByte
  | continuationByte
  | endOfData
  deriving DecidableEq, Repr

/-- The bytes of a fault are those of the character begun, up to the fault. -/
structure Utf8Error where
  fault : Utf8Fault
  position : Nat
  length : Nat
  lead : Nat
  deriving DecidableEq, Repr

namespace Utf8

/-- What a first byte announces: how many bytes follow, the bits it brings, and the range of the
second byte, which excludes overlong forms, surrogates and codes beyond the last plane. -/
structure Lead where
  following : Nat
  payload : Nat
  lowest : Nat := 0x80
  highest : Nat := 0xbf

def lead? (byte : Nat) : Option Lead :=
  if byte < 0x80 then some ⟨0, byte, 0x80, 0xbf⟩
  else if byte < 0xc2 then none
  else if byte < 0xe0 then some ⟨1, byte - 0xc0, 0x80, 0xbf⟩
  else if byte == 0xe0 then some ⟨2, 0, 0xa0, 0xbf⟩
  else if byte == 0xed then some ⟨2, 0xd, 0x80, 0x9f⟩
  else if byte < 0xf0 then some ⟨2, byte - 0xe0, 0x80, 0xbf⟩
  else if byte == 0xf0 then some ⟨3, 0, 0x90, 0xbf⟩
  else if byte < 0xf4 then some ⟨3, byte - 0xf0, 0x80, 0xbf⟩
  else if byte == 0xf4 then some ⟨3, 4, 0x80, 0x8f⟩
  else none

structure Partial where
  lead : Nat
  taken : Nat
  missing : Nat
  payload : Nat
  lowest : Nat
  highest : Nat

namespace Partial

def fault (character : Partial) (position : Nat) (fault : Utf8Fault) : Utf8Error :=
  { fault, position := position - character.taken, length := character.taken,
    lead := character.lead }

def extend (character : Partial) (byte : Nat) : Partial :=
  { character with
    taken := character.taken + 1, missing := character.missing - 1,
    payload := character.payload * 64 + (byte - 0x80), lowest := 0x80, highest := 0xbf }

end Partial

def decodeFrom (position : Nat) : Option Partial → List UInt8 → Except Utf8Error (List Char)
  | none, [] => .ok []
  | some character, [] => .error (character.fault position .endOfData)
  | none, byte :: bytes =>
      match lead? byte.toNat with
      | none => .error ⟨.startByte, position, 1, byte.toNat⟩
      | some lead =>
          if lead.following = 0 then
            (Char.ofNat lead.payload :: ·) <$> decodeFrom (position + 1) none bytes
          else
            decodeFrom (position + 1)
              (some ⟨byte.toNat, 1, lead.following, lead.payload, lead.lowest, lead.highest⟩) bytes
  | some character, byte :: bytes =>
      if character.lowest ≤ byte.toNat ∧ byte.toNat ≤ character.highest then
        let extended := character.extend byte.toNat
        if extended.missing = 0 then
          (Char.ofNat extended.payload :: ·) <$> decodeFrom (position + 1) none bytes
        else
          decodeFrom (position + 1) (some extended) bytes
      else .error (character.fault position .continuationByte)

def decode (bytes : List UInt8) : Except Utf8Error (List Char) :=
  decodeFrom 0 none bytes

example : decode [0x61, 0xc3, 0xa9] = .ok ['a', 'é'] := by rfl

example : decode [0x61, 0xe2, 0x82] = .error ⟨.endOfData, 1, 2, 0xe2⟩ := by rfl

end Utf8

namespace Utf8Fault

def reason : Utf8Fault → String
  | startByte => "invalid start byte"
  | continuationByte => "invalid continuation byte"
  | endOfData => "unexpected end of data"

end Utf8Fault

namespace Utf8Error

private def hexByte (byte : Nat) : String :=
  String.ofList [Nat.digitChar (byte / 16), Nat.digitChar (byte % 16)]

/-- One byte is named by its value, several by their positions. -/
def message (error : Utf8Error) : String :=
  let place :=
    if error.length = 1 then
      "byte 0x" ++ hexByte error.lead ++ " in position " ++ toString error.position
    else
      "bytes in position " ++ toString error.position ++ "-" ++
        toString (error.position + error.length - 1)
  "'utf-8' codec can't decode " ++ place ++ ": " ++ error.fault.reason

end Utf8Error

end RpcSession.Text
