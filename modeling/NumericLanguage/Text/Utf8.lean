import NumericLanguage.Text.Quoted

/-!
# Decoding UTF-8

A byte sequence is decoded strictly. A lead byte announces how many tail bytes follow and
narrows the range of the first of them, so that overlong forms, surrogates and numbers past
U+10FFFF are refused at the first byte that rules them out. A fault names the place and length
of the bytes that begin no character, and the reason.
-/

set_option autoImplicit false

namespace NumericLanguage.Text

/-! ## Faults -/

/-- Why a byte sequence cannot be decoded. -/
inductive DecodeCause
  /-- No character begins with this byte. -/
  | startByte
  /-- The byte after these does not continue the character they begin. -/
  | continuationByte
  /-- The input ends inside a character. -/
  | unexpectedEnd
  deriving DecidableEq, Repr

/-- The bytes that cannot be decoded: where they start, how many, what the first one is. -/
structure DecodeFault where
  start : Nat
  length : Nat
  lead : Nat
  cause : DecodeCause
  deriving DecidableEq, Repr

/-- The reason in words. -/
def DecodeCause.message : DecodeCause → String
  | .startByte => "invalid start byte"
  | .continuationByte => "invalid continuation byte"
  | .unexpectedEnd => "unexpected end of data"

/-- A single byte is shown with its value, several by the places of the first and the last. -/
def DecodeFault.message (fault : DecodeFault) : String :=
  let bytes :=
    if fault.length = 1 then
      "byte 0x" ++ String.ofList (hexDigits false 2 fault.lead) ++
        " in position " ++ toString fault.start
    else
      "bytes in position " ++ toString fault.start ++ "-" ++
        toString (fault.start + fault.length - 1)
  "'utf-8' codec can't decode " ++ bytes ++ ": " ++ fault.cause.message

/-! ## Decoding -/

/-- A character whose lead byte has been read: where it starts, its bytes so far, the tail bytes
still owed, the range of the next one, and the bits collected. -/
structure PartialCharacter where
  start : Nat
  length : Nat
  lead : Nat
  owed : Nat
  low : Nat
  high : Nat
  bits : Nat
  deriving DecidableEq, Repr

/-- What a lead byte announces: the number of tail bytes, the range of the first of them, and
the bits that the lead byte itself carries. -/
def leadByte (byte : Nat) : Option (Nat × Nat × Nat × Nat) :=
  if byte < 0x80 then some (0, 0x80, 0xBF, byte)
  else if byte < 0xC2 then none
  else if byte < 0xE0 then some (1, 0x80, 0xBF, byte % 0x20)
  else if byte = 0xE0 then some (2, 0xA0, 0xBF, 0)
  else if byte = 0xED then some (2, 0x80, 0x9F, 0xD)
  else if byte < 0xF0 then some (2, 0x80, 0xBF, byte % 0x10)
  else if byte = 0xF0 then some (3, 0x90, 0xBF, 0)
  else if byte < 0xF4 then some (3, 0x80, 0xBF, byte % 8)
  else if byte = 0xF4 then some (3, 0x80, 0x8F, 4)
  else none

/-- Decodes the bytes from a position on, inside a character or between two. -/
def decodeFrom (position : Nat) : Option PartialCharacter → List UInt8 →
    Except DecodeFault (List Char)
  | none, [] => .ok []
  | some character, [] =>
      .error ⟨character.start, character.length, character.lead, .unexpectedEnd⟩
  | none, byte :: rest =>
      match leadByte byte.toNat with
      | none => .error ⟨position, 1, byte.toNat, .startByte⟩
      | some (0, _, _, bits) =>
          (Char.ofNat bits :: ·) <$> decodeFrom (position + 1) none rest
      | some (owed, low, high, bits) =>
          decodeFrom (position + 1) (some ⟨position, 1, byte.toNat, owed, low, high, bits⟩) rest
  | some character, byte :: rest =>
      if character.low ≤ byte.toNat ∧ byte.toNat ≤ character.high then
        let bits := character.bits * 0x40 + byte.toNat % 0x40
        if character.owed = 1 then
          (Char.ofNat bits :: ·) <$> decodeFrom (position + 1) none rest
        else
          decodeFrom (position + 1)
            (some { character with
              length := character.length + 1
              owed := character.owed - 1
              low := 0x80
              high := 0xBF
              bits := bits }) rest
      else
        .error ⟨character.start, character.length, character.lead, .continuationByte⟩

/-- The characters that a byte sequence encodes. -/
def decodeUtf8 (bytes : List UInt8) : Except DecodeFault (List Char) :=
  decodeFrom 0 none bytes

end NumericLanguage.Text
