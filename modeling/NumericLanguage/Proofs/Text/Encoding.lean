import NumericLanguage.Text.Utf8

/-!
# Decoding inverts encoding

A byte sequence is decoded if and only if it is the encoding of some characters, and then to these
characters (`decodeUtf8_eq_ok_iff`). So a sequence that is refused encodes no characters at all, and
no two sequences are decoded alike.

The decoder works byte by byte, the encoder character by character. Between them stands the reading
of a single character: a lead byte, and as many tail bytes as it announces (`Encodes`). The decoder
follows such a reading whatever the lead byte announces (`decodeFrom_of_encodes`,
`exists_encodes_of_decodeFrom`); only the comparison with the encoder looks at the numbers.
-/

set_option autoImplicit false

namespace NumericLanguage.Text

/-! ## Reading a character -/

/-- Tail bytes that complete a character number: how many are owed, the range of the first of them,
the bits collected before, the number, and the bytes. -/
inductive Tail : Nat → Nat → Nat → Nat → Nat → List UInt8 → Prop
  | done {low high number : Nat} : Tail 0 low high number number []
  | more {owed low high bits number : Nat} {byte : UInt8} {rest : List UInt8} :
      low ≤ byte.toNat → byte.toNat ≤ high →
      Tail owed 0x80 0xBF (bits * 0x40 + byte.toNat % 0x40) number rest →
      Tail (owed + 1) low high bits number (byte :: rest)

namespace Tail

variable {owed low high bits number : Nat} {bytes : List UInt8}

theorem eq_nil (reads : Tail 0 low high bits number bytes) : bytes = [] ∧ number = bits := by
  cases reads with
  | done => exact ⟨rfl, rfl⟩

theorem exists_cons (reads : Tail (owed + 1) low high bits number bytes) :
    ∃ byte rest, bytes = byte :: rest ∧ low ≤ byte.toNat ∧ byte.toNat ≤ high ∧
      Tail owed 0x80 0xBF (bits * 0x40 + byte.toNat % 0x40) number rest := by
  cases reads with
  | more atLeast atMost reads => exact ⟨_, _, rfl, atLeast, atMost, reads⟩

end Tail

/-- The bytes of one character number: a lead byte and the tail bytes that it announces. -/
inductive Encodes (number : Nat) : List UInt8 → Prop
  | intro {lead : UInt8} {rest : List UInt8} {owed low high bits : Nat} :
      leadByte lead.toNat = some (owed, low, high, bits) → Tail owed low high bits number rest →
      Encodes number (lead :: rest)

/-- Bytes that complete a character are read as its end. -/
theorem decodeFrom_of_tail {owed low high bits number start length lead : Nat}
    {tail : List UInt8} (reads : Tail (owed + 1) low high bits number tail) (position : Nat)
    (rest : List UInt8) :
    decodeFrom position (some ⟨start, length, lead, owed + 1, low, high, bits⟩) (tail ++ rest) =
      (Char.ofNat number :: ·) <$> decodeFrom (position + tail.length) none rest := by
  induction owed generalizing low high bits length position tail with
  | zero =>
      cases reads with
      | more atLeast atMost reads =>
          cases reads with
          | done => simp [decodeFrom, atLeast, atMost]
  | succ owed ih =>
      cases reads with
      | more atLeast atMost reads =>
          rw [List.cons_append, decodeFrom, if_pos ⟨atLeast, atMost⟩, if_neg (by simp)]
          rw [List.length_cons, ← Nat.add_assoc, Nat.add_right_comm position]
          exact ih reads (position + 1)

/-- The bytes of a character are read as this character. -/
theorem decodeFrom_of_encodes {number : Nat} {bytes : List UInt8} (encodes : Encodes number bytes)
    (position : Nat) (rest : List UInt8) :
    decodeFrom position none (bytes ++ rest) =
      (Char.ofNat number :: ·) <$> decodeFrom (position + bytes.length) none rest := by
  cases encodes with
  | @intro lead tail owed low high bits announces reads =>
      rw [List.cons_append, decodeFrom, announces]
      cases owed with
      | zero =>
          cases reads with
          | done => rfl
      | succ owed =>
          rw [List.length_cons, ← Nat.add_assoc, Nat.add_right_comm position]
          exact decodeFrom_of_tail reads (position + 1) rest

/-- What is added in front of a decoded text was added to a decoded text. -/
theorem exists_of_map_ok {c : Char} {outcome : Except DecodeFault (List Char)}
    {characters : List Char} (decodes : (c :: ·) <$> outcome = .ok characters) :
    ∃ others, outcome = .ok others ∧ characters = c :: others := by
  cases outcome with
  | error fault => cases decodes
  | ok others =>
      cases decodes
      exact ⟨others, rfl, rfl⟩

/-- What is read inside a character begins with bytes that complete it. -/
theorem exists_tail_of_decodeFrom {owed low high bits start length lead position : Nat}
    {bytes : List UInt8} {characters : List Char}
    (decodes : decodeFrom position (some ⟨start, length, lead, owed + 1, low, high, bits⟩) bytes =
      .ok characters) :
    ∃ number tail rest others, bytes = tail ++ rest ∧ Tail (owed + 1) low high bits number tail ∧
      characters = Char.ofNat number :: others ∧
      decodeFrom (position + tail.length) none rest = .ok others := by
  induction owed generalizing low high bits length position bytes with
  | zero =>
      cases bytes with
      | nil => cases decodes
      | cons byte rest =>
          rw [decodeFrom] at decodes
          split at decodes
          case isFalse => cases decodes
          case isTrue inRange =>
            rw [if_pos rfl] at decodes
            obtain ⟨others, continues, rfl⟩ := exists_of_map_ok decodes
            exact ⟨_, [byte], rest, others, rfl, .more inRange.1 inRange.2 .done, rfl, continues⟩
  | succ owed ih =>
      cases bytes with
      | nil => cases decodes
      | cons byte rest =>
          rw [decodeFrom] at decodes
          split at decodes
          case isFalse => cases decodes
          case isTrue inRange =>
            rw [if_neg (by simp)] at decodes
            obtain ⟨number, tail, rest, others, rfl, reads, rfl, continues⟩ := ih decodes
            refine ⟨number, byte :: tail, rest, others, rfl, .more inRange.1 inRange.2 reads,
              rfl, ?_⟩
            rw [List.length_cons, ← Nat.add_assoc, Nat.add_right_comm position]
            exact continues

/-- What is read between two characters is empty or begins with the bytes of a character. -/
theorem exists_encodes_of_decodeFrom {position : Nat} {byte : UInt8} {bytes : List UInt8}
    {characters : List Char} (decodes : decodeFrom position none (byte :: bytes) = .ok characters) :
    ∃ number first rest others, byte :: bytes = first ++ rest ∧ Encodes number first ∧
      characters = Char.ofNat number :: others ∧
      decodeFrom (position + first.length) none rest = .ok others := by
  rw [decodeFrom] at decodes
  cases announces : leadByte byte.toNat with
  | none => simp [announces] at decodes
  | some announced =>
      obtain ⟨owed, low, high, bits⟩ := announced
      rw [announces] at decodes
      cases owed with
      | zero =>
          obtain ⟨others, continues, rfl⟩ := exists_of_map_ok decodes
          exact ⟨bits, [byte], bytes, others, rfl, .intro announces .done, rfl, continues⟩
      | succ owed =>
          obtain ⟨number, tail, rest, others, rfl, reads, rfl, continues⟩ :=
            exists_tail_of_decodeFrom decodes
          refine ⟨number, byte :: tail, rest, others, rfl, .intro announces reads, rfl, ?_⟩
          rw [List.length_cons, ← Nat.add_assoc, Nat.add_right_comm position]
          exact continues

/-! ## Numbers and bytes -/

/-- A byte is what its number stands for. -/
theorem eq_ofNat {byte : UInt8} {number : Nat} (same : byte.toNat = number) :
    byte = UInt8.ofNat number := by
  rw [← same, UInt8.ofNat_toNat]

theorem toNat_byte {digit : Nat} (isByte : digit < 0x100) : (UInt8.ofNat digit).toNat = digit :=
  UInt8.toNat_ofNat_of_lt isByte

theorem toNat_ofNat {number : Nat} (isValid : number.isValidChar) :
    (Char.ofNat number).val.toNat = number := by
  rw [Char.ofNat, dif_pos isValid]
  rfl

section Lengths

variable {number : Nat} {lead first second third : UInt8}

theorem encoding_one (below : number < 0x80) (lead_eq : lead.toNat = number) :
    [lead] = String.utf8EncodeChar (Char.ofNat number) := by
  rw [String.utf8EncodeChar, toNat_ofNat (.inl (by omega)), eq_ofNat lead_eq]
  simp only [show number ≤ 127 by omega, if_true]

theorem encoding_two (above : 0x80 ≤ number) (below : number < 0x800)
    (lead_eq : lead.toNat = number / 64 + 0xC0) (first_eq : first.toNat = number % 64 + 0x80) :
    [lead, first] = String.utf8EncodeChar (Char.ofNat number) := by
  rw [String.utf8EncodeChar, toNat_ofNat (.inl (by omega)), eq_ofNat lead_eq, eq_ofNat first_eq]
  simp only [show ¬ number ≤ 127 by omega, show number ≤ 2047 by omega, if_true, if_false,
    show number / 64 % 32 = number / 64 by omega]

theorem encoding_three (isValid : number.isValidChar) (above : 0x800 ≤ number)
    (below : number < 0x10000) (lead_eq : lead.toNat = number / 4096 + 0xE0)
    (first_eq : first.toNat = number / 64 % 64 + 0x80)
    (second_eq : second.toNat = number % 64 + 0x80) :
    [lead, first, second] = String.utf8EncodeChar (Char.ofNat number) := by
  rw [String.utf8EncodeChar, toNat_ofNat isValid, eq_ofNat lead_eq, eq_ofNat first_eq,
    eq_ofNat second_eq]
  simp only [show ¬ number ≤ 127 by omega, show ¬ number ≤ 2047 by omega,
    show number ≤ 65535 by omega, if_true, if_false,
    show number / 4096 % 16 = number / 4096 by omega]

theorem encoding_four (above : 0x10000 ≤ number) (below : number < 0x110000)
    (lead_eq : lead.toNat = number / 262144 + 0xF0)
    (first_eq : first.toNat = number / 4096 % 64 + 0x80)
    (second_eq : second.toNat = number / 64 % 64 + 0x80)
    (third_eq : third.toNat = number % 64 + 0x80) :
    [lead, first, second, third] = String.utf8EncodeChar (Char.ofNat number) := by
  rw [String.utf8EncodeChar, toNat_ofNat (.inr (by omega)), eq_ofNat lead_eq, eq_ofNat first_eq,
    eq_ofNat second_eq, eq_ofNat third_eq]
  simp only [show ¬ number ≤ 127 by omega, show ¬ number ≤ 2047 by omega,
    show ¬ number ≤ 65535 by omega, if_false,
    show number / 262144 % 8 = number / 262144 by omega]

end Lengths

/-! ## Lead bytes -/

/-- Every kind of lead byte, with what it announces. -/
theorem leadByte_cases {byte owed low high bits : Nat}
    (announces : leadByte byte = some (owed, low, high, bits)) :
    (owed = 0 ∧ byte < 0x80 ∧ bits = byte) ∨
      (owed = 1 ∧ low = 0x80 ∧ high = 0xBF ∧ byte = bits + 0xC0 ∧ 2 ≤ bits ∧ bits < 0x20) ∨
      (owed = 2 ∧ byte = bits + 0xE0 ∧ bits < 0x10 ∧ 0x80 ≤ low ∧ high ≤ 0xBF ∧
        (bits = 0 → 0xA0 ≤ low) ∧ (bits = 0xD → high ≤ 0x9F)) ∨
      (owed = 3 ∧ byte = bits + 0xF0 ∧ bits ≤ 4 ∧ 0x80 ≤ low ∧ high ≤ 0xBF ∧
        (bits = 0 → 0x90 ≤ low) ∧ (bits = 4 → high ≤ 0x8F)) := by
  unfold leadByte at announces
  repeat' split at announces
  all_goals simp only [Option.some.injEq, Prod.mk.injEq, reduceCtorEq] at announces <;> omega

theorem leadByte_one {byte : Nat} (below : byte < 0x80) :
    leadByte byte = some (0, 0x80, 0xBF, byte) := by
  rw [leadByte, if_pos below]

theorem leadByte_two {bits : Nat} (above : 2 ≤ bits) (below : bits < 0x20) :
    leadByte (bits + 0xC0) = some (1, 0x80, 0xBF, bits) := by
  grind [leadByte]

theorem exists_leadByte_three (bits first : Nat) (below : bits < 0x10) (atLeast : 0x80 ≤ first)
    (atMost : first ≤ 0xBF) (overlong : bits = 0 → 0xA0 ≤ first)
    (surrogate : bits = 0xD → first ≤ 0x9F) :
    ∃ low high, leadByte (bits + 0xE0) = some (2, low, high, bits) ∧ low ≤ first ∧
      first ≤ high := by
  rcases Nat.eq_zero_or_pos bits with rfl | positive
  · exact ⟨0xA0, 0xBF, rfl, overlong rfl, atMost⟩
  · by_cases isSurrogate : bits = 0xD
    · subst isSurrogate
      exact ⟨0x80, 0x9F, rfl, atLeast, surrogate rfl⟩
    · refine ⟨0x80, 0xBF, ?_, atLeast, atMost⟩
      grind [leadByte]

theorem exists_leadByte_four (bits first : Nat) (below : bits ≤ 4) (atLeast : 0x80 ≤ first)
    (atMost : first ≤ 0xBF) (overlong : bits = 0 → 0x90 ≤ first)
    (tooLarge : bits = 4 → first ≤ 0x8F) :
    ∃ low high, leadByte (bits + 0xF0) = some (3, low, high, bits) ∧ low ≤ first ∧
      first ≤ high := by
  rcases Nat.eq_zero_or_pos bits with rfl | positive
  · exact ⟨0x90, 0xBF, rfl, overlong rfl, atMost⟩
  · by_cases isLast : bits = 4
    · subst isLast
      exact ⟨0x80, 0x8F, rfl, atLeast, tooLarge rfl⟩
    · refine ⟨0x80, 0xBF, ?_, atLeast, atMost⟩
      grind [leadByte]

/-! ## Characters -/

/-- The bytes that are read as a character are those that encode it. -/
theorem Encodes.eq_encoding {number : Nat} {bytes : List UInt8} (encodes : Encodes number bytes) :
    bytes = String.utf8EncodeChar (Char.ofNat number) := by
  obtain ⟨announces, reads⟩ := encodes
  rcases leadByte_cases announces with ⟨rfl, below, rfl⟩ | ⟨rfl, rfl, rfl, lead_eq, above, below⟩ |
    ⟨rfl, lead_eq, below, atLeast, atMost, overlong, surrogate⟩ |
    ⟨rfl, lead_eq, below, atLeast, atMost, overlong, tooLarge⟩
  · obtain ⟨rfl, rfl⟩ := reads.eq_nil
    exact encoding_one below rfl
  · obtain ⟨first, _, rfl, low₁, high₁, reads⟩ := reads.exists_cons
    obtain ⟨rfl, rfl⟩ := reads.eq_nil
    exact encoding_two (by omega) (by omega) (by omega) (by omega)
  · obtain ⟨first, _, rfl, low₁, high₁, reads⟩ := reads.exists_cons
    obtain ⟨second, _, rfl, low₂, high₂, reads⟩ := reads.exists_cons
    obtain ⟨rfl, rfl⟩ := reads.eq_nil
    exact encoding_three (by unfold Nat.isValidChar; omega) (by omega) (by omega) (by omega)
      (by omega) (by omega)
  · obtain ⟨first, _, rfl, low₁, high₁, reads⟩ := reads.exists_cons
    obtain ⟨second, _, rfl, low₂, high₂, reads⟩ := reads.exists_cons
    obtain ⟨third, _, rfl, low₃, high₃, reads⟩ := reads.exists_cons
    obtain ⟨rfl, rfl⟩ := reads.eq_nil
    exact encoding_four (by omega) (by omega) (by omega) (by omega) (by omega) (by omega)

/-- A byte with a number in range is a tail byte. -/
theorem Tail.ofNat {owed low high bits number digit : Nat} {rest : List UInt8}
    (isByte : digit < 0x100) (atLeast : low ≤ digit) (atMost : digit ≤ high)
    (reads : Tail owed 0x80 0xBF (bits * 0x40 + digit % 0x40) number rest) :
    Tail (owed + 1) low high bits number (UInt8.ofNat digit :: rest) := by
  have toNat_eq : (UInt8.ofNat digit).toNat = digit := toNat_byte isByte
  exact .more (by rwa [toNat_eq]) (by rwa [toNat_eq]) (by rwa [toNat_eq])

/-- A byte with the number of a lead byte is one. -/
theorem Encodes.ofNat {owed low high bits number digit : Nat} {rest : List UInt8}
    (isByte : digit < 0x100) (announces : leadByte digit = some (owed, low, high, bits))
    (reads : Tail owed low high bits number rest) :
    Encodes number (UInt8.ofNat digit :: rest) := by
  rw [← toNat_byte isByte] at announces
  exact .intro announces reads

section Lengths

variable {number : Nat}

theorem encodes_one (below : number < 0x80) :
    Encodes number (String.utf8EncodeChar (Char.ofNat number)) := by
  rw [← encoding_one below (toNat_byte (by omega))]
  exact .ofNat (by omega) (leadByte_one below) .done

theorem encodes_two (above : 0x80 ≤ number) (below : number < 0x800) :
    Encodes number (String.utf8EncodeChar (Char.ofNat number)) := by
  have number_eq : number / 64 * 0x40 + (number % 64 + 0x80) % 0x40 = number := by omega
  rw [← encoding_two above below (toNat_byte (by omega))
    (toNat_byte (by omega))]
  apply Encodes.ofNat (by omega) (leadByte_two (by omega) (by omega))
  apply Tail.ofNat (by omega) (by omega) (by omega)
  rw [number_eq]
  exact .done

theorem encodes_three (isValid : number.isValidChar) (above : 0x800 ≤ number)
    (below : number < 0x10000) :
    Encodes number (String.utf8EncodeChar (Char.ofNat number)) := by
  obtain ⟨low, high, announces, atLeast, atMost⟩ :=
    exists_leadByte_three (number / 4096) (number / 64 % 64 + 0x80)
      (by omega) (by omega) (by omega) (by omega) (by omega)
  have number_eq :
      (number / 4096 * 0x40 + (number / 64 % 64 + 0x80) % 0x40) * 0x40 +
        (number % 64 + 0x80) % 0x40 = number := by omega
  rw [← encoding_three isValid above below (toNat_byte (by omega))
    (toNat_byte (by omega)) (toNat_byte (by omega))]
  apply Encodes.ofNat (by omega) announces
  apply Tail.ofNat (by omega) atLeast atMost
  apply Tail.ofNat (by omega) (by omega) (by omega)
  rw [number_eq]
  exact .done

theorem encodes_four (above : 0x10000 ≤ number) (below : number < 0x110000) :
    Encodes number (String.utf8EncodeChar (Char.ofNat number)) := by
  obtain ⟨low, high, announces, atLeast, atMost⟩ :=
    exists_leadByte_four (number / 262144) (number / 4096 % 64 + 0x80)
      (by omega) (by omega) (by omega) (by omega) (by omega)
  have number_eq :
      ((number / 262144 * 0x40 + (number / 4096 % 64 + 0x80) % 0x40) * 0x40 +
        (number / 64 % 64 + 0x80) % 0x40) * 0x40 + (number % 64 + 0x80) % 0x40 = number := by
    omega
  rw [← encoding_four above below (toNat_byte (by omega))
    (toNat_byte (by omega)) (toNat_byte (by omega))
    (toNat_byte (by omega))]
  apply Encodes.ofNat (by omega) announces
  apply Tail.ofNat (by omega) atLeast atMost
  apply Tail.ofNat (by omega) (by omega) (by omega)
  apply Tail.ofNat (by omega) (by omega) (by omega)
  rw [number_eq]
  exact .done

end Lengths

/-- The encoding of a character is read as that character. -/
theorem encodes_encoding (c : Char) : Encodes c.toNat (String.utf8EncodeChar c) := by
  have isValid : c.toNat.isValidChar := c.valid
  rw [← Char.ofNat_toNat c, show (Char.ofNat c.toNat).toNat = c.toNat from toNat_ofNat isValid]
  by_cases below₁ : c.toNat < 0x80
  · exact encodes_one below₁
  by_cases below₂ : c.toNat < 0x800
  · exact encodes_two (Nat.le_of_not_lt below₁) below₂
  by_cases below₃ : c.toNat < 0x10000
  · exact encodes_three isValid (Nat.le_of_not_lt below₂) below₃
  · exact encodes_four (Nat.le_of_not_lt below₃) (by unfold Nat.isValidChar at isValid; omega)

/-! ## Decoding and encoding -/

/-- Encoded characters are decoded to themselves. -/
theorem decodeFrom_encoding (characters : List Char) (position : Nat) :
    decodeFrom position none (characters.flatMap String.utf8EncodeChar) = .ok characters := by
  induction characters generalizing position with
  | nil => rfl
  | cons c characters ih =>
      rw [List.flatMap_cons, decodeFrom_of_encodes (encodes_encoding c), ih, Char.ofNat_toNat]
      rfl

/-- What is decoded is an encoding of the characters. -/
theorem encoding_of_decodeFrom {position : Nat} {bytes : List UInt8} {characters : List Char}
    (decodes : decodeFrom position none bytes = .ok characters) :
    bytes = characters.flatMap String.utf8EncodeChar := by
  induction characters generalizing position bytes with
  | nil =>
      cases bytes with
      | nil => rfl
      | cons byte bytes =>
          obtain ⟨_, _, _, _, -, -, impossible, -⟩ := exists_encodes_of_decodeFrom decodes
          cases impossible
  | cons c characters ih =>
      cases bytes with
      | nil => cases decodes
      | cons byte bytes =>
          obtain ⟨number, first, rest, others, split, encodes, same, continues⟩ :=
            exists_encodes_of_decodeFrom decodes
          obtain ⟨rfl, rfl⟩ := List.cons_eq_cons.mp same
          rw [split, List.flatMap_cons, encodes.eq_encoding, ih continues]

/-- A byte sequence is decoded to some characters if and only if it is their encoding. -/
theorem decodeUtf8_eq_ok_iff {bytes : List UInt8} {characters : List Char} :
    decodeUtf8 bytes = .ok characters ↔ bytes = characters.flatMap String.utf8EncodeChar := by
  constructor
  · exact encoding_of_decodeFrom
  · rintro rfl
    exact decodeFrom_encoding characters 0

end NumericLanguage.Text
