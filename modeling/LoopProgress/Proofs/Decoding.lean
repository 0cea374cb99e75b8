import LoopProgress.Text.Utf8

namespace LoopProgress.Utf8

namespace Lead

theorem ofByte?_alone {number : Nat} (below : number < 0x80) :
    ofByte? (UInt8.ofNat number) = some ⟨0, 0x80, 0xBF, number⟩ := by
  have byte : (UInt8.ofNat number).toNat = number := by
    rw [UInt8.toNat_ofNat']
    omega
  have low : UInt8.ofNat number < 0x80 := by
    rw [UInt8.lt_iff_toNat_lt, byte]
    exact below
  rw [ofByte?, if_pos low, byte]

theorem ofByte?_two {bits : Nat} (above : 2 ≤ bits) (below : bits < 0x20) :
    ofByte? (UInt8.ofNat (bits + 0xC0)) = some ⟨1, 0x80, 0xBF, bits⟩ := by
  have each : ∀ bits : Fin 0x20, 2 ≤ bits.val →
      ofByte? (UInt8.ofNat (bits.val + 0xC0)) = some ⟨1, 0x80, 0xBF, bits.val⟩ := by
    decide
  exact each ⟨bits, below⟩ above

theorem ofByte?_three {bits : Nat} (below : bits < 0x10) :
    ofByte? (UInt8.ofNat (bits + 0xE0)) =
      some ⟨2, if bits = 0 then 0xA0 else 0x80, if bits = 13 then 0x9F else 0xBF, bits⟩ := by
  have each : ∀ bits : Fin 0x10, ofByte? (UInt8.ofNat (bits.val + 0xE0)) =
      some ⟨2, if bits.val = 0 then 0xA0 else 0x80, if bits.val = 13 then 0x9F else 0xBF,
        bits.val⟩ := by
    decide
  exact each ⟨bits, below⟩

theorem ofByte?_four {bits : Nat} (below : bits < 5) :
    ofByte? (UInt8.ofNat (bits + 0xF0)) =
      some ⟨3, if bits = 0 then 0x90 else 0x80, if bits = 4 then 0x8F else 0xBF, bits⟩ := by
  have each : ∀ bits : Fin 5, ofByte? (UInt8.ofNat (bits.val + 0xF0)) =
      some ⟨3, if bits.val = 0 then 0x90 else 0x80, if bits.val = 4 then 0x8F else 0xBF,
        bits.val⟩ := by
    decide
  exact each ⟨bits, below⟩

end Lead

/-- A byte that fits behind a lead adds its six low bits to the character. -/
theorem follow_succ {following bits low : Nat} {lowest highest : UInt8} (rest : List UInt8)
    (small : low < 0x40) (above : lowest.toNat ≤ low + 0x80) (below : low + 0x80 ≤ highest.toNat) :
    follow (following + 1) lowest highest bits (UInt8.ofNat (low + 0x80) :: rest) =
      follow following 0x80 0xBF (bits * 0x40 + low) rest := by
  have byte : (UInt8.ofNat (low + 0x80)).toNat = low + 0x80 := by
    rw [UInt8.toNat_ofNat']
    omega
  have fits : lowest ≤ UInt8.ofNat (low + 0x80) ∧ UInt8.ofNat (low + 0x80) ≤ highest := by
    rw [UInt8.le_iff_toNat_le, UInt8.le_iff_toNat_le, byte]
    exact ⟨above, below⟩
  have six : (low + 0x80) % 0x40 = low := by omega
  rw [follow, if_pos fits, byte, six]

theorem follow_plain {following bits low : Nat} (rest : List UInt8) (small : low < 0x40) :
    follow (following + 1) 0x80 0xBF bits (UInt8.ofNat (low + 0x80) :: rest) =
      follow following 0x80 0xBF (bits * 0x40 + low) rest := by
  apply follow_succ rest small
  · exact Nat.le_add_left _ _
  · change low + 0x80 ≤ 0xBF
    omega

variable {number : Nat} (rest : List UInt8)

theorem next_alone (small : number < 0x80) :
    next (UInt8.ofNat number) rest = (some (Char.ofNat number), rest) := by
  rw [next, Lead.ofByte?_alone small]
  rfl

theorem next_two (large : 0x80 ≤ number) (small : number < 0x800) :
    next (UInt8.ofNat (number / 64 % 32 + 0xC0)) (UInt8.ofNat (number % 64 + 0x80) :: rest) =
      (some (Char.ofNat number), rest) := by
  have bits : number / 64 % 32 * 0x40 + number % 64 = number := by omega
  rw [next, Lead.ofByte?_two (by omega) (by omega)]
  simp only
  rw [follow_plain _ (by omega), bits, follow]

/-- The second byte of three leaves out shorter forms at the one end and surrogates at the other. -/
theorem next_three (large : 0x800 ≤ number) (small : number < 0x10000)
    (valid : number < 0xD800 ∨ 0xDFFF < number) :
    next (UInt8.ofNat (number / 4096 % 16 + 0xE0))
        (UInt8.ofNat (number / 64 % 64 + 0x80) :: UInt8.ofNat (number % 64 + 0x80) :: rest) =
      (some (Char.ofNat number), rest) := by
  have bits : (number / 4096 % 16 * 0x40 + number / 64 % 64) * 0x40 + number % 64 = number := by
    omega
  have above : UInt8.toNat (if number / 4096 % 16 = 0 then 0xA0 else 0x80) ≤
      number / 64 % 64 + 0x80 := by
    split
    · change 0xA0 ≤ _
      omega
    · exact Nat.le_add_left _ _
  have below : number / 64 % 64 + 0x80 ≤
      UInt8.toNat (if number / 4096 % 16 = 13 then 0x9F else 0xBF) := by
    split
    · change _ ≤ 0x9F
      omega
    · change _ ≤ 0xBF
      omega
  rw [next, Lead.ofByte?_three (by omega)]
  simp only
  rw [follow_succ _ (by omega) above below, follow_plain _ (by omega), bits, follow]

/-- The second byte of four leaves out shorter forms at the one end and what lies behind the last
plane at the other. -/
theorem next_four (large : 0x10000 ≤ number) (small : number < 0x110000) :
    next (UInt8.ofNat (number / 262144 % 8 + 0xF0))
        (UInt8.ofNat (number / 4096 % 64 + 0x80) :: UInt8.ofNat (number / 64 % 64 + 0x80) ::
          UInt8.ofNat (number % 64 + 0x80) :: rest) =
      (some (Char.ofNat number), rest) := by
  have bits : ((number / 262144 % 8 * 0x40 + number / 4096 % 64) * 0x40 + number / 64 % 64) * 0x40 +
      number % 64 = number := by
    omega
  have above : UInt8.toNat (if number / 262144 % 8 = 0 then 0x90 else 0x80) ≤
      number / 4096 % 64 + 0x80 := by
    split
    · change 0x90 ≤ _
      omega
    · exact Nat.le_add_left _ _
  have below : number / 4096 % 64 + 0x80 ≤
      UInt8.toNat (if number / 262144 % 8 = 4 then 0x8F else 0xBF) := by
    split
    · change _ ≤ 0x8F
      omega
    · change _ ≤ 0xBF
      omega
  rw [next, Lead.ofByte?_four (by omega)]
  simp only
  rw [follow_succ _ (by omega) above below, follow_plain _ (by omega), follow_plain _ (by omega),
    bits, follow]

/-- The encoding of a character is read as this character, and nothing behind it is touched. -/
theorem next_encode_char (character : Char) (rest : List UInt8) :
    ∃ lead following, String.utf8EncodeChar character = lead :: following ∧
      next lead (following ++ rest) = (some character, rest) := by
  have valid : character.val.toNat < 0xD800 ∨
      0xDFFF < character.val.toNat ∧ character.val.toNat < 0x110000 := character.valid
  have whole : Char.ofNat character.val.toNat = character := Char.ofNat_toNat character
  unfold String.utf8EncodeChar
  generalize character.val.toNat = number at valid whole ⊢
  subst whole
  simp only
  -- One case for each length.
  split
  · exact ⟨_, _, rfl, next_alone rest (by omega)⟩
  · split
    · exact ⟨_, _, rfl, next_two rest (by omega) (by omega)⟩
    · split
      · exact ⟨_, _, rfl, next_three rest (by omega) (by omega) (by omega)⟩
      · exact ⟨_, _, rfl, next_four rest (by omega) (by omega)⟩

theorem decode?_encode_char (character : Char) (rest : List UInt8) :
    decode? (String.utf8EncodeChar character ++ rest) = (decode? rest).map (character :: ·) := by
  obtain ⟨lead, following, encoded, read⟩ := next_encode_char character rest
  rw [encoded, List.cons_append, decode?, read]
  cases decode? rest <;> rfl

theorem decode?_characters (characters : List Char) :
    decode? (characters.flatMap String.utf8EncodeChar) = some characters := by
  induction characters with
  | nil => rw [List.flatMap_nil, decode?]
  | cons character rest inductionHypothesis =>
      rw [List.flatMap_cons, decode?_encode_char, inductionHypothesis, Option.map_some]

/-- An encoded text is read back as it was. -/
theorem decode?_encode (text : String) : decode? (encode text) = some text.toList :=
  decode?_characters text.toList

theorem encode_injective {first second : String} (same : encode first = encode second) :
    first = second := by
  have read := congrArg decode? same
  rw [decode?_encode, decode?_encode, Option.some.injEq] at read
  exact String.toList_inj.mp read

end LoopProgress.Utf8
