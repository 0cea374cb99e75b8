namespace LoopProgress.Utf8

/-- The encoding of a text strings the encodings of its characters together. -/
def encode (text : String) : List UInt8 :=
  text.toList.flatMap String.utf8EncodeChar

@[simp] theorem encode_empty : encode "" = [] := rfl

@[simp] theorem encode_append (first second : String) :
    encode (first ++ second) = encode first ++ encode second := by
  simp [encode]

/-- A byte below 128 is the whole encoding of its character. -/
theorem toNat_of_mem_encode_char {character : Char} {byte : UInt8}
    (present : byte ∈ String.utf8EncodeChar character) (low : byte.toNat < 0x80) :
    character.val.toNat = byte.toNat := by
  unfold String.utf8EncodeChar at present
  simp only at present
  split at present
  · next small =>
      have same := List.mem_singleton.mp present
      subst same
      rw [UInt8.toNat_ofNat']
      omega
  · -- Every byte of a longer encoding has its highest bit set.
    have high : ∀ rest base, base = 0x80 ∧ rest < 0x40 ∨ base = 0xc0 ∧ rest < 0x20 ∨
        base = 0xe0 ∧ rest < 0x10 ∨ base = 0xf0 ∧ rest < 0x08 → byte ≠ UInt8.ofNat (rest + base) := by
      rintro rest base bounds rfl
      rw [UInt8.toNat_ofNat'] at low
      omega
    split at present
    · simp only [List.mem_cons, List.not_mem_nil, or_false] at present
      rcases present with same | same <;> exact absurd same (high _ _ (by omega))
    · split at present
      · simp only [List.mem_cons, List.not_mem_nil, or_false] at present
        rcases present with same | same | same <;> exact absurd same (high _ _ (by omega))
      · simp only [List.mem_cons, List.not_mem_nil, or_false] at present
        rcases present with same | same | same | same <;>
          exact absurd same (high _ _ (by omega))

/-- Only a newline encodes to the newline byte. -/
theorem newline_not_mem_encode {text : String} (absent : '\n' ∉ text.toList) :
    10 ∉ encode text := by
  intro present
  obtain ⟨character, listed, encoded⟩ := List.mem_flatMap.mp present
  have number : character.val.toNat = 10 := toNat_of_mem_encode_char encoded (by decide)
  have newline : character = '\n' := Char.ext (UInt32.toNat_inj.mp number)
  exact absent (newline ▸ listed)

/-- A lead byte fixes the number of bytes that follow, the range of the first of them, and the
bits that it adds to the character. -/
structure Lead where
  following : Nat
  lowest : UInt8
  highest : UInt8
  bits : Nat
deriving DecidableEq

/-- The narrow ranges rule out overlong forms, surrogates and numbers past the last character. -/
def Lead.ofByte? (byte : UInt8) : Option Lead :=
  if byte < 0x80 then some ⟨0, 0x80, 0xBF, byte.toNat⟩
  else if byte < 0xC2 then none
  else if byte < 0xE0 then some ⟨1, 0x80, 0xBF, byte.toNat % 0x20⟩
  else if byte = 0xE0 then some ⟨2, 0xA0, 0xBF, byte.toNat % 0x10⟩
  else if byte = 0xED then some ⟨2, 0x80, 0x9F, byte.toNat % 0x10⟩
  else if byte < 0xF0 then some ⟨2, 0x80, 0xBF, byte.toNat % 0x10⟩
  else if byte = 0xF0 then some ⟨3, 0x90, 0xBF, byte.toNat % 0x08⟩
  else if byte < 0xF4 then some ⟨3, 0x80, 0xBF, byte.toNat % 0x08⟩
  else if byte = 0xF4 then some ⟨3, 0x80, 0x8F, byte.toNat % 0x08⟩
  else none

/-- The bytes that follow a lead are read as far as they fit. A character comes out if all fit. -/
def follow : Nat → UInt8 → UInt8 → Nat → List UInt8 → Option Char × List UInt8
  | 0, _, _, bits, bytes => (some (Char.ofNat bits), bytes)
  | _ + 1, _, _, _, [] => (none, [])
  | following + 1, lowest, highest, bits, byte :: rest =>
      if lowest ≤ byte ∧ byte ≤ highest then
        follow following 0x80 0xBF (bits * 0x40 + byte.toNat % 0x40) rest
      else
        (none, byte :: rest)

theorem follow_length_le (following : Nat) (lowest highest : UInt8) (bits : Nat)
    (bytes : List UInt8) :
    (follow following lowest highest bits bytes).2.length ≤ bytes.length := by
  induction bytes generalizing following lowest highest bits with
  | nil => cases following <;> simp [follow]
  | cons byte rest inductionHypothesis =>
      cases following with
      | zero => simp [follow]
      | succ following =>
          rw [follow]
          split
          · exact Nat.le_succ_of_le (inductionHypothesis _ _ _ _)
          · exact Nat.le_refl _

/-- This function reads one character, or passes over the bytes that cannot start one. -/
def next (byte : UInt8) (rest : List UInt8) : Option Char × List UInt8 :=
  match Lead.ofByte? byte with
  | none => (none, rest)
  | some lead => follow lead.following lead.lowest lead.highest lead.bits rest

theorem next_length_le (byte : UInt8) (rest : List UInt8) :
    (next byte rest).2.length ≤ rest.length := by
  rw [next]
  split
  · exact Nat.le_refl _
  · exact follow_length_le _ _ _ _ _

/-- This character stands where no character can be read. -/
def replacement : Char := '\uFFFD'

/-- Every maximal run of bytes that starts no character is shown as one replacement. -/
def decodeLossy : List UInt8 → List Char
  | [] => []
  | byte :: rest => (next byte rest).1.getD replacement :: decodeLossy (next byte rest).2
termination_by bytes => bytes.length
decreasing_by exact Nat.lt_succ_of_le (next_length_le byte rest)

/-- The strict decoding fails where no character can be read. -/
def decode? : List UInt8 → Option (List Char)
  | [] => some []
  | byte :: rest => do
      let character ← (next byte rest).1
      let characters ← decode? (next byte rest).2
      return character :: characters
termination_by bytes => bytes.length
decreasing_by exact Nat.lt_succ_of_le (next_length_le byte rest)

end LoopProgress.Utf8
