import RequestBridge.Proofs.Text.Utf8

/-! A text has one spelling.

Bytes that are read as a character are those in which the character is written: the ranges of the
first two bytes leave no room for a second spelling (`pieces_eq_char_cons`). So bytes that are
read as a text are the bytes of that text (`encode_of_decode?`). -/
namespace RequestBridge.Utf8

/-! ### The bytes of one character -/

theorem toNat_charOfNat {n : Nat} (h : n.isValidChar) : (Char.ofNat n).toNat = n := by
  rw [Char.ofNat, dif_pos h]
  rfl

theorem ofNat_eq_byte {n : Nat} (b : UInt8) (h : n = b.toNat) : UInt8.ofNat n = b := by
  rw [h, UInt8.ofNat_toNat]

/-- What a first byte asks for, byte by byte. -/
theorem lead?_cases {b : UInt8} {l : Lead} (h : lead? b = some l) :
    (194 ≤ b.toNat ∧ b.toNat ≤ 223 ∧ l = ⟨1, 0x80, 0xBF⟩) ∨
    (b.toNat = 224 ∧ l = ⟨2, 0xA0, 0xBF⟩) ∨
    (b.toNat = 237 ∧ l = ⟨2, 0x80, 0x9F⟩) ∨
    (225 ≤ b.toNat ∧ b.toNat ≤ 239 ∧ b.toNat ≠ 237 ∧ l = ⟨2, 0x80, 0xBF⟩) ∨
    (b.toNat = 240 ∧ l = ⟨3, 0x90, 0xBF⟩) ∨
    (241 ≤ b.toNat ∧ b.toNat ≤ 243 ∧ l = ⟨3, 0x80, 0xBF⟩) ∨
    (b.toNat = 244 ∧ l = ⟨3, 0x80, 0x8F⟩) := by
  simp only [lead?, UInt8.le_iff_toNat_le, beq_iff_eq, ← UInt8.toNat_inj, UInt8.reduceToNat,
    Bool.and_eq_true, decide_eq_true_eq] at h
  split at h
  · next hb => exact .inl ⟨hb.1, hb.2, (Option.some.inj h).symm⟩
  split at h
  · next hb => exact .inr (.inl ⟨hb, (Option.some.inj h).symm⟩)
  split at h
  · next hb => exact .inr (.inr (.inl ⟨hb, (Option.some.inj h).symm⟩))
  split at h
  · next hne hb =>
    exact .inr (.inr (.inr (.inl ⟨hb.1, hb.2, hne, (Option.some.inj h).symm⟩)))
  split at h
  · next hb => exact .inr (.inr (.inr (.inr (.inl ⟨hb, (Option.some.inj h).symm⟩))))
  split at h
  · next hb =>
    exact .inr (.inr (.inr (.inr (.inr (.inl ⟨hb.1, hb.2, (Option.some.inj h).symm⟩)))))
  split at h
  · next hb => exact .inr (.inr (.inr (.inr (.inr (.inr ⟨hb, (Option.some.inj h).symm⟩)))))
  · cases h

theorem isContinuation_range {b : UInt8} (h : isContinuation b = true) :
    128 ≤ b.toNat ∧ b.toNat ≤ 191 := by
  simpa only [isContinuation, UInt8.le_iff_toNat_le, UInt8.reduceToNat, Bool.and_eq_true,
    decide_eq_true_eq] using h

theorem encodeChar_one {n : Nat} (h : n < 128) :
    String.utf8EncodeChar (Char.ofNat n) = [UInt8.ofNat n] := by
  have hn : (Char.ofNat n).val.toNat = n := toNat_charOfNat (.inl (by omega))
  simp only [String.utf8EncodeChar, hn]
  rw [if_pos (by omega)]

theorem encodeChar_two {n : Nat} (h : 128 ≤ n) (h' : n < 2048) :
    String.utf8EncodeChar (Char.ofNat n) =
      [UInt8.ofNat (n / 64 % 32 + 192), UInt8.ofNat (n % 64 + 128)] := by
  have hn : (Char.ofNat n).val.toNat = n := toNat_charOfNat (.inl (by omega))
  simp only [String.utf8EncodeChar, hn]
  rw [if_neg (by omega), if_pos (by omega)]

theorem encodeChar_three {n : Nat} (h : 2048 ≤ n) (h' : n < 65536) (hvalid : n.isValidChar) :
    String.utf8EncodeChar (Char.ofNat n) =
      [UInt8.ofNat (n / 4096 % 16 + 224), UInt8.ofNat (n / 64 % 64 + 128),
        UInt8.ofNat (n % 64 + 128)] := by
  have hn : (Char.ofNat n).val.toNat = n := toNat_charOfNat hvalid
  simp only [String.utf8EncodeChar, hn]
  rw [if_neg (by omega), if_neg (by omega), if_pos (by omega)]

theorem encodeChar_four {n : Nat} (h : 65536 ≤ n) (h' : n < 1114112) :
    String.utf8EncodeChar (Char.ofNat n) =
      [UInt8.ofNat (n / 262144 % 8 + 240), UInt8.ofNat (n / 4096 % 64 + 128),
        UInt8.ofNat (n / 64 % 64 + 128), UInt8.ofNat (n % 64 + 128)] := by
  have hn : (Char.ofNat n).val.toNat = n := toNat_charOfNat (.inr (by omega))
  simp only [String.utf8EncodeChar, hn]
  rw [if_neg (by omega), if_neg (by omega), if_neg (by omega)]

theorem encodeChar_char2 {b₀ b₁ : UInt8} {l : Lead} (hlead : lead? b₀ = some l)
    (hmore : l.more = 1) (h₁ : l.low ≤ b₁ ∧ b₁ ≤ l.high) :
    String.utf8EncodeChar (char2 b₀ b₁) = [b₀, b₁] := by
  rw [UInt8.le_iff_toNat_le, UInt8.le_iff_toNat_le] at h₁
  rcases lead?_cases hlead with ⟨_, _, rfl⟩ | ⟨_, rfl⟩ | ⟨_, rfl⟩ | ⟨_, _, _, rfl⟩ | ⟨_, rfl⟩ |
    ⟨_, _, rfl⟩ | ⟨_, rfl⟩ <;> cases hmore
  simp only [UInt8.reduceToNat] at h₁
  rw [char2, low6, encodeChar_two (by omega) (by omega), ofNat_eq_byte b₀ (by omega),
    ofNat_eq_byte b₁ (by omega)]

theorem encodeChar_char3 {b₀ b₁ b₂ : UInt8} {l : Lead} (hlead : lead? b₀ = some l)
    (hmore : l.more = 2) (h₁ : l.low ≤ b₁ ∧ b₁ ≤ l.high) (h₂ : isContinuation b₂ = true) :
    String.utf8EncodeChar (char3 b₀ b₁ b₂) = [b₀, b₁, b₂] := by
  rw [UInt8.le_iff_toNat_le, UInt8.le_iff_toNat_le] at h₁
  have hrange := isContinuation_range h₂
  -- the second byte keeps clear of the long spellings and of the surrogates
  obtain ⟨hlow, hhigh, hfirst, hlong, hsurrogate⟩ : 128 ≤ b₁.toNat ∧ b₁.toNat ≤ 191 ∧
      (224 ≤ b₀.toNat ∧ b₀.toNat ≤ 239) ∧ (b₀.toNat = 224 → 160 ≤ b₁.toNat) ∧
      (b₀.toNat = 237 → b₁.toNat ≤ 159) := by
    rcases lead?_cases hlead with ⟨_, _, rfl⟩ | ⟨_, rfl⟩ | ⟨_, rfl⟩ | ⟨_, _, _, rfl⟩ | ⟨_, rfl⟩ |
      ⟨_, _, rfl⟩ | ⟨_, rfl⟩ <;> cases hmore <;> simp only [UInt8.reduceToNat] at h₁ <;> omega
  rw [char3, low6, low6, encodeChar_three (by omega) (by omega) (by unfold Nat.isValidChar; omega),
    ofNat_eq_byte b₀ (by omega), ofNat_eq_byte b₁ (by omega), ofNat_eq_byte b₂ (by omega)]

theorem encodeChar_char4 {b₀ b₁ b₂ b₃ : UInt8} {l : Lead} (hlead : lead? b₀ = some l)
    (hone : l.more ≠ 1) (htwo : l.more ≠ 2) (h₁ : l.low ≤ b₁ ∧ b₁ ≤ l.high)
    (h₂ : isContinuation b₂ = true) (h₃ : isContinuation b₃ = true) :
    String.utf8EncodeChar (char4 b₀ b₁ b₂ b₃) = [b₀, b₁, b₂, b₃] := by
  rw [UInt8.le_iff_toNat_le, UInt8.le_iff_toNat_le] at h₁
  have hrange := isContinuation_range h₂
  have hrange' := isContinuation_range h₃
  -- the second byte keeps clear of the long spellings and of what lies beyond the last character
  obtain ⟨hlow, hhigh, hfirst, hlong, hlast⟩ : 128 ≤ b₁.toNat ∧ b₁.toNat ≤ 191 ∧
      (240 ≤ b₀.toNat ∧ b₀.toNat ≤ 244) ∧ (b₀.toNat = 240 → 144 ≤ b₁.toNat) ∧
      (b₀.toNat = 244 → b₁.toNat ≤ 143) := by
    rcases lead?_cases hlead with ⟨_, _, rfl⟩ | ⟨_, rfl⟩ | ⟨_, rfl⟩ | ⟨_, _, _, rfl⟩ | ⟨_, rfl⟩ |
      ⟨_, _, rfl⟩ | ⟨_, rfl⟩ <;>
      first | exact absurd rfl hone | exact absurd rfl htwo |
        (simp only [UInt8.reduceToNat] at h₁; omega)
  rw [char4, low6, low6, low6, encodeChar_four (by omega) (by omega), ofNat_eq_byte b₀ (by omega),
    ofNat_eq_byte b₁ (by omega), ofNat_eq_byte b₂ (by omega), ofNat_eq_byte b₃ (by omega)]

/-- Bytes that begin with a character begin with the bytes of that character. -/
theorem pieces_eq_char_cons {bytes : Bytes} {c : Char} {cut : List Piece}
    (h : pieces bytes = .char c :: cut) :
    ∃ rest, bytes = String.utf8EncodeChar c ++ rest ∧ pieces rest = cut := by
  cases bytes with
  | nil => cases h
  | cons b₀ rest =>
    rw [pieces_cons] at h
    split at h
    · next hascii =>
      obtain ⟨hc, hcut⟩ := List.cons.inj h
      cases hc
      rw [UInt8.lt_iff_toNat_lt] at hascii
      refine ⟨rest, ?_, hcut⟩
      rw [encodeChar_one hascii, UInt8.ofNat_toNat]
      rfl
    split at h
    · cases h
    · cases h
    next l b₁ rest₁ hlead =>
    split at h
    · cases h
    next hrange =>
    have h₁ : l.low ≤ b₁ ∧ b₁ ≤ l.high := by
      simpa [UInt8.not_lt] using hrange
    split at h
    · next hmore =>
      cases h
      exact ⟨rest₁, by rw [encodeChar_char2 hlead hmore h₁]; rfl, rfl⟩
    next hone =>
    split at h
    · cases h
    next b₂ rest₂ =>
    split at h
    · cases h
    next hcontinues =>
    have h₂ : isContinuation b₂ = true := by simpa using hcontinues
    split at h
    · next hmore =>
      cases h
      exact ⟨rest₂, by rw [encodeChar_char3 hlead hmore h₁ h₂]; rfl, rfl⟩
    next htwo =>
    split at h
    · cases h
    next b₃ rest₃ =>
    split at h
    · cases h
    next hcontinues' =>
    have h₃ : isContinuation b₃ = true := by simpa using hcontinues'
    cases h
    exact ⟨rest₃, by rw [encodeChar_char4 hlead hone htwo h₁ h₂ h₃]; rfl, rfl⟩

/-! ### Texts -/

theorem eq_nil_of_pieces {bytes : Bytes} (h : pieces bytes = []) : bytes = [] := by
  cases bytes with
  | nil => rfl
  | cons b rest =>
    rw [pieces_cons] at h
    (repeat' split at h) <;> cases h

theorem eq_encodeChars_of_pieces {bytes : Bytes} {cs : List Char}
    (h : pieces bytes = cs.map .char) : bytes = encodeChars cs := by
  induction cs generalizing bytes with
  | nil => exact eq_nil_of_pieces h
  | cons c cs ih =>
    obtain ⟨rest, rfl, hrest⟩ := pieces_eq_char_cons h
    rw [ih hrest]
    rfl

/-- A cut without faults is made of characters. -/
theorem eq_map_char_of_chars {cut : List Piece} {start : Nat} {cs : List Char}
    (h : Piece.chars start cut = .ok cs) : cut = cs.map .char := by
  induction cut generalizing start cs with
  | nil =>
    cases h
    rfl
  | cons piece cut ih =>
    cases piece with
    | malformed width => cases h
    | cut width => cases h
    | char c =>
      rw [Piece.chars_char] at h
      cases hrest : Piece.chars (start + c.utf8Size) cut with
      | error e =>
        rw [hrest] at h
        cases h
      | ok rest =>
        rw [hrest] at h
        cases h
        rw [ih hrest]
        rfl

/-- Bytes that are read as a text are the bytes of that text. -/
theorem encode_of_decode? {bytes : Bytes} {s : String} (h : decode? bytes = some s) :
    encode s = bytes := by
  cases hchars : decodeChars bytes with
  | error e =>
    simp [decode?, decode, hchars, Except.map, Except.toOption] at h
  | ok cs =>
    have hs : String.ofList cs = s := by
      simpa [decode?, decode, hchars, Except.map, Except.toOption] using h
    rw [← hs, encode, String.toList_ofList, eq_encodeChars_of_pieces (eq_map_char_of_chars hchars)]

end RequestBridge.Utf8
