import RequestBridge.Text.Utf8

/-! Text survives its own bytes.

A character is written in one to four bytes, and reading them gives the character and what
follows it. So a text is what is read from its bytes (`decode?_encode`). -/
namespace RequestBridge.Utf8

/-! ### Bytes at the front -/

theorem not_ascii_of_lead {b : UInt8} {l : Lead} (h : lead? b = some l) : ¬ b < 0x80 := by
  intro hb
  have hn : b.toNat < 128 := UInt8.lt_iff_toNat_lt.mp hb
  have hnone : lead? b = none := by
    simp only [lead?, UInt8.le_iff_toNat_le, beq_iff_eq, ← UInt8.toNat_inj]
    simp only [UInt8.reduceToNat, Bool.and_eq_true, decide_eq_true_eq]
    simp [show ¬ 194 ≤ b.toNat by omega, show ¬ b.toNat = 224 by omega, show ¬ b.toNat = 237 by omega,
      show ¬ 225 ≤ b.toNat by omega, show ¬ b.toNat = 240 by omega, show ¬ 241 ≤ b.toNat by omega,
      show ¬ b.toNat = 244 by omega]
  rw [hnone] at h
  cases h

theorem pieces_ascii {b : UInt8} (rest : Bytes) (h : b < 0x80) :
    pieces (b :: rest) = .char (Char.ofNat b.toNat) :: pieces rest := by
  rw [pieces_cons, if_pos h]

theorem pieces_two {b₀ b₁ : UInt8} (rest : Bytes) {l : Lead} (h₀ : lead? b₀ = some l)
    (hmore : l.more = 1) (h₁ : l.low ≤ b₁ ∧ b₁ ≤ l.high) :
    pieces (b₀ :: b₁ :: rest) = .char (char2 b₀ b₁) :: pieces rest := by
  have hlow : ¬ b₁ < l.low := UInt8.not_lt.mpr h₁.1
  have hhigh : ¬ l.high < b₁ := UInt8.not_lt.mpr h₁.2
  rw [pieces_cons, if_neg (not_ascii_of_lead h₀), h₀]
  simp [hlow, hhigh, hmore]

theorem pieces_three {b₀ b₁ b₂ : UInt8} (rest : Bytes) {l : Lead} (h₀ : lead? b₀ = some l)
    (hmore : l.more = 2) (h₁ : l.low ≤ b₁ ∧ b₁ ≤ l.high) (h₂ : isContinuation b₂ = true) :
    pieces (b₀ :: b₁ :: b₂ :: rest) = .char (char3 b₀ b₁ b₂) :: pieces rest := by
  have hlow : ¬ b₁ < l.low := UInt8.not_lt.mpr h₁.1
  have hhigh : ¬ l.high < b₁ := UInt8.not_lt.mpr h₁.2
  rw [pieces_cons, if_neg (not_ascii_of_lead h₀), h₀]
  simp [hlow, hhigh, hmore, h₂]

theorem pieces_four {b₀ b₁ b₂ b₃ : UInt8} (rest : Bytes) {l : Lead} (h₀ : lead? b₀ = some l)
    (hmore : l.more = 3) (h₁ : l.low ≤ b₁ ∧ b₁ ≤ l.high) (h₂ : isContinuation b₂ = true)
    (h₃ : isContinuation b₃ = true) :
    pieces (b₀ :: b₁ :: b₂ :: b₃ :: rest) = .char (char4 b₀ b₁ b₂ b₃) :: pieces rest := by
  have hlow : ¬ b₁ < l.low := UInt8.not_lt.mpr h₁.1
  have hhigh : ¬ l.high < b₁ := UInt8.not_lt.mpr h₁.2
  rw [pieces_cons, if_neg (not_ascii_of_lead h₀), h₀]
  simp [hlow, hhigh, hmore, h₂, h₃]

/-! ### The bytes of one character -/

theorem toNat_ofNat_of_lt {n : Nat} (h : n < 256) : (UInt8.ofNat n).toNat = n := by
  rw [UInt8.toNat_ofNat']
  exact Nat.mod_eq_of_lt h

theorem isContinuation_ofNat (n : Nat) : isContinuation (UInt8.ofNat (n % 64 + 128)) = true := by
  have h : (UInt8.ofNat (n % 64 + 128)).toNat = n % 64 + 128 := toNat_ofNat_of_lt (by omega)
  simp only [isContinuation, UInt8.le_iff_toNat_le, h, UInt8.reduceToNat, Bool.and_eq_true,
    decide_eq_true_eq]
  omega

/-- A first byte that asks for more, and a second byte in the range that it leaves. -/
def Opens (more : Nat) (b₀ b₁ : UInt8) : Prop :=
  ∃ l, lead? b₀ = some l ∧ l.more = more ∧ l.low ≤ b₁ ∧ b₁ ≤ l.high

theorem opens_two {n m : Nat} (hn : 2 ≤ n) (hn' : n < 32) (hm : m < 64) :
    Opens 1 (UInt8.ofNat (n + 192)) (UInt8.ofNat (m + 128)) := by
  have h₀ : (UInt8.ofNat (n + 192)).toNat = n + 192 := toNat_ofNat_of_lt (by omega)
  have h₁ : (UInt8.ofNat (m + 128)).toNat = m + 128 := toNat_ofNat_of_lt (by omega)
  refine ⟨⟨1, 0x80, 0xBF⟩, ?_, rfl, ?_, ?_⟩
  · rw [lead?, if_pos]
    simp only [UInt8.le_iff_toNat_le, h₀, UInt8.reduceToNat, Bool.and_eq_true, decide_eq_true_eq]
    omega
  · simp only [UInt8.le_iff_toNat_le, h₁, UInt8.reduceToNat]
    omega
  · simp only [UInt8.le_iff_toNat_le, h₁, UInt8.reduceToNat]
    omega

/-- Neither a long spelling nor a surrogate. -/
theorem opens_three {n m : Nat} (hn : n < 16) (hm : m < 64) (hlong : n = 0 → 32 ≤ m)
    (hsurrogate : n = 13 → m < 32) :
    Opens 2 (UInt8.ofNat (n + 224)) (UInt8.ofNat (m + 128)) := by
  have h₀ : (UInt8.ofNat (n + 224)).toNat = n + 224 := toNat_ofNat_of_lt (by omega)
  have h₁ : (UInt8.ofNat (m + 128)).toNat = m + 128 := toNat_ofNat_of_lt (by omega)
  have hrange : ∀ low high : UInt8, low.toNat ≤ m + 128 → m + 128 ≤ high.toNat →
      low ≤ UInt8.ofNat (m + 128) ∧ UInt8.ofNat (m + 128) ≤ high := by
    intro low high hlow hhigh
    rw [UInt8.le_iff_toNat_le, UInt8.le_iff_toNat_le, h₁]
    exact ⟨hlow, hhigh⟩
  by_cases h0 : n = 0
  · have hm32 := hlong h0
    subst h0
    exact ⟨⟨2, 0xA0, 0xBF⟩, rfl, rfl, hrange _ _ (by simp only [UInt8.reduceToNat]; omega)
      (by simp only [UInt8.reduceToNat]; omega)⟩
  by_cases h13 : n = 13
  · have hm32 := hsurrogate h13
    subst h13
    exact ⟨⟨2, 0x80, 0x9F⟩, rfl, rfl, hrange _ _ (by simp only [UInt8.reduceToNat]; omega)
      (by simp only [UInt8.reduceToNat]; omega)⟩
  · refine ⟨⟨2, 0x80, 0xBF⟩, ?_, rfl, hrange _ _ (by simp only [UInt8.reduceToNat]; omega)
      (by simp only [UInt8.reduceToNat]; omega)⟩
    simp only [lead?, UInt8.le_iff_toNat_le, beq_iff_eq, ← UInt8.toNat_inj, h₀, UInt8.reduceToNat]
    simp [show ¬ n + 224 ≤ 223 by omega, show ¬ n + 224 = 237 by omega, h0,
      show 225 ≤ n + 224 by omega, show n + 224 ≤ 239 by omega]

/-- Neither a long spelling nor beyond the last character. -/
theorem opens_four {n m : Nat} (hn : n ≤ 4) (hm : m < 64) (hlong : n = 0 → 16 ≤ m)
    (hlast : n = 4 → m < 16) :
    Opens 3 (UInt8.ofNat (n + 240)) (UInt8.ofNat (m + 128)) := by
  have h₁ : (UInt8.ofNat (m + 128)).toNat = m + 128 := toNat_ofNat_of_lt (by omega)
  have hrange : ∀ low high : UInt8, low.toNat ≤ m + 128 → m + 128 ≤ high.toNat →
      low ≤ UInt8.ofNat (m + 128) ∧ UInt8.ofNat (m + 128) ≤ high := by
    intro low high hlow hhigh
    rw [UInt8.le_iff_toNat_le, UInt8.le_iff_toNat_le, h₁]
    exact ⟨hlow, hhigh⟩
  have hcases : n = 0 ∨ n = 1 ∨ n = 2 ∨ n = 3 ∨ n = 4 := by omega
  rcases hcases with rfl | rfl | rfl | rfl | rfl
  · have hm16 := hlong rfl
    exact ⟨⟨3, 0x90, 0xBF⟩, rfl, rfl, hrange _ _ (by simp only [UInt8.reduceToNat]; omega)
      (by simp only [UInt8.reduceToNat]; omega)⟩
  · exact ⟨⟨3, 0x80, 0xBF⟩, rfl, rfl, hrange _ _ (by simp only [UInt8.reduceToNat]; omega)
      (by simp only [UInt8.reduceToNat]; omega)⟩
  · exact ⟨⟨3, 0x80, 0xBF⟩, rfl, rfl, hrange _ _ (by simp only [UInt8.reduceToNat]; omega)
      (by simp only [UInt8.reduceToNat]; omega)⟩
  · exact ⟨⟨3, 0x80, 0xBF⟩, rfl, rfl, hrange _ _ (by simp only [UInt8.reduceToNat]; omega)
      (by simp only [UInt8.reduceToNat]; omega)⟩
  · have hm16 := hlast rfl
    exact ⟨⟨3, 0x80, 0x8F⟩, rfl, rfl, hrange _ _ (by simp only [UInt8.reduceToNat]; omega)
      (by simp only [UInt8.reduceToNat]; omega)⟩

/-- No character is a surrogate, and none lies beyond the last. -/
theorem toNat_valid (c : Char) : c.toNat < 0xD800 ∨ 0xDFFF < c.toNat ∧ c.toNat < 0x110000 :=
  c.valid

theorem ofNat_of_eq {c : Char} {n : Nat} (h : n = c.toNat) : Char.ofNat n = c := by
  rw [h, Char.ofNat_toNat]

/-- The bytes of a character are read as that character. -/
theorem pieces_encodeChar (c : Char) (rest : Bytes) :
    pieces (String.utf8EncodeChar c ++ rest) = .char c :: pieces rest := by
  have hvalid := toNat_valid c
  have hv : c.val.toNat = c.toNat := rfl
  simp only [String.utf8EncodeChar, hv]
  split
  · have hb : (UInt8.ofNat c.toNat).toNat = c.toNat := toNat_ofNat_of_lt (by omega)
    have hascii : UInt8.ofNat c.toNat < 0x80 := by
      rw [UInt8.lt_iff_toNat_lt, hb]
      simp only [UInt8.reduceToNat]
      omega
    show pieces (UInt8.ofNat c.toNat :: rest) = _
    rw [pieces_ascii rest hascii, hb, Char.ofNat_toNat]
  split
  · obtain ⟨l, hlead, hmore, hrange⟩ :=
      opens_two (n := c.toNat / 64 % 32) (m := c.toNat % 64) (by omega) (by omega) (by omega)
    have hchar : char2 (UInt8.ofNat (c.toNat / 64 % 32 + 192)) (UInt8.ofNat (c.toNat % 64 + 128)) = c := by
      rw [char2, low6, toNat_ofNat_of_lt (by omega), toNat_ofNat_of_lt (by omega)]
      exact ofNat_of_eq (by omega)
    show pieces (_ :: _ :: rest) = _
    rw [pieces_two rest hlead hmore hrange, hchar]
  split
  · obtain ⟨l, hlead, hmore, hrange⟩ := opens_three (n := c.toNat / 4096 % 16)
      (m := c.toNat / 64 % 64) (by omega) (by omega) (by omega) (by omega)
    have hchar : char3 (UInt8.ofNat (c.toNat / 4096 % 16 + 224))
        (UInt8.ofNat (c.toNat / 64 % 64 + 128)) (UInt8.ofNat (c.toNat % 64 + 128)) = c := by
      rw [char3, low6, low6, toNat_ofNat_of_lt (by omega), toNat_ofNat_of_lt (by omega),
        toNat_ofNat_of_lt (by omega)]
      exact ofNat_of_eq (by omega)
    show pieces (_ :: _ :: _ :: rest) = _
    rw [pieces_three rest hlead hmore hrange (isContinuation_ofNat _), hchar]
  · obtain ⟨l, hlead, hmore, hrange⟩ := opens_four (n := c.toNat / 262144 % 8)
      (m := c.toNat / 4096 % 64) (by omega) (by omega) (by omega) (by omega)
    have hchar : char4 (UInt8.ofNat (c.toNat / 262144 % 8 + 240))
        (UInt8.ofNat (c.toNat / 4096 % 64 + 128)) (UInt8.ofNat (c.toNat / 64 % 64 + 128))
        (UInt8.ofNat (c.toNat % 64 + 128)) = c := by
      rw [char4, low6, low6, low6, toNat_ofNat_of_lt (by omega), toNat_ofNat_of_lt (by omega),
        toNat_ofNat_of_lt (by omega), toNat_ofNat_of_lt (by omega)]
      exact ofNat_of_eq (by omega)
    show pieces (_ :: _ :: _ :: _ :: rest) = _
    rw [pieces_four rest hlead hmore hrange (isContinuation_ofNat _) (isContinuation_ofNat _),
      hchar]

/-! ### Texts -/

theorem pieces_encodeChars (cs : List Char) : pieces (encodeChars cs) = cs.map .char := by
  induction cs with
  | nil => rfl
  | cons c rest ih =>
    show pieces (String.utf8EncodeChar c ++ encodeChars rest) = _
    rw [pieces_encodeChar, ih]
    rfl

theorem chars_map_char (start : Nat) (cs : List Char) :
    Piece.chars start (cs.map .char) = .ok cs := by
  induction cs generalizing start with
  | nil => rfl
  | cons c rest ih =>
    rw [List.map_cons, Piece.chars_char, ih]
    rfl

/-- A text is what is read from its bytes. -/
theorem decode?_encode (s : String) : decode? (encode s) = some s := by
  have hchars : decodeChars (encode s) = .ok s.toList := by
    rw [decodeChars, encode, pieces_encodeChars, chars_map_char]
  simp [decode?, decode, hchars, Except.map, Except.toOption]

end RequestBridge.Utf8
