import RequestBridge.Proofs.Frame.RoundTrip
import RequestBridge.Proofs.Text.Spelling

/-! What is read from a frame was written into it.

Reading a field takes from the front exactly the bytes in which the field is written, and nothing
else can be read as it: a number of four bytes has one spelling, and so has a text. A request read
field by field (`takeRequest`) therefore leaves over what follows its frame, and
`decodeRequest_exact` says which bytes are read as a request, and as which one. -/
namespace RequestBridge.Frame

/-- What a reading with a further step yields, it yields through its first step. -/
theorem bind_eq_ok_iff {ε α β : Type} {x : Except ε α} {f : α → Except ε β} {b : β} :
    (x >>= f) = .ok b ↔ ∃ a, x = .ok a ∧ f a = .ok b := by
  cases x with
  | error e => exact ⟨nofun, nofun⟩
  | ok a =>
    refine ⟨fun h => ⟨a, rfl, h⟩, ?_⟩
    rintro ⟨_, h, hf⟩
    cases h
    exact hf

/-! ### Numbers have one spelling -/

theorem number_lt (bytes : Bytes) : number bytes < 256 ^ bytes.length := by
  induction bytes with
  | nil => exact Nat.one_pos
  | cons b bytes ih =>
    have hbyte : b.toNat < 256 := b.toNat_lt
    show b.toNat + 256 * number bytes < 256 ^ (bytes.length + 1)
    rw [Nat.pow_succ]
    omega

theorem digits_number (bytes : Bytes) : digits bytes.length (number bytes) = bytes := by
  induction bytes with
  | nil => rfl
  | cons b bytes ih =>
    have hbyte : b.toNat < 256 := b.toNat_lt
    have hhigh : (b.toNat + 256 * number bytes) / 256 = number bytes := by omega
    have hlow : UInt8.ofNat (b.toNat + 256 * number bytes) = b := by
      apply UInt8.toNat_inj.mp
      rw [UInt8.toNat_ofNat']
      omega
    show UInt8.ofNat (b.toNat + 256 * number bytes) ::
      digits bytes.length ((b.toNat + 256 * number bytes) / 256) = b :: bytes
    rw [hlow, hhigh, ih]

theorem takeNumber_eq_ok_iff {field : Field} {width n : Nat} {bytes rest : Bytes} :
    takeNumber field width bytes = .ok (n, rest) ↔
      n < 256 ^ width ∧ bytes = digits width n ++ rest := by
  constructor
  · intro h
    cases htake : take field width bytes with
    | error e =>
      rw [takeNumber, htake] at h
      cases h
    | ok taken =>
      obtain ⟨word, left⟩ := taken
      rw [takeNumber, htake] at h
      cases h
      obtain ⟨rfl, rfl⟩ := take_eq_ok_iff.mp htake
      exact ⟨number_lt word, by rw [digits_number]⟩
  · rintro ⟨hn, rfl⟩
    exact takeNumber_digits field width n rest hn

theorem lengthDigits_of_le {bytes : Bytes} (h : bytes.length ≤ maxField) :
    lengthDigits bytes = digits 4 bytes.length := by
  rw [lengthDigits, Nat.min_eq_left h]

/-! ### Fields that follow their length -/

/-- A length is read of bytes that a field can hold. -/
theorem length_le_maxField {bytes : Bytes} (h : bytes.length < 256 ^ 4) :
    bytes.length ≤ maxField := by
  unfold maxField
  omega

theorem takeBody_eq_ok_iff {bytes body rest : Bytes} :
    takeBody bytes = .ok (body, rest) ↔
      body.length ≤ maxField ∧ bytes = lengthDigits body ++ body ++ rest := by
  constructor
  · intro h
    obtain ⟨⟨length, left⟩, hlength, hbody⟩ := bind_eq_ok_iff.mp h
    obtain ⟨hlt, rfl⟩ := takeNumber_eq_ok_iff.mp hlength
    obtain ⟨rfl, rfl⟩ := take_eq_ok_iff.mp hbody
    have hle : body.length ≤ maxField := length_le_maxField hlt
    exact ⟨hle, by rw [lengthDigits_of_le hle, List.append_assoc]⟩
  · rintro ⟨hle, rfl⟩
    exact takeBody_append body rest hle

theorem takePath_eq_ok_iff {bytes rest : Bytes} {path : String} :
    takePath bytes = .ok (path, rest) ↔ (Utf8.encode path).length ≤ maxField ∧
      bytes = lengthDigits (Utf8.encode path) ++ Utf8.encode path ++ rest := by
  constructor
  · intro h
    obtain ⟨⟨length, left⟩, hlength, h⟩ := bind_eq_ok_iff.mp h
    obtain ⟨⟨word, left'⟩, hword, htext⟩ := bind_eq_ok_iff.mp h
    obtain ⟨hlt, rfl⟩ := takeNumber_eq_ok_iff.mp hlength
    obtain ⟨rfl, rfl⟩ := take_eq_ok_iff.mp hword
    cases hdecode : Utf8.decode? word with
    | none =>
      simp only [hdecode, reduceCtorEq] at htext
    | some text =>
      simp only [hdecode] at htext
      cases htext
      have hspelled : Utf8.encode path = word := Utf8.encode_of_decode? hdecode
      have hle : word.length ≤ maxField := length_le_maxField hlt
      rw [hspelled]
      exact ⟨hle, by rw [lengthDigits_of_le hle, List.append_assoc]⟩
  · rintro ⟨hle, rfl⟩
    exact takePath_append path rest hle

theorem takeMethod_eq_ok_iff {bytes rest : Bytes} {m : Method} :
    takeMethod bytes = .ok (m, rest) ↔ bytes = m.code :: rest := by
  constructor
  · intro h
    obtain ⟨⟨word, left⟩, hword, hcode⟩ := bind_eq_ok_iff.mp h
    obtain ⟨hone, rfl⟩ := take_eq_ok_iff.mp hword
    obtain ⟨code, rfl⟩ := List.length_eq_one_iff.mp hone
    cases hmethod : Method.ofCode? code with
    | none =>
      simp only [List.headD_cons, hmethod, reduceCtorEq] at hcode
    | some method =>
      simp only [List.headD_cons, hmethod] at hcode
      cases hcode
      rw [Method.ofCode?_eq_some_iff.mp hmethod]
      rfl
  · rintro rfl
    exact takeMethod_cons m rest

/-! ### Requests -/

/-- A request whose path and body are short enough for their lengths to be told. -/
structure Fits (r : Request) : Prop where
  path : (Utf8.encode r.path).length ≤ maxField
  body : r.body.length ≤ maxField

/-- The reading of a request, with the bytes that follow its frame. -/
def takeRequest (bytes : Bytes) : Except Error (Request × Bytes) := do
  let (method, rest) ← takeMethod bytes
  let (path, rest) ← takePath rest
  let (body, rest) ← takeBody rest
  return ({ method, path, body }, rest)

/-- Within the limit a frame is read as its fields are, and what follows it is left aside. -/
theorem decodeRequest_eq (limits : Limits) (bytes : Bytes) :
    decodeRequest limits bytes =
      if limits.maxLength < bytes.length then
        .error (.tooLarge bytes.length limits.maxLength)
      else (takeRequest bytes).map Prod.fst := by
  unfold decodeRequest takeRequest
  split
  · rfl
  cases hmethod : takeMethod bytes with
  | error e => rfl
  | ok taken =>
    cases hpath : takePath taken.2 with
    | error e => simp only [bind, Except.bind, hpath, Except.map]
    | ok taken' =>
      cases hbody : takeBody taken'.2 with
      | error e => simp only [bind, Except.bind, hpath, hbody, Except.map]
      | ok taken'' => simp only [bind, Except.bind, pure, Except.pure, hpath, hbody, Except.map]

theorem encodeRequest_append (r : Request) (rest : Bytes) :
    encodeRequest r ++ rest = r.method.code ::
      (lengthDigits (Utf8.encode r.path) ++ Utf8.encode r.path ++
        (lengthDigits r.body ++ r.body ++ rest)) := by
  simp only [encodeRequest, List.cons_append, List.append_assoc]

theorem takeRequest_eq_ok_iff {bytes rest : Bytes} {r : Request} :
    takeRequest bytes = .ok (r, rest) ↔ Fits r ∧ bytes = encodeRequest r ++ rest := by
  constructor
  · intro h
    obtain ⟨⟨method, left⟩, hmethod, h⟩ := bind_eq_ok_iff.mp h
    obtain ⟨⟨path, left'⟩, hpath, h⟩ := bind_eq_ok_iff.mp h
    obtain ⟨⟨body, left''⟩, hbody, h⟩ := bind_eq_ok_iff.mp h
    cases h
    obtain rfl := takeMethod_eq_ok_iff.mp hmethod
    obtain ⟨hpathFits, rfl⟩ := takePath_eq_ok_iff.mp hpath
    obtain ⟨hbodyFits, rfl⟩ := takeBody_eq_ok_iff.mp hbody
    exact ⟨⟨hpathFits, hbodyFits⟩, (encodeRequest_append ⟨method, path, body⟩ rest).symm⟩
  · rintro ⟨hfits, rfl⟩
    rw [encodeRequest_append]
    refine bind_eq_ok_iff.mpr ⟨_, takeMethod_eq_ok_iff.mpr rfl, ?_⟩
    refine bind_eq_ok_iff.mpr ⟨_, takePath_eq_ok_iff.mpr ⟨hfits.path, rfl⟩, ?_⟩
    exact bind_eq_ok_iff.mpr ⟨_, takeBody_eq_ok_iff.mpr ⟨hfits.body, rfl⟩, rfl⟩

/-- A request is read from the bytes within the limit that begin with its frame. -/
theorem decodeRequest_eq_ok_iff {limits : Limits} {bytes : Bytes} {r : Request} :
    decodeRequest limits bytes = .ok r ↔ bytes.length ≤ limits.maxLength ∧
      ∃ rest, takeRequest bytes = .ok (r, rest) := by
  rw [decodeRequest_eq]
  split
  · next hlong =>
    exact ⟨nofun, fun h => absurd h.1 (Nat.not_le.mpr hlong)⟩
  · next hlong =>
    have hlimit : bytes.length ≤ limits.maxLength := Nat.not_lt.mp hlong
    cases htaken : takeRequest bytes with
    | error e => exact ⟨nofun, nofun⟩
    | ok taken =>
      constructor
      · intro h
        cases h
        exact ⟨hlimit, taken.2, rfl⟩
      · rintro ⟨_, rest, h⟩
        cases h
        rfl

/-- Bytes begin with the frame of one request only. -/
theorem eq_of_encodeRequest_append {r r' : Request} {rest rest' : Bytes}
    (hr : Fits r) (hr' : Fits r')
    (h : encodeRequest r ++ rest = encodeRequest r' ++ rest') : r = r' ∧ rest = rest' := by
  have hread : takeRequest (encodeRequest r ++ rest) = .ok (r, rest) :=
    takeRequest_eq_ok_iff.mpr ⟨hr, rfl⟩
  have hread' : takeRequest (encodeRequest r ++ rest) = .ok (r', rest') :=
    takeRequest_eq_ok_iff.mpr ⟨hr', h⟩
  rw [hread] at hread'
  cases hread'
  exact ⟨rfl, rfl⟩

/-- Reading accepts exactly the written form. Under any limit and for all bytes: a request that
fits is read from the bytes that begin with its frame and are within the limit, and from no
others, so from its frame alone if that is within the limit, and no frame of one request begins
the frame of another. What is read always fits, and its frame is exactly the bytes that reading
has taken. Bytes added at the end change nothing within the limit. -/
theorem decodeRequest_exact (limits : Limits) :
    (∀ bytes r, Fits r → (decodeRequest limits bytes = .ok r ↔
      bytes.length ≤ limits.maxLength ∧ ∃ rest, bytes = encodeRequest r ++ rest)) ∧
    (∀ r, Fits r →
      9 + (Utf8.encode r.path).length + r.body.length ≤ limits.maxLength →
      decodeRequest limits (encodeRequest r) = .ok r) ∧
    (∀ r r', Fits r → Fits r' → encodeRequest r <+: encodeRequest r' → r = r') ∧
    (∀ bytes r, decodeRequest limits bytes = .ok r → Fits r ∧
      ∃ rest, takeRequest bytes = .ok (r, rest) ∧ bytes = encodeRequest r ++ rest) ∧
    (∀ bytes more r, decodeRequest limits bytes = .ok r →
      (bytes ++ more).length ≤ limits.maxLength →
      decodeRequest limits (bytes ++ more) = .ok r) := by
  have hread : ∀ bytes r, Fits r → (decodeRequest limits bytes = .ok r ↔
      bytes.length ≤ limits.maxLength ∧ ∃ rest, bytes = encodeRequest r ++ rest) := by
    intro bytes r hr
    simp only [decodeRequest_eq_ok_iff, takeRequest_eq_ok_iff, hr, true_and]
  have htaken : ∀ bytes r, decodeRequest limits bytes = .ok r → Fits r ∧
      ∃ rest, takeRequest bytes = .ok (r, rest) ∧ bytes = encodeRequest r ++ rest := by
    intro bytes r h
    obtain ⟨_, rest, htake⟩ := decodeRequest_eq_ok_iff.mp h
    obtain ⟨hr, hbytes⟩ := takeRequest_eq_ok_iff.mp htake
    exact ⟨hr, rest, htake, hbytes⟩
  refine ⟨hread, ?_, ?_, htaken, ?_⟩
  · intro r hr hlimit
    refine (hread (encodeRequest r) r hr).mpr ⟨?_, [], (List.append_nil _).symm⟩
    rw [length_encodeRequest]
    exact hlimit
  · rintro r r' hr hr' ⟨rest, hbegins⟩
    have hsame : encodeRequest r ++ rest = encodeRequest r' ++ [] := by
      rw [hbegins, List.append_nil]
    exact (eq_of_encodeRequest_append hr hr' hsame).1
  · intro bytes more r h hlimit
    obtain ⟨hr, rest, _, hbytes⟩ := htaken bytes r h
    refine (hread (bytes ++ more) r hr).mpr ⟨hlimit, rest ++ more, ?_⟩
    rw [hbytes, List.append_assoc]

/-- A path of two bytes in one character, bytes after the body, and a limit that is just met. -/
theorem decodeRequest_exact_trailing :
    decodeRequest ⟨14⟩ [0, 2, 0, 0, 0, 0xC3, 0xA9, 1, 0, 0, 0, 7, 8, 9] = .ok ⟨.get, "é", [7]⟩ ∧
    Fits ⟨.get, "é", [7]⟩ ∧
    decodeRequest ⟨14⟩ (encodeRequest ⟨.get, "é", [7]⟩) = .ok ⟨.get, "é", [7]⟩ := by
  obtain ⟨hread, hfits, _⟩ := decodeRequest_exact ⟨14⟩
  have hr : Fits ⟨.get, "é", [7]⟩ := ⟨by decide +kernel, by decide⟩
  refine ⟨(hread _ _ hr).mpr ⟨by decide, [8, 9], by decide +kernel⟩, hr, ?_⟩
  exact hfits _ hr (by decide +kernel)

end RequestBridge.Frame
