import RequestBridge.Proofs.Frame.Diagnosis

/-! Response frames stand for responses, one for one.

Bytes are read as a response if and only if they begin with its frame, so a response has one frame
and a frame holds one response (`takeResponse_eq_ok_iff`). No limit applies to response frames, and
they hold no text, so the one thing that can be wrong with bytes is that there are too few of them:
the status, the length of the body or the body itself is cut off (`Lacks`). -/
namespace RequestBridge.Frame

/-! ### Responses that are read -/

/-- The reading of a response, with the bytes that follow its frame. -/
def takeResponse (bytes : Bytes) : Except Error (Response × Bytes) := do
  let (status, rest) ← takeNumber .status 2 bytes
  let (body, rest) ← takeBody rest
  return ({ status := UInt16.ofNat status, body }, rest)

theorem decodeResponse_eq (bytes : Bytes) :
    decodeResponse bytes = (takeResponse bytes).map Prod.fst := by
  unfold decodeResponse takeResponse
  cases takeNumber .status 2 bytes with
  | error e => rfl
  | ok taken =>
    cases hbody : takeBody taken.2 with
    | error e => simp only [bind, Except.bind, hbody, Except.map]
    | ok taken' => simp only [bind, Except.bind, pure, Except.pure, hbody, Except.map]

theorem encodeResponse_append (r : Response) (rest : Bytes) :
    encodeResponse r ++ rest =
      digits 2 r.status.toNat ++ (lengthDigits r.body ++ r.body ++ rest) := by
  simp only [encodeResponse, List.append_assoc]

theorem takeResponse_eq_ok_iff {bytes rest : Bytes} {r : Response} :
    takeResponse bytes = .ok (r, rest) ↔
      r.body.length ≤ maxField ∧ bytes = encodeResponse r ++ rest := by
  constructor
  · intro h
    obtain ⟨⟨status, left⟩, hstatus, h⟩ := bind_eq_ok_iff.mp h
    obtain ⟨⟨body, left'⟩, hbody, h⟩ := bind_eq_ok_iff.mp h
    cases h
    obtain ⟨hlt, rfl⟩ := takeNumber_eq_ok_iff.mp hstatus
    obtain ⟨hfits, rfl⟩ := takeBody_eq_ok_iff.mp hbody
    have htold : (UInt16.ofNat status).toNat = status := by
      rw [UInt16.toNat_ofNat']
      exact Nat.mod_eq_of_lt hlt
    refine ⟨hfits, ?_⟩
    rw [encodeResponse_append, htold]
  · rintro ⟨hfits, rfl⟩
    rw [encodeResponse_append]
    refine bind_eq_ok_iff.mpr ⟨_, takeNumber_eq_ok_iff.mpr ⟨r.status.toNat_lt, rfl⟩, ?_⟩
    refine bind_eq_ok_iff.mpr ⟨_, takeBody_eq_ok_iff.mpr ⟨hfits, rfl⟩, ?_⟩
    rw [UInt16.ofNat_toNat]
    rfl

/-- A response is read from the bytes that begin with its frame. -/
theorem decodeResponse_eq_ok_iff {bytes : Bytes} {r : Response} :
    decodeResponse bytes = .ok r ↔
      r.body.length ≤ maxField ∧ ∃ rest, bytes = encodeResponse r ++ rest := by
  rw [← exists_and_left]
  simp only [← takeResponse_eq_ok_iff, decodeResponse_eq]
  cases takeResponse bytes with
  | error e => simp only [Except.map, reduceCtorEq, exists_false]
  | ok taken =>
    obtain ⟨r', rest⟩ := taken
    simp only [Except.map, Except.ok.injEq, Prod.mk.injEq, exists_and_left, exists_eq', and_true]

/-- Bytes begin with the frame of one response only. -/
theorem eq_of_encodeResponse_append {r r' : Response} {rest rest' : Bytes}
    (hr : r.body.length ≤ maxField) (hr' : r'.body.length ≤ maxField)
    (h : encodeResponse r ++ rest = encodeResponse r' ++ rest') : r = r' ∧ rest = rest' := by
  have hread : takeResponse (encodeResponse r ++ rest) = .ok (r, rest) :=
    takeResponse_eq_ok_iff.mpr ⟨hr, rfl⟩
  have hread' : takeResponse (encodeResponse r ++ rest) = .ok (r', rest') :=
    takeResponse_eq_ok_iff.mpr ⟨hr', h⟩
  rw [hread] at hread'
  cases hread'
  exact ⟨rfl, rfl⟩

/-! ### Bytes that are too few -/

/-- The first field of a response that is not there in full, with the bytes that it needs and those
that are left of it. All that stands before it is complete. -/
inductive Lacks : Bytes → Field → Nat → Nat → Prop
  | status {rest : Bytes} (hshort : rest.length < 2) : Lacks rest .status 2 rest.length
  | bodyLength {status : UInt16} {rest : Bytes} (hshort : rest.length < 4) :
      Lacks (digits 2 status.toNat ++ rest) .bodyLength 4 rest.length
  | body {status : UInt16} {n : Nat} {rest : Bytes} (hn : n < 256 ^ 4) (hshort : rest.length < n) :
      Lacks (digits 2 status.toNat ++ (digits 4 n ++ rest)) .body n rest.length

theorem takeResponse_eq_error_iff {bytes : Bytes} {e : Error} :
    takeResponse bytes = .error e ↔ ∃ field needed available,
      e = .truncated field needed available ∧ Lacks bytes field needed available := by
  constructor
  · intro h
    rcases bind_eq_error_iff.mp h with hstatus | ⟨⟨n, left⟩, hstatus, hnext⟩
    · obtain ⟨hshort, rfl⟩ := takeNumber_eq_error_iff.mp hstatus
      exact ⟨_, _, _, rfl, .status hshort⟩
    obtain ⟨hlt, rfl⟩ := takeNumber_eq_ok_iff.mp hstatus
    obtain ⟨status, rfl⟩ : ∃ status : UInt16, status.toNat = n :=
      ⟨UInt16.ofNat n, by rw [UInt16.toNat_ofNat']; exact Nat.mod_eq_of_lt hlt⟩
    rcases bind_eq_error_iff.mp hnext with hbody | ⟨_, _, hdone⟩
    · rcases takeBody_eq_error_iff.mp hbody with ⟨hshort, rfl⟩ | ⟨n, rest, hn, rfl, hshort, rfl⟩
      · exact ⟨_, _, _, rfl, .bodyLength hshort⟩
      · exact ⟨_, _, _, rfl, .body hn hshort⟩
    · cases hdone
  · rintro ⟨field, needed, available, rfl, hlacks⟩
    have hstatus : ∀ (status : UInt16) (rest : Bytes),
        takeNumber .status 2 (digits 2 status.toNat ++ rest) = .ok (status.toNat, rest) :=
      fun status rest => takeNumber_eq_ok_iff.mpr ⟨status.toNat_lt, rfl⟩
    cases hlacks with
    | status hshort =>
      exact bind_eq_error_iff.mpr (.inl (takeNumber_eq_error_iff.mpr ⟨hshort, rfl⟩))
    | bodyLength hshort =>
      exact bind_eq_error_iff.mpr (.inr ⟨_, hstatus _ _, bind_eq_error_iff.mpr
        (.inl (takeBody_eq_error_iff.mpr (.inl ⟨hshort, rfl⟩)))⟩)
    | body hn hshort =>
      exact bind_eq_error_iff.mpr (.inr ⟨_, hstatus _ _, bind_eq_error_iff.mpr
        (.inl (takeBody_eq_error_iff.mpr (.inr ⟨_, _, hn, rfl, hshort, rfl⟩)))⟩)

theorem decodeResponse_eq_error_iff {bytes : Bytes} {e : Error} :
    decodeResponse bytes = .error e ↔ ∃ field needed available,
      e = .truncated field needed available ∧ Lacks bytes field needed available := by
  rw [← takeResponse_eq_error_iff, decodeResponse_eq]
  cases takeResponse bytes with
  | error e' => simp only [Except.map, Except.error.injEq]
  | ok taken => simp only [Except.map, reduceCtorEq]

/-- What is missing from the frame of a response that is cut off after so many bytes. -/
def shortage (r : Response) (length : Nat) : Error :=
  if length < 2 then .truncated .status 2 length
  else if length < 6 then .truncated .bodyLength 4 (length - 2)
  else .truncated .body r.body.length (length - 6)

/-- A frame that is cut off fails in the field in which it is cut. -/
theorem decodeResponse_cut {r : Response} (hr : r.body.length ≤ maxField) {cut : Bytes}
    (hcut : cut <+: encodeResponse r) (hshort : cut.length < (encodeResponse r).length) :
    decodeResponse cut = .error (shortage r cut.length) := by
  have hbody : r.body.length < 256 ^ 4 := Nat.lt_of_le_of_lt hr (by decide)
  rw [length_encodeResponse] at hshort
  rw [encodeResponse, List.append_assoc] at hcut
  rw [decodeResponse_eq_error_iff]
  -- The cut is in the status, or else in what follows, and so on to the body.
  rcases short_or_append_of_prefix hcut with hcut | ⟨left, rfl, hleft⟩
  · rw [length_digits] at hcut
    exact ⟨_, _, _, by rw [shortage, if_pos hcut], .status hcut⟩
  rw [List.length_append, length_digits] at hshort ⊢
  rcases short_or_append_of_prefix hleft with hcut | ⟨left', rfl, hleft'⟩
  · rw [length_lengthDigits] at hcut
    have herror : shortage r (2 + left.length) = .truncated .bodyLength 4 left.length := by
      grind [shortage]
    exact ⟨_, _, _, herror, .bodyLength hcut⟩
  rw [List.length_append, length_lengthDigits] at hshort ⊢
  have herror : shortage r (2 + (4 + left'.length)) =
      .truncated .body r.body.length left'.length := by
    grind [shortage]
  rw [lengthDigits_of_le hr]
  exact ⟨_, _, _, herror, .body hbody (by omega)⟩

/-! ### Reading with a position -/

namespace Reading

def status (buffer : Bytes) : Reading UInt16 := do
  let word ← take buffer .status 2
  return UInt16.ofNat (number [← word[0]?, ← word[1]?])

def response (buffer : Bytes) : Reading Response := do
  return { status := ← status buffer, body := ← body buffer }

end Reading

namespace Agrees
variable {buffer : Bytes}

theorem status : Agrees buffer (Reading.status buffer) fun bytes =>
    takeNumber .status 2 bytes >>= fun taken => .ok (UInt16.ofNat taken.1, taken.2) := by
  have hsteps : (fun bytes =>
      takeNumber .status 2 bytes >>= fun taken => .ok (UInt16.ofNat taken.1, taken.2)) =
      fun bytes => Frame.take .status 2 bytes >>= fun taken =>
        .ok (UInt16.ofNat (number taken.1), taken.2) := by
    funext bytes
    unfold takeNumber
    cases Frame.take .status 2 bytes <;> rfl
  rw [hsteps]
  refine (Agrees.take .status 2).bind (k := fun word rest => .ok (UInt16.ofNat (number word), rest))
    fun word bytes rest h => ?_
  match word, (take_eq_ok_iff.mp h).1 with
  | [b₀, b₁], _ => exact Agrees.pure (UInt16.ofNat (number [b₀, b₁]))

theorem response : Agrees buffer (Reading.response buffer) takeResponse := by
  have hsteps : takeResponse = fun bytes =>
      (takeNumber .status 2 bytes >>= fun taken => .ok (UInt16.ofNat taken.1, taken.2)) >>=
        fun status => takeBody status.2 >>= fun body =>
          .ok (Response.mk status.1 body.1, body.2) := by
    funext bytes
    unfold takeResponse
    cases takeNumber .status 2 bytes <;> rfl
  rw [hsteps]
  refine Agrees.status.bind (k := fun status rest =>
    takeBody rest >>= fun body => .ok (Response.mk status body.1, body.2)) fun status _ _ _ => ?_
  exact Agrees.body.bind (k := fun body rest => .ok (Response.mk status body, rest))
    fun body _ _ _ => Agrees.pure _

end Agrees

/-- The reading with a position never looks outside the buffer and comes to what the response is
decoded to. -/
theorem reading_response (buffer : Bytes) :
    ∃ position ≤ buffer.length,
      Reading.response buffer 0 = some (decodeResponse buffer, position) ∧
      ∀ field needed available,
        decodeResponse buffer = .error (.truncated field needed available) →
        available = buffer.length - position ∧ available < needed := by
  obtain ⟨answer, position, hposition, hreading, hreader, htruncated⟩ :=
    (Agrees.response : Agrees buffer _ _) 0 (Nat.zero_le _)
  have hdecode : decodeResponse buffer = answer := by
    rw [decodeResponse_eq, ← List.drop_zero (l := buffer), hreader]
    cases answer <;> rfl
  rw [hdecode]
  exact ⟨position, hposition, hreading, htruncated⟩

/-! ### The law -/

/-- Response frames and responses are the same thing. A response is read from the bytes that begin
with its frame, whatever follows, and from no others, and bytes begin with one frame only. A frame
is six bytes longer than the body. If it is cut off, the field in which it is cut is named, with the
bytes that it needs and those that are left of it. Nothing else ever fails, whatever the bytes, and
the reading never looks outside them. -/
theorem response_frames_are_responses :
    (∀ bytes r, decodeResponse bytes = .ok r ↔
      r.body.length ≤ maxField ∧ ∃ rest, bytes = encodeResponse r ++ rest) ∧
    (∀ r r' rest rest', r.body.length ≤ maxField → r'.body.length ≤ maxField →
      encodeResponse r ++ rest = encodeResponse r' ++ rest' → r = r' ∧ rest = rest') ∧
    (∀ r, (encodeResponse r).length = 6 + r.body.length) ∧
    (∀ r, r.body.length ≤ maxField → ∀ cut, cut <+: encodeResponse r → cut ≠ encodeResponse r →
      decodeResponse cut = .error (shortage r cut.length)) ∧
    (∀ bytes e, decodeResponse bytes = .error e ↔ ∃ field needed available,
      e = .truncated field needed available ∧ Lacks bytes field needed available) ∧
    (∀ bytes, ∃ position ≤ bytes.length,
      Reading.response bytes 0 = some (decodeResponse bytes, position) ∧
      ∀ field needed available,
        decodeResponse bytes = .error (.truncated field needed available) →
        available = bytes.length - position ∧ available < needed) := by
  refine ⟨fun _ _ => decodeResponse_eq_ok_iff, fun _ _ _ _ => eq_of_encodeResponse_append,
    length_encodeResponse, ?_, fun _ _ => decodeResponse_eq_error_iff, reading_response⟩
  intro r hr cut hbegins hne
  refine decodeResponse_cut hr hbegins (Nat.lt_of_le_of_ne hbegins.length_le ?_)
  exact fun hlength => hne (hbegins.eq_of_length hlength)

/-- A frame with the highest status, with bytes after it and cut off within its body. -/
theorem highest_status_is_read_and_cut :
    decodeResponse [255, 255, 2, 0, 0, 0, 7, 8, 9] = .ok ⟨65535, [7, 8]⟩ ∧
    decodeResponse [255, 255, 2, 0, 0, 0, 7] = .error (.truncated .body 2 1) ∧
    decodeResponse [255, 255, 2] = .error (.truncated .bodyLength 4 1) := by
  obtain ⟨hread, -, -, hcut, -⟩ := response_frames_are_responses
  have hr : (⟨65535, [7, 8]⟩ : Response).body.length ≤ maxField := by decide
  refine ⟨(hread _ _).mpr ⟨hr, [9], by decide⟩, ?_, ?_⟩
  · exact hcut _ hr [255, 255, 2, 0, 0, 0, 7] ⟨[8], by decide⟩ (by decide)
  · exact hcut _ hr [255, 255, 2] ⟨[0, 0, 0, 7, 8], by decide⟩ (by decide)

end RequestBridge.Frame
