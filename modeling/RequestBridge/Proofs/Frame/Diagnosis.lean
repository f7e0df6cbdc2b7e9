import RequestBridge.Proofs.Frame.Cursor

/-! What is wrong with bytes that are no request frame.

The fields are checked in their order, and the first that fails is what is told (`Fails`). Where
bytes are missing, that is the field that is cut off, with the bytes that are there of it
(`Request.truncation`). -/
namespace RequestBridge.Frame

/-- Why the fields of a request cannot be read. All that stands before the field in question is
complete and right. -/
inductive Fails : Bytes → Error → Prop
  | method : Fails [] (.truncated .method 1 0)
  | unknownMethod {code : UInt8} {rest : Bytes} (hcode : ∀ m : Method, m.code ≠ code) :
      Fails (code :: rest) (.unknownMethod code)
  | pathLength {m : Method} {rest : Bytes} (hshort : rest.length < 4) :
      Fails (m.code :: rest) (.truncated .pathLength 4 rest.length)
  | path {m : Method} {n : Nat} {rest : Bytes} (hn : n < 256 ^ 4) (hshort : rest.length < n) :
      Fails (m.code :: (digits 4 n ++ rest)) (.truncated .path n rest.length)
  | text {m : Method} {path rest : Bytes} (hn : path.length < 256 ^ 4)
      (htext : ∀ s, Utf8.encode s ≠ path) :
      Fails (m.code :: (digits 4 path.length ++ path ++ rest)) .invalidUtf8
  | bodyLength {m : Method} {path : String} {rest : Bytes}
      (hpath : (Utf8.encode path).length ≤ maxField) (hshort : rest.length < 4) :
      Fails (m.code :: (lengthDigits (Utf8.encode path) ++ Utf8.encode path ++ rest))
        (.truncated .bodyLength 4 rest.length)
  | body {m : Method} {path : String} {n : Nat} {rest : Bytes}
      (hpath : (Utf8.encode path).length ≤ maxField) (hn : n < 256 ^ 4)
      (hshort : rest.length < n) :
      Fails (m.code :: (lengthDigits (Utf8.encode path) ++ Utf8.encode path ++
        (digits 4 n ++ rest))) (.truncated .body n rest.length)

/-! ### Failing fields -/

/-- A reading with a further step fails in its first step or in the further one. -/
theorem bind_eq_error_iff {ε α β : Type} {x : Except ε α} {f : α → Except ε β} {e : ε} :
    (x >>= f) = .error e ↔ x = .error e ∨ ∃ a, x = .ok a ∧ f a = .error e := by
  cases x with
  | error e' =>
    constructor
    · intro h
      cases h
      exact .inl rfl
    · rintro (h | ⟨_, h, _⟩)
      · cases h
        rfl
      · cases h
  | ok a =>
    constructor
    · exact fun h => .inr ⟨a, rfl, h⟩
    · rintro (h | ⟨_, h, hf⟩)
      · cases h
      · cases h
        exact hf

theorem takeNumber_eq_error_iff {field : Field} {width : Nat} {bytes : Bytes} {e : Error} :
    takeNumber field width bytes = .error e ↔
      bytes.length < width ∧ e = .truncated field width bytes.length := by
  rw [← take_eq_error_iff, takeNumber]
  cases take field width bytes with
  | error e' => simp only [Except.map, Except.error.injEq]
  | ok taken => simp only [Except.map, reduceCtorEq]

theorem ofCode?_eq_none_iff {code : UInt8} :
    Method.ofCode? code = none ↔ ∀ m : Method, m.code ≠ code := by
  rw [Option.eq_none_iff_forall_ne_some]
  exact forall_congr' fun m => not_congr (Method.ofCode?_eq_some_iff.trans eq_comm)

theorem decode?_eq_none_iff {bytes : Bytes} :
    Utf8.decode? bytes = none ↔ ∀ s, Utf8.encode s ≠ bytes := by
  rw [Option.eq_none_iff_forall_ne_some]
  refine forall_congr' fun s => not_congr ⟨Utf8.encode_of_decode?, ?_⟩
  rintro rfl
  exact Utf8.decode?_encode s

theorem takeMethod_eq_error_iff {bytes : Bytes} {e : Error} :
    takeMethod bytes = .error e ↔
      (bytes = [] ∧ e = .truncated .method 1 0) ∨
      ∃ code rest, bytes = code :: rest ∧ (∀ m : Method, m.code ≠ code) ∧
        e = .unknownMethod code := by
  cases bytes with
  | nil =>
    constructor
    · intro h
      cases h
      exact .inl ⟨rfl, rfl⟩
    · rintro (⟨_, rfl⟩ | ⟨_, _, h, _⟩)
      · rfl
      · cases h
  | cons code rest =>
    cases hcode : Method.ofCode? code with
    | some m =>
      obtain rfl := Method.ofCode?_eq_some_iff.mp hcode
      rw [takeMethod_cons]
      constructor
      · intro h
        cases h
      · rintro (⟨h, _⟩ | ⟨_, _, h, hunknown, _⟩)
        · cases h
        · cases h
          exact absurd rfl (hunknown m)
    | none =>
      have htake : take .method 1 (code :: rest) = .ok ([code], rest) :=
        take_append .method [code] rest
      have hread : takeMethod (code :: rest) = .error (.unknownMethod code) := by
        simp only [takeMethod, htake, bind, Except.bind, List.headD_cons, hcode]
      rw [hread]
      constructor
      · intro h
        cases h
        exact .inr ⟨code, rest, rfl, ofCode?_eq_none_iff.mp hcode, rfl⟩
      · rintro (⟨h, _⟩ | ⟨_, _, h, _, rfl⟩)
        · cases h
        · cases h
          rfl

theorem takeBody_eq_error_iff {bytes : Bytes} {e : Error} :
    takeBody bytes = .error e ↔
      (bytes.length < 4 ∧ e = .truncated .bodyLength 4 bytes.length) ∨
      ∃ n rest, n < 256 ^ 4 ∧ bytes = digits 4 n ++ rest ∧ rest.length < n ∧
        e = .truncated .body n rest.length := by
  constructor
  · intro h
    rcases bind_eq_error_iff.mp h with hlength | ⟨⟨n, rest⟩, hlength, hbody⟩
    · exact .inl (takeNumber_eq_error_iff.mp hlength)
    · obtain ⟨hn, rfl⟩ := takeNumber_eq_ok_iff.mp hlength
      obtain ⟨hshort, rfl⟩ := take_eq_error_iff.mp hbody
      exact .inr ⟨n, rest, hn, rfl, hshort, rfl⟩
  · rintro (hlength | ⟨n, rest, hn, rfl, hshort, rfl⟩)
    · exact bind_eq_error_iff.mpr (.inl (takeNumber_eq_error_iff.mpr hlength))
    · exact bind_eq_error_iff.mpr
        (.inr ⟨(n, rest), takeNumber_eq_ok_iff.mpr ⟨hn, rfl⟩, take_eq_error_iff.mpr ⟨hshort, rfl⟩⟩)

theorem takePath_eq_error_iff {bytes : Bytes} {e : Error} :
    takePath bytes = .error e ↔
      (bytes.length < 4 ∧ e = .truncated .pathLength 4 bytes.length) ∨
      (∃ n rest, n < 256 ^ 4 ∧ bytes = digits 4 n ++ rest ∧ rest.length < n ∧
        e = .truncated .path n rest.length) ∨
      ∃ path rest, path.length < 256 ^ 4 ∧ bytes = digits 4 path.length ++ path ++ rest ∧
        (∀ s, Utf8.encode s ≠ path) ∧ e = .invalidUtf8 := by
  constructor
  · intro h
    rcases bind_eq_error_iff.mp h with hlength | ⟨⟨n, left⟩, hlength, hnext⟩
    · exact .inl (takeNumber_eq_error_iff.mp hlength)
    obtain ⟨hn, rfl⟩ := takeNumber_eq_ok_iff.mp hlength
    rcases bind_eq_error_iff.mp hnext with hpath | ⟨⟨path, rest⟩, hpath, htext⟩
    · obtain ⟨hshort, rfl⟩ := take_eq_error_iff.mp hpath
      exact .inr (.inl ⟨n, left, hn, rfl, hshort, rfl⟩)
    obtain ⟨rfl, rfl⟩ := take_eq_ok_iff.mp hpath
    cases hdecode : Utf8.decode? path with
    | some text =>
      simp only [hdecode, reduceCtorEq] at htext
    | none =>
      simp only [hdecode, Except.error.injEq] at htext
      exact .inr (.inr ⟨path, rest, hn, (List.append_assoc ..).symm,
        decode?_eq_none_iff.mp hdecode, htext.symm⟩)
  · rintro (hlength | ⟨n, rest, hn, rfl, hshort, rfl⟩ | ⟨path, rest, hn, rfl, htext, rfl⟩)
    · exact bind_eq_error_iff.mpr (.inl (takeNumber_eq_error_iff.mpr hlength))
    · exact bind_eq_error_iff.mpr (.inr ⟨_, takeNumber_eq_ok_iff.mpr ⟨hn, rfl⟩,
        bind_eq_error_iff.mpr (.inl (take_eq_error_iff.mpr ⟨hshort, rfl⟩))⟩)
    · rw [List.append_assoc]
      refine bind_eq_error_iff.mpr (.inr ⟨_, takeNumber_eq_ok_iff.mpr ⟨hn, rfl⟩,
        bind_eq_error_iff.mpr (.inr ⟨(path, rest), take_eq_ok_iff.mpr ⟨rfl, rfl⟩, ?_⟩)⟩)
      simp only [decode?_eq_none_iff.mpr htext]

/-! ### Failing requests -/

/-- The fields of a request are read in their order, up to the first that fails. -/
theorem takeRequest_eq_error_iff {bytes : Bytes} {e : Error} :
    takeRequest bytes = .error e ↔ Fails bytes e := by
  constructor
  · intro h
    rcases bind_eq_error_iff.mp h with hmethod | ⟨⟨m, left⟩, hmethod, hnext⟩
    · rcases takeMethod_eq_error_iff.mp hmethod with ⟨rfl, rfl⟩ | ⟨code, rest, rfl, hcode, rfl⟩
      · exact .method
      · exact .unknownMethod hcode
    obtain rfl := takeMethod_eq_ok_iff.mp hmethod
    rcases bind_eq_error_iff.mp hnext with hpath | ⟨⟨path, left'⟩, hpath, hlast⟩
    · rcases takePath_eq_error_iff.mp hpath with
        ⟨hshort, rfl⟩ | ⟨n, rest, hn, rfl, hshort, rfl⟩ | ⟨path, rest, hn, rfl, htext, rfl⟩
      · exact .pathLength hshort
      · exact .path hn hshort
      · exact .text hn htext
    obtain ⟨hfits, rfl⟩ := takePath_eq_ok_iff.mp hpath
    rcases bind_eq_error_iff.mp hlast with hbody | ⟨_, _, hdone⟩
    · rcases takeBody_eq_error_iff.mp hbody with ⟨hshort, rfl⟩ | ⟨n, rest, hn, rfl, hshort, rfl⟩
      · exact .bodyLength hfits hshort
      · exact .body hfits hn hshort
    · cases hdone
  · intro h
    have hpathFails : ∀ {m : Method} {left : Bytes} {e : Error}, takePath left = .error e →
        takeRequest (m.code :: left) = .error e := fun hpath =>
      bind_eq_error_iff.mpr (.inr ⟨_, takeMethod_eq_ok_iff.mpr rfl, bind_eq_error_iff.mpr (.inl hpath)⟩)
    have hbodyFails : ∀ {m : Method} {path : String} {left : Bytes} {e : Error},
        (Utf8.encode path).length ≤ maxField → takeBody left = .error e →
        takeRequest (m.code :: (lengthDigits (Utf8.encode path) ++ Utf8.encode path ++ left)) =
          .error e := fun hfits hbody =>
      bind_eq_error_iff.mpr (.inr ⟨_, takeMethod_eq_ok_iff.mpr rfl, bind_eq_error_iff.mpr
        (.inr ⟨_, takePath_eq_ok_iff.mpr ⟨hfits, rfl⟩, bind_eq_error_iff.mpr (.inl hbody)⟩)⟩)
    cases h with
    | method => rfl
    | unknownMethod hcode =>
      exact bind_eq_error_iff.mpr
        (.inl (takeMethod_eq_error_iff.mpr (.inr ⟨_, _, rfl, hcode, rfl⟩)))
    | pathLength hshort => exact hpathFails (takePath_eq_error_iff.mpr (.inl ⟨hshort, rfl⟩))
    | path hn hshort =>
      exact hpathFails (takePath_eq_error_iff.mpr (.inr (.inl ⟨_, _, hn, rfl, hshort, rfl⟩)))
    | text hn htext =>
      exact hpathFails (takePath_eq_error_iff.mpr (.inr (.inr ⟨_, _, hn, rfl, htext, rfl⟩)))
    | bodyLength hfits hshort =>
      exact hbodyFails hfits (takeBody_eq_error_iff.mpr (.inl ⟨hshort, rfl⟩))
    | body hfits hn hshort =>
      exact hbodyFails hfits (takeBody_eq_error_iff.mpr (.inr ⟨_, _, hn, rfl, hshort, rfl⟩))

theorem decodeRequest_eq_error_iff {limits : Limits} {bytes : Bytes} {e : Error} :
    decodeRequest limits bytes = .error e ↔
      (limits.maxLength < bytes.length ∧ e = .tooLarge bytes.length limits.maxLength) ∨
      (bytes.length ≤ limits.maxLength ∧ Fails bytes e) := by
  rw [decodeRequest_eq, ← takeRequest_eq_error_iff]
  split
  · next hlong =>
    have hnot : ¬ bytes.length ≤ limits.maxLength := Nat.not_le.mpr hlong
    simp only [hlong, hnot, true_and, false_and, or_false, Except.error.injEq, eq_comm]
  · next hlong =>
    simp only [hlong, Nat.not_lt.mp hlong, true_and, false_and, false_or]
    cases takeRequest bytes with
    | error e' => simp only [Except.map, Except.error.injEq]
    | ok taken => simp only [Except.map, reduceCtorEq]

/-! ### Frames cut off -/

/-- What is missing from the frame of a request that is cut off after so many bytes. -/
def truncation (r : Request) (length : Nat) : Error :=
  let path := (Utf8.encode r.path).length
  if length = 0 then .truncated .method 1 0
  else if length < 5 then .truncated .pathLength 4 (length - 1)
  else if length < 5 + path then .truncated .path path (length - 5)
  else if length < 9 + path then .truncated .bodyLength 4 (length - 5 - path)
  else .truncated .body r.body.length (length - 9 - path)

/-- What begins bytes of two parts either ends in the first part or begins the second one. -/
theorem short_or_append_of_prefix {front part rest : Bytes} (h : front <+: part ++ rest) :
    front.length < part.length ∨ ∃ more, front = part ++ more ∧ more <+: rest := by
  by_cases hshort : front.length < part.length
  · exact .inl hshort
  · obtain ⟨more, rfl⟩ := List.prefix_of_prefix_length_le (List.prefix_append part rest) h
      (Nat.not_lt.mp hshort)
    exact .inr ⟨more, rfl, (List.prefix_append_right_inj part).mp h⟩

/-- A frame that is cut off fails in the field in which it is cut. -/
theorem fails_truncation {r : Request} (hr : Fits r) {cut : Bytes} (hcut : cut <+: encodeRequest r)
    (hshort : cut.length < (encodeRequest r).length) : Fails cut (truncation r cut.length) := by
  have hpath : (Utf8.encode r.path).length < 256 ^ 4 := Nat.lt_of_le_of_lt hr.path (by decide)
  have hbody : r.body.length < 256 ^ 4 := Nat.lt_of_le_of_lt hr.body (by decide)
  have hframe := (encodeRequest_append r []).symm
  rw [List.append_nil, List.append_nil] at hframe
  rw [length_encodeRequest] at hshort
  rw [← hframe] at hcut
  cases cut with
  | nil => exact .method
  | cons code left =>
    obtain ⟨rfl, hleft⟩ := List.cons_prefix_cons.mp hcut
    rw [List.append_assoc] at hleft
    rw [List.length_cons] at hshort ⊢
    -- The cut is in the length of the path, or else in what follows, and so on to the body.
    rcases short_or_append_of_prefix hleft with hcut | ⟨left₁, rfl, hleft₁⟩
    · rw [length_lengthDigits] at hcut
      have herror : truncation r (left.length + 1) = .truncated .pathLength 4 left.length := by
        grind [truncation]
      rw [herror]
      exact .pathLength hcut
    rw [List.length_append, length_lengthDigits] at hshort ⊢
    rcases short_or_append_of_prefix hleft₁ with hcut | ⟨left₂, rfl, hleft₂⟩
    · have herror : truncation r (4 + left₁.length + 1) =
          .truncated .path (Utf8.encode r.path).length left₁.length := by
        grind [truncation]
      rw [herror, lengthDigits_of_le hr.path]
      exact .path hpath hcut
    rw [List.length_append] at hshort ⊢
    rw [← List.append_assoc]
    rcases short_or_append_of_prefix hleft₂ with hcut | ⟨left₃, rfl, hleft₃⟩
    · rw [length_lengthDigits] at hcut
      have herror : truncation r (4 + ((Utf8.encode r.path).length + left₂.length) + 1) =
          .truncated .bodyLength 4 left₂.length := by
        grind [truncation]
      rw [herror]
      exact .bodyLength hr.path hcut
    rw [List.length_append, length_lengthDigits] at hshort ⊢
    have herror : truncation r (4 + ((Utf8.encode r.path).length + (4 + left₃.length)) + 1) =
        .truncated .body r.body.length left₃.length := by
      grind [truncation]
    rw [herror, lengthDigits_of_le hr.body]
    exact .body hr.path hbody (by omega)

/-- A frame that is cut off names the field in which it is cut, and less is left of this than it
needs. -/
theorem truncation_short {r : Request} {length : Nat}
    (hshort : length < (encodeRequest r).length) : ∃ field needed available,
      truncation r length = .truncated field needed available ∧ available < needed := by
  rw [length_encodeRequest] at hshort
  unfold truncation
  dsimp only
  split
  · exact ⟨_, _, _, rfl, Nat.one_pos⟩
  split
  · exact ⟨_, _, _, rfl, by omega⟩
  split
  · exact ⟨_, _, _, rfl, by omega⟩
  split
  · exact ⟨_, _, _, rfl, by omega⟩
  · exact ⟨_, _, _, rfl, by omega⟩

/-! ### The law -/

/-- What is no request frame is told for what it is. The reading never looks outside the bytes, where
they are too many for the limit it says so, and otherwise names the first field that fails. A field
that is cut off is told with the bytes that it needs and those that are left of it, which are fewer.
So every frame that is read, if it is cut off, fails in the field in which it is cut. -/
theorem decodeRequest_diagnoses (limits : Limits) :
    (∀ bytes, ∃ position ≤ bytes.length,
      Reading.request limits bytes 0 = some (decodeRequest limits bytes, position) ∧
      ∀ field needed available,
        decodeRequest limits bytes = .error (.truncated field needed available) →
        available = bytes.length - position ∧ available < needed) ∧
    (∀ bytes e, decodeRequest limits bytes = .error e ↔
      (limits.maxLength < bytes.length ∧ e = .tooLarge bytes.length limits.maxLength) ∨
      (bytes.length ≤ limits.maxLength ∧ Fails bytes e)) ∧
    (∀ bytes r, decodeRequest limits bytes = .ok r → ∀ cut, cut <+: bytes →
      cut.length < (encodeRequest r).length →
      decodeRequest limits cut = .error (truncation r cut.length)) ∧
    (∀ r, decodeRequest limits (encodeRequest r) = .ok r → ∀ cut, cut <+: encodeRequest r →
      cut ≠ encodeRequest r → ∃ field needed available,
        decodeRequest limits cut = .error (.truncated field needed available) ∧
        available < needed) := by
  have hcut : ∀ bytes r, decodeRequest limits bytes = .ok r → ∀ cut, cut <+: bytes →
      cut.length < (encodeRequest r).length →
      decodeRequest limits cut = .error (truncation r cut.length) := by
    intro bytes r h cut hbegins hshort
    obtain ⟨hlimit, rest, htake⟩ := decodeRequest_eq_ok_iff.mp h
    obtain ⟨hr, rfl⟩ := takeRequest_eq_ok_iff.mp htake
    have hframe : cut <+: encodeRequest r :=
      List.prefix_of_prefix_length_le hbegins (List.prefix_append _ rest) (Nat.le_of_lt hshort)
    exact decodeRequest_eq_error_iff.mpr
      (.inr ⟨Nat.le_trans hbegins.length_le hlimit, fails_truncation hr hframe hshort⟩)
  refine ⟨reading_request limits, fun _ _ => decodeRequest_eq_error_iff, hcut, ?_⟩
  intro r h cut hbegins hne
  have hshort : cut.length < (encodeRequest r).length :=
    Nat.lt_of_le_of_ne hbegins.length_le fun h => hne (hbegins.eq_of_length h)
  obtain ⟨field, needed, available, herror, hless⟩ := truncation_short hshort
  exact ⟨field, needed, available, herror ▸ hcut _ r h cut hbegins hshort, hless⟩

/-- A frame that is cut off within the one character of its path. -/
theorem decodeRequest_diagnoses_cut_character :
    decodeRequest ⟨12⟩ [0, 2, 0, 0, 0, 0xC3] = .error (.truncated .path 2 1) ∧
    decodeRequest ⟨12⟩ [0, 2, 0, 0, 0, 0xC3, 0x28] = .error .invalidUtf8 := by
  obtain ⟨-, hfails, hcut, -⟩ := decodeRequest_diagnoses ⟨12⟩
  have hread : decodeRequest ⟨12⟩ [0, 2, 0, 0, 0, 0xC3, 0xA9, 1, 0, 0, 0, 7] =
      .ok ⟨.get, "é", [7]⟩ :=
    decodeRequest_eq_ok_iff.mpr ⟨by decide, [],
      takeRequest_eq_ok_iff.mpr ⟨⟨by decide +kernel, by decide⟩, by decide +kernel⟩⟩
  have htext : ∀ s, Utf8.encode s ≠ [0xC3, 0x28] := decode?_eq_none_iff.mp (by decide +kernel)
  constructor
  · exact hcut _ _ hread [0, 2, 0, 0, 0, 0xC3] ⟨_, rfl⟩ (by decide +kernel)
  · exact (hfails _ _).mpr (.inr ⟨by decide, .text (m := .get) (by decide) htext⟩)

end RequestBridge.Frame
