import RequestBridge.Proofs.Frame.Exact

/-! Reading a frame with a position in a buffer.

The buffer stays as it is and a position moves over it (`Reading`). Such a reading comes to nothing
where it looks at what is not in the buffer. That of a request never does, its position never leaves
the buffer, and its answer is `decodeRequest` (`reading_request`). -/
namespace RequestBridge.Frame

/-- A reading of a buffer from a position on. It comes to an answer at a position, or to nothing at
all where it looks at what is not in the buffer. -/
abbrev Reading := ExceptT Error (StateT Nat Option)

namespace Reading

/-- How many bytes follow a position in the buffer. -/
def remaining (buffer : Bytes) (position : Nat) : Option Nat :=
  if position ≤ buffer.length then some (buffer.length - position) else none

/-- The bytes between two positions in the buffer. -/
def slice (buffer : Bytes) (start stop : Nat) : Option Bytes :=
  if start ≤ stop ∧ stop ≤ buffer.length then some ((buffer.take stop).drop start) else none

def take (buffer : Bytes) (field : Field) (needed : Nat) : Reading Bytes := fun position => do
  let available ← remaining buffer position
  if available < needed then
    return (.error (.truncated field needed available), position)
  let word ← slice buffer position (position + needed)
  return (.ok word, position + needed)

def takeByte (buffer : Bytes) (field : Field) : Reading UInt8 := do
  let word ← take buffer field 1
  word[0]?

def takeLength (buffer : Bytes) (field : Field) : Reading Nat := do
  let word ← take buffer field 4
  return number [← word[0]?, ← word[1]?, ← word[2]?, ← word[3]?]

def method (buffer : Bytes) : Reading Method := do
  let code ← takeByte buffer .method
  match Method.ofCode? code with
  | some method => return method
  | none => throw (.unknownMethod code)

def path (buffer : Bytes) : Reading String := do
  let length ← takeLength buffer .pathLength
  let path ← take buffer .path length
  match Utf8.decode? path with
  | some text => return text
  | none => throw .invalidUtf8

def body (buffer : Bytes) : Reading Bytes := do
  let length ← takeLength buffer .bodyLength
  take buffer .body length

def request (limits : Limits) (buffer : Bytes) : Reading Request := do
  if limits.maxLength < buffer.length then
    throw (.tooLarge buffer.length limits.maxLength)
  return { method := ← method buffer, path := ← path buffer, body := ← body buffer }

end Reading

/-- From every position in the buffer the reading stays in the buffer, and takes what the reader takes
off the bytes that follow the position. Where it ends for want of bytes, it tells how many there
are. -/
def Agrees {α : Type} (buffer : Bytes) (reading : Reading α)
    (reader : Bytes → Except Error (α × Bytes)) : Prop :=
  ∀ position ≤ buffer.length, ∃ answer, ∃ next ≤ buffer.length,
    reading position = some (answer, next) ∧
    reader (buffer.drop position) = answer.map (·, buffer.drop next) ∧
    ∀ field needed available, answer = .error (.truncated field needed available) →
      available = buffer.length - next ∧ available < needed

namespace Agrees
variable {α β : Type} {buffer : Bytes}

theorem pure (value : α) : Agrees buffer (Pure.pure value) fun bytes => .ok (value, bytes) :=
  fun position h => ⟨.ok value, position, h, rfl, rfl, nofun⟩

theorem bind {reading : Reading α} {reader : Bytes → Except Error (α × Bytes)}
    {f : α → Reading β} {k : α → Bytes → Except Error (β × Bytes)}
    (h : Agrees buffer reading reader)
    (h' : ∀ value bytes rest, reader bytes = .ok (value, rest) →
      Agrees buffer (f value) (k value)) :
    Agrees buffer (reading >>= f) fun bytes => reader bytes >>= fun taken => k taken.1 taken.2 := by
  intro position hposition
  obtain ⟨answer, next, hnext, hreading, hreader, htruncated⟩ := h position hposition
  have hstep : (reading >>= f) position = ExceptT.bindCont f answer next := by
    show (reading position).bind (fun x => ExceptT.bindCont f x.1 x.2) = _
    rw [hreading]
    rfl
  -- After an error the position stays where it is, and so does what is left.
  cases answer with
  | error e =>
    refine ⟨.error e, next, hnext, hstep, ?_, fun field needed available h => ?_⟩
    · show reader (buffer.drop position) >>= _ = _
      rw [hreader]
      rfl
    · cases h
      exact htruncated field needed available rfl
  | ok value =>
    obtain ⟨answer', next', hnext', hreading', hreader', htruncated'⟩ :=
      h' value _ _ hreader next hnext
    refine ⟨answer', next', hnext', hstep.trans hreading', ?_, htruncated'⟩
    show reader (buffer.drop position) >>= _ = _
    rw [hreader]
    exact hreader'

theorem throw {e : Error} (h : ∀ field needed available, e ≠ .truncated field needed available) :
    Agrees buffer (MonadExcept.throw e : Reading α) fun _ => .error e :=
  fun position hposition =>
    ⟨.error e, position, hposition, rfl, rfl, fun field needed available h' => by
      cases h'
      exact absurd rfl (h field needed available)⟩

theorem take (field : Field) (needed : Nat) :
    Agrees buffer (Reading.take buffer field needed) (Frame.take field needed) := by
  intro position hposition
  have hremaining : Reading.remaining buffer position = some (buffer.length - position) :=
    if_pos hposition
  have hdrop : (buffer.drop position).length = buffer.length - position := List.length_drop
  by_cases hshort : buffer.length - position < needed
  · refine ⟨.error (.truncated field needed (buffer.length - position)), position, hposition, ?_,
      ?_, fun _ _ _ h => ?_⟩
    · simp [Reading.take, hremaining, hshort]
    · rw [Frame.take, hdrop, if_pos hshort]
      rfl
    · cases h
      exact ⟨rfl, hshort⟩
  · have hslice : Reading.slice buffer position (position + needed) =
        some ((buffer.take (position + needed)).drop position) := if_pos (by omega)
    refine ⟨.ok ((buffer.drop position).take needed), position + needed, by omega, ?_, ?_, nofun⟩
    · simp [Reading.take, hremaining, hshort, hslice, List.drop_take]
    · rw [Frame.take, hdrop, if_neg hshort, List.drop_drop]
      rfl

theorem takeByte (field : Field) :
    Agrees buffer (Reading.takeByte buffer field) fun bytes =>
      Frame.take field 1 bytes >>= fun taken => .ok (taken.1.headD 0, taken.2) := by
  refine (Agrees.take field 1).bind (k := fun word rest => .ok (word.headD 0, rest))
    fun word bytes rest h => ?_
  obtain ⟨code, rfl⟩ := List.length_eq_one_iff.mp (take_eq_ok_iff.mp h).1
  exact Agrees.pure code

theorem takeLength (field : Field) :
    Agrees buffer (Reading.takeLength buffer field) (takeNumber field 4) := by
  have hsteps : takeNumber field 4 = fun bytes =>
      Frame.take field 4 bytes >>= fun taken => .ok (number taken.1, taken.2) := by
    funext bytes
    unfold takeNumber
    cases Frame.take field 4 bytes <;> rfl
  rw [hsteps]
  refine (Agrees.take field 4).bind (k := fun word rest => .ok (number word, rest))
    fun word bytes rest h => ?_
  match word, (take_eq_ok_iff.mp h).1 with
  | [b₀, b₁, b₂, b₃], _ => exact Agrees.pure (number [b₀, b₁, b₂, b₃])

theorem method : Agrees buffer (Reading.method buffer) takeMethod := by
  have hsteps : takeMethod = fun bytes =>
      (Frame.take .method 1 bytes >>= fun taken => .ok (taken.1.headD 0, taken.2)) >>= fun taken =>
        match Method.ofCode? taken.1 with
        | some method => .ok (method, taken.2)
        | none => .error (.unknownMethod taken.1) := by
    funext bytes
    unfold takeMethod
    cases Frame.take .method 1 bytes <;> rfl
  rw [hsteps]
  refine (Agrees.takeByte .method).bind (k := fun code rest =>
    match Method.ofCode? code with
    | some method => .ok (method, rest)
    | none => .error (.unknownMethod code)) fun code _ _ _ => ?_
  cases Method.ofCode? code with
  | some method => exact Agrees.pure method
  | none => exact Agrees.throw nofun

theorem path : Agrees buffer (Reading.path buffer) takePath := by
  refine (Agrees.takeLength .pathLength).bind (k := fun length rest =>
    Frame.take .path length rest >>= fun taken =>
      match Utf8.decode? taken.1 with
      | some text => .ok (text, taken.2)
      | none => .error .invalidUtf8) fun length _ _ _ => ?_
  refine (Agrees.take .path length).bind (k := fun path rest =>
    match Utf8.decode? path with
    | some text => .ok (text, rest)
    | none => .error .invalidUtf8) fun path _ _ _ => ?_
  cases Utf8.decode? path with
  | some text => exact Agrees.pure text
  | none => exact Agrees.throw nofun

theorem body : Agrees buffer (Reading.body buffer) takeBody :=
  (Agrees.takeLength .bodyLength).bind fun length _ _ _ => Agrees.take .body length

theorem request {limits : Limits} (hlimit : buffer.length ≤ limits.maxLength) :
    Agrees buffer (Reading.request limits buffer) takeRequest := by
  rw [Reading.request, if_neg (Nat.not_lt.mpr hlimit)]
  refine Agrees.method.bind (k := fun method rest =>
    takePath rest >>= fun path =>
      takeBody path.2 >>= fun body => .ok (Request.mk method path.1 body.1, body.2))
    fun method _ _ _ => ?_
  refine Agrees.path.bind (k := fun path rest =>
    takeBody rest >>= fun body => .ok (Request.mk method path body.1, body.2)) fun path _ _ _ => ?_
  exact Agrees.body.bind (k := fun body rest => .ok (Request.mk method path body, rest))
    fun body _ _ _ => Agrees.pure _

end Agrees

/-- The reading with a position never looks outside the buffer and comes to what the request is
decoded to. -/
theorem reading_request (limits : Limits) (buffer : Bytes) :
    ∃ position ≤ buffer.length,
      Reading.request limits buffer 0 = some (decodeRequest limits buffer, position) ∧
      ∀ field needed available,
        decodeRequest limits buffer = .error (.truncated field needed available) →
        available = buffer.length - position ∧ available < needed := by
  by_cases hlong : limits.maxLength < buffer.length
  · have hdecode : decodeRequest limits buffer = .error (.tooLarge buffer.length limits.maxLength) := by
      rw [decodeRequest_eq, if_pos hlong]
    refine ⟨0, Nat.zero_le _, ?_, ?_⟩
    · rw [hdecode, Reading.request, if_pos hlong]
      rfl
    · rw [hdecode]
      nofun
  · obtain ⟨answer, position, hposition, hreading, hreader, htruncated⟩ :=
      Agrees.request (Nat.not_lt.mp hlong) 0 (Nat.zero_le _)
    have hdecode : decodeRequest limits buffer = answer := by
      rw [decodeRequest_eq, if_neg hlong, ← List.drop_zero (l := buffer), hreader]
      cases answer <;> rfl
    rw [hdecode]
    exact ⟨position, hposition, hreading, htruncated⟩

end RequestBridge.Frame
