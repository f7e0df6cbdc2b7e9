import RequestBridge.Proofs.Config.Forms
import RequestBridge.Proofs.Config.Sources

/-! What documents denote.

The schema is a table of sections, each of which is a table of settings, with the form that each
setting has. What a document denotes is said by the keys alone (`Denoted`): each setting has the
value that stands under its key in its section, or its default. Readings of sections keep to
the rows of the schema, and so does the reading of a whole document (`ofDocument_keeps`). A
document denotes one configuration at most (`Denoted.unique`), and the same one in any order
(`Reordered.value?`, `Denoted.congr`), so that a text loads what its document denotes. -/
namespace RequestBridge.Config
variable (format : Format)

/-! ### The schema -/

def serverRows : List (String × Form) := [("port", .number (Nat.pow 2 16))]

def workersRows : List (String × Form) :=
  [("worker_threads", .optionalNumber (Nat.pow 2 64)), ("thread_name", .text),
    ("thread_stack_size", .optionalNumber (Nat.pow 2 64))]

def framesRows : List (String × Form) := [("max_frame_len", .number (Nat.pow 2 64))]

def loggingRows : List (String × Form) :=
  [("enabled", .flag), ("level", .text), ("format", .choice ["json", "pretty"]),
    ("include_location", .flag), ("thread_ids", .flag)]

/-- The sections of a configuration, and the settings of each. -/
def sectionRows : List (String × Form) :=
  [("server", .table serverRows), ("runtime", .table workersRows), ("frame", .table framesRows),
    ("logging", .table loggingRows)]

/-! ### What a document denotes -/

/-- The table under a key, which is empty if nothing is there. -/
def tableAt (document : Document) (key : String) : Document :=
  (document.value? key).getD (.table [] .closed)

structure Server.Denoted (document : Document) (s : Server) : Prop where
  port : Settled (document.value? "port") (Written fun port : UInt16 => .integer port.toNat)
    8080 s.port

structure Workers.Denoted (document : Document) (w : Workers) : Prop where
  threads : Settled (document.value? "worker_threads") (Written optionalSize) none w.threads
  threadName : Settled (document.value? "thread_name") (Written .text) "kiri-worker" w.threadName
  stackSize : Settled (document.value? "thread_stack_size") (Written optionalSize) none w.stackSize

structure Frames.Denoted (document : Document) (f : Frames) : Prop where
  maxLength : Settled (document.value? "max_frame_len") (Written fun n : Nat => .integer n)
    16777216 f.maxLength

structure Logging.Denoted (document : Document) (l : Logging) : Prop where
  enabled : Settled (document.value? "enabled") (Written .boolean) true l.enabled
  level : Settled (document.value? "level") (Written .text) "info" l.level
  format : Settled (document.value? "format") (Written fun f : LogFormat => .text f.name)
    .json l.format
  location : Settled (document.value? "include_location") (Written .boolean) false l.location
  threadIds : Settled (document.value? "thread_ids") (Written .boolean) false l.threadIds

/-- Each setting has the value that stands under its key in its section, or its default. -/
structure Denoted (document : Document) (c : Config) : Prop where
  server : Server.Denoted (tableAt document "server") c.server
  workers : Workers.Denoted (tableAt document "runtime") c.workers
  frames : Frames.Denoted (tableAt document "frame") c.frames
  logging : Logging.Denoted (tableAt document "logging") c.logging

/-! ### Readings of sections -/

theorem Server.keeps : Keeps (Server.record.read format {}) (.table serverRows) Server.Denoted :=
  Record.keeps_table (.cons (readWord_keeps.sets _ _) .nil) fun document s htakes hread =>
    { port := Record.settled "port" Server.port (by simp [Server.record])
        readWord_keeps rfl htakes hread }

theorem Workers.keeps :
    Keeps (Workers.record.read format {}) (.table workersRows) Workers.Denoted :=
  Record.keeps_table
    (.cons (readOptionalSize_keeps.sets _ _) <| .cons (readText_keeps.sets _ _) <|
      .cons (readOptionalSize_keeps.sets _ _) .nil)
    fun document w htakes hread =>
    { threads := Record.settled "worker_threads" Workers.threads (by simp [Workers.record])
        readOptionalSize_keeps rfl htakes hread
      threadName := Record.settled "thread_name" Workers.threadName (by simp [Workers.record])
        readText_keeps rfl htakes hread
      stackSize := Record.settled "thread_stack_size" Workers.stackSize (by simp [Workers.record])
        readOptionalSize_keeps rfl htakes hread }

theorem Frames.keeps : Keeps (Frames.record.read format {}) (.table framesRows) Frames.Denoted :=
  Record.keeps_table (.cons (readSize_keeps.sets _ _) .nil) fun document f htakes hread =>
    { maxLength := Record.settled "max_frame_len" Frames.maxLength (by simp [Frames.record])
        readSize_keeps rfl htakes hread }

theorem Logging.keeps :
    Keeps ((Logging.record format).read format {}) (.table loggingRows) Logging.Denoted :=
  Record.keeps_table
    (.cons (readBoolean_keeps.sets _ _) <| .cons (readText_keeps.sets _ _) <|
      .cons ((readLogFormat_keeps format).sets _ _) <| .cons (readBoolean_keeps.sets _ _) <|
      .cons (readBoolean_keeps.sets _ _) .nil)
    fun document s htakes hread =>
    { enabled := Record.settled "enabled" Logging.enabled (by simp [Logging.record])
        readBoolean_keeps rfl htakes hread
      level := Record.settled "level" Logging.level (by simp [Logging.record])
        readText_keeps rfl htakes hread
      format := Record.settled "format" Logging.format (by simp [Logging.record])
        (readLogFormat_keeps format) rfl htakes hread
      location := Record.settled "include_location" Logging.location (by simp [Logging.record])
        readBoolean_keeps rfl htakes hread
      threadIds := Record.settled "thread_ids" Logging.threadIds (by simp [Logging.record])
        readBoolean_keeps rfl htakes hread }

/-- A section that is not there denotes what an empty one does. -/
theorem Settled.tableAt {α : Type} {document : Document} {key : String}
    {means : Document → α → Prop} {default value : α}
    (h : Settled (document.value? key) means default value)
    (hempty : means (.table [] .closed) default) : means (tableAt document key) value := by
  unfold Config.tableAt
  cases hentry : document.value? key with
  | none =>
    rw [hentry] at h
    cases h
    exact hempty
  | some found =>
    rw [hentry] at h
    exact h

theorem ofDocument_keeps : Keeps (ofDocument format) (.table sectionRows) Denoted :=
  Record.keeps_table
    (.cons ((Server.keeps format).sets _ _) <| .cons ((Workers.keeps format).sets _ _) <|
      .cons ((Frames.keeps format).sets _ _) <| .cons ((Logging.keeps format).sets _ _) .nil)
    fun document c htakes hread =>
    { server := (Record.settled "server" Config.server (by simp [record])
        (Server.keeps format) rfl htakes hread).tableAt ⟨rfl⟩
      workers := (Record.settled "runtime" Config.workers (by simp [record])
        (Workers.keeps format) rfl htakes hread).tableAt ⟨rfl, rfl, rfl⟩
      frames := (Record.settled "frame" Config.frames (by simp [record])
        (Frames.keeps format) rfl htakes hread).tableAt ⟨rfl⟩
      logging := (Record.settled "logging" Config.logging (by simp [record])
        (Logging.keeps format) rfl htakes hread).tableAt ⟨rfl, rfl, rfl, rfl, rfl⟩ }

/-! ### One configuration -/

theorem wordNumber_injective (a b : UInt16)
    (h : Document.integer a.toNat = .integer b.toNat) : a = b :=
  UInt16.toNat_inj.mp (Int.ofNat.inj (Document.integer.inj h))

theorem sizeNumber_injective (a b : Nat) (h : Document.integer a = .integer b) : a = b :=
  Int.ofNat.inj (Document.integer.inj h)

theorem optionalSize_injective (a b : Option Nat) (h : optionalSize a = optionalSize b) :
    a = b := by
  cases a with
  | none => cases b <;> trivial
  | some m =>
    cases b with
    | none => cases h
    | some n => rw [sizeNumber_injective m n h]

theorem formatName_injective (a b : LogFormat) (h : Document.text a.name = .text b.name) :
    a = b := by
  cases a <;> cases b <;> simp_all [LogFormat.name]

/-- A document denotes one configuration at most. -/
theorem Denoted.unique {document : Document} {c d : Config} (hc : Denoted document c)
    (hd : Denoted document d) : c = d := by
  obtain ⟨⟨port⟩, ⟨threads, threadName, stackSize⟩, ⟨maxLength⟩,
    ⟨enabled, level, format, location, threadIds⟩⟩ := c
  obtain ⟨⟨port'⟩, ⟨threads', threadName', stackSize'⟩, ⟨maxLength'⟩,
    ⟨enabled', level', format', location', threadIds'⟩⟩ := d
  have hboolean : ∀ a b : Bool, Document.boolean a = .boolean b → a = b :=
    fun _ _ => Document.boolean.inj
  have htext : ∀ a b : String, Document.text a = .text b → a = b := fun _ _ => Document.text.inj
  obtain rfl := hc.server.port.unique wordNumber_injective hd.server.port
  obtain rfl := hc.workers.threads.unique optionalSize_injective hd.workers.threads
  obtain rfl := hc.workers.threadName.unique htext hd.workers.threadName
  obtain rfl := hc.workers.stackSize.unique optionalSize_injective hd.workers.stackSize
  obtain rfl := hc.frames.maxLength.unique sizeNumber_injective hd.frames.maxLength
  obtain rfl := hc.logging.enabled.unique hboolean hd.logging.enabled
  obtain rfl := hc.logging.level.unique htext hd.logging.level
  obtain rfl := hc.logging.format.unique formatName_injective hd.logging.format
  obtain rfl := hc.logging.location.unique hboolean hd.logging.location
  obtain rfl := hc.logging.threadIds.unique hboolean hd.logging.threadIds
  rfl

/-! ### Order -/

/-- Documents that differ in the order of sections and in the order of keys within sections. -/
inductive Reordered : Document → Document → Prop where
  | refl (document : Document) : Reordered document document
  | sections {entries others : List (String × Document)} (h : entries.Perm others) :
      Reordered (.table entries .closed) (.table others .closed)
  | keys {before after : List (String × Document)} {name : String}
      {settings others : List (String × Document)} (h : settings.Perm others) :
      Reordered (.table (before ++ (name, .table settings .closed) :: after) .closed)
        (.table (before ++ (name, .table others .closed) :: after) .closed)
  | trans {a b c : Document} : Reordered a b → Reordered b c → Reordered a c

theorem lookup_perm {entries others : List (String × Document)} (h : entries.Perm others)
    (hdistinct : (entries.map (·.1)).Nodup) (key : String) :
    entries.lookup key = others.lookup key := by
  induction h with
  | nil => rfl
  | cons p _ ih =>
    obtain ⟨name, value⟩ := p
    rw [List.lookup_cons, List.lookup_cons, ih (List.nodup_cons.mp hdistinct).2]
  | swap p q rest =>
    obtain ⟨name, value⟩ := p
    obtain ⟨name', value'⟩ := q
    have hne : name' ≠ name := by
      rintro rfl
      simp at hdistinct
    simp only [List.lookup_cons]
    by_cases hkey : key = name
    · subst hkey
      simp [beq_false_of_ne (Ne.symm hne)]
    · simp [beq_false_of_ne hkey]
  | trans hfirst _ ihfirst ihsecond =>
    exact (ihfirst hdistinct).trans (ihsecond ((hfirst.map _).nodup_iff.mp hdistinct))

/-- A table is taken in any order. -/
theorem table_takes_perm {rows : List (String × Form)} {entries others : List (String × Document)}
    (h : entries.Perm others) (htakes : (Form.table rows).takes (.table entries .closed) = true) :
    (Form.table rows).takes (.table others .closed) = true := by
  obtain ⟨_, heq, hdistinct, hall⟩ := Form.table_takes_iff.mp htakes
  cases heq
  exact Form.table_takes_iff.mpr ⟨others, rfl, (h.map _).nodup_iff.mp hdistinct,
    fun p hp => hall p (h.mem_iff.mpr hp)⟩

/-- Every section that is taken is a table of settings that are taken. -/
theorem exists_rows_of_section {entries : List (String × Document)} {name : String}
    {document : Document}
    (htakes : (Form.table sectionRows).takes (.table entries .closed) = true)
    (hmem : (name, document) ∈ entries) :
    ∃ rows, sectionRows.lookup name = some (.table rows) ∧
      (Form.table rows).takes document = true := by
  obtain ⟨_, heq, -, hall⟩ := Form.table_takes_iff.mp htakes
  cases heq
  have hsection : (sectionRows.lookup name).any (·.takes document) = true := hall _ hmem
  cases hrow : sectionRows.lookup name with
  | none =>
    rw [hrow] at hsection
    cases hsection
  | some form =>
    rw [hrow] at hsection
    obtain ⟨before, after, hsplit, -⟩ := List.lookup_eq_some_iff.mp hrow
    have hform : (name, form) ∈ sectionRows := by simp [hsplit]
    simp only [sectionRows, List.mem_cons, Prod.mk.injEq, List.not_mem_nil, or_false] at hform
    rcases hform with ⟨-, rfl⟩ | ⟨-, rfl⟩ | ⟨-, rfl⟩ | ⟨-, rfl⟩ <;> exact ⟨_, rfl, hsection⟩

theorem Reordered.takes {document other : Document} (h : Reordered document other)
    (htakes : (Form.table sectionRows).takes document = true) :
    (Form.table sectionRows).takes other = true := by
  induction h with
  | refl => exact htakes
  | sections h => exact table_takes_perm h htakes
  | @keys before after name settings others h =>
    obtain ⟨rows, hrow, hsettings⟩ := exists_rows_of_section htakes
      (List.mem_append_right before List.mem_cons_self)
    obtain ⟨_, heq, hdistinct, hall⟩ := Form.table_takes_iff.mp htakes
    cases heq
    refine Form.table_takes_iff.mpr ⟨_, rfl, by simpa using hdistinct, fun p hp => ?_⟩
    rcases List.mem_append.mp hp with hp | hp
    · exact hall p (List.mem_append_left _ hp)
    · rcases List.mem_cons.mp hp with rfl | hp
      · simp only [hrow, Option.any_some]
        exact table_takes_perm h hsettings
      · exact hall p (List.mem_append_right _ (List.mem_cons_of_mem _ hp))
  | trans _ _ ihfirst ihsecond => exact ihsecond (ihfirst htakes)

/-- Every setting stands under its key of its section in any order. -/
theorem Reordered.value? {document other : Document} (h : Reordered document other)
    (htakes : (Form.table sectionRows).takes document = true) (name : String) :
    (tableAt document name).value? = (tableAt other name).value? := by
  induction h with
  | refl => rfl
  | sections h =>
    obtain ⟨_, heq, hdistinct, -⟩ := Form.table_takes_iff.mp htakes
    cases heq
    unfold tableAt
    simp only [Document.value?, lookup_perm h hdistinct]
  | @keys before after moved settings others h =>
    obtain ⟨rows, -, hsettings⟩ := exists_rows_of_section htakes
      (List.mem_append_right before List.mem_cons_self)
    obtain ⟨_, heq, hdistinct, -⟩ := Form.table_takes_iff.mp hsettings
    cases heq
    unfold tableAt
    simp only [Document.value?, List.lookup_append, List.lookup_cons]
    cases before.lookup name with
    | some found => rfl
    | none =>
      cases name == moved with
      | false => rfl
      | true => exact funext fun key => lookup_perm h hdistinct key
  | trans hfirst _ ihfirst ihsecond =>
    exact (ihfirst htakes).trans (ihsecond (hfirst.takes htakes))

/-- What a document denotes depends on nothing but what stands under the keys of its sections. -/
theorem Denoted.congr {document other : Document} {c : Config} (hc : Denoted document c)
    (h : ∀ name, (tableAt document name).value? = (tableAt other name).value?) :
    Denoted other c := by
  obtain ⟨⟨hport⟩, ⟨hthreads, hthreadName, hstackSize⟩, ⟨hmaxLength⟩,
    ⟨henabled, hlevel, hformat, hlocation, hthreadIds⟩⟩ := hc
  rw [h] at *
  exact ⟨⟨hport⟩, ⟨hthreads, hthreadName, hstackSize⟩, ⟨hmaxLength⟩,
    ⟨henabled, hlevel, hformat, hlocation, hthreadIds⟩⟩

/-! ### Texts -/

/-- A text is delivered as a document in a notation. -/
def Format.Delivers : Format → String → Document → Prop
  | .json, text, document => Json.read (Utf8.encode text) = (document, .ok ())
  | .toml, text, document => Toml.parse text = .ok document

theorem ofText_of_delivers {format : Format} {text : String} {document : Document}
    (h : format.Delivers text document) : ofText format text = ofDocument format document := by
  cases format with
  | json =>
    have hread : Json.read (Utf8.encode text) = (document, .ok ()) := h
    unfold ofText
    rw [hread]
    show (ofDocument .json document).bind _ = _
    cases ofDocument .json document <;> rfl
  | toml =>
    have hparse : Toml.parse text = .ok document := h
    unfold ofText
    rw [hparse]
    rfl

theorem gather_text {format : Format} {name text : String} {document : Document}
    (hname : Format.ofName? name = some format) (h : format.Delivers text document) :
    gather [.text text name] = (ofDocument format document).mapError (.content format) := by
  rw [Source.gather_singleton]
  show ofNamedText (Format.ofName? name) name text = _
  rw [hname, ← ofText_of_delivers h]
  rfl

/-! ### Documents denote configurations -/

/-- A document of the form of a configuration denotes one configuration, which either notation
reads from it in any order of sections and keys, and loads from any text of it. A document that
spoils the form is not read in either notation, and no text of it is loaded. -/
theorem documents_denote (document : Document) :
    ((Form.table sectionRows).takes document = true →
      ∃ c, Denoted document c ∧ (∀ d, Denoted document d → d = c) ∧
        ∀ other, Reordered document other → ∀ format,
          ofDocument format other = .ok c ∧
          ∀ name text, Format.ofName? name = some format → format.Delivers text other →
            gather [.text text name] = .ok c) ∧
    ((Form.table sectionRows).spoils document = true → ∀ format,
      ∃ e, ofDocument format document = .error e ∧
        ∀ name text, Format.ofName? name = some format → format.Delivers text document →
          gather [.text text name] = .error (.content format e) ∧
          load [.text text name] = .error (.content format e)) := by
  constructor
  · intro htakes
    obtain ⟨c, -, hdenoted⟩ := (ofDocument_keeps .json).reads htakes
    refine ⟨c, hdenoted, fun d hd => hd.unique hdenoted, fun other horder format => ?_⟩
    obtain ⟨d, hd, hother⟩ := (ofDocument_keeps format).reads (horder.takes htakes)
    obtain rfl := hother.unique (hdenoted.congr fun name => horder.value? htakes name)
    refine ⟨hd, fun name text hname htext => ?_⟩
    rw [gather_text hname htext, hd]
    rfl
  · intro hspoils format
    obtain ⟨e, he⟩ := (ofDocument_keeps format).fails hspoils
    refine ⟨e, he, fun name text hname htext => ?_⟩
    have hgather : gather [.text text name] = .error (.content format e) := by
      rw [gather_text hname htext, he]
      rfl
    exact ⟨hgather, load_of_gather_error hgather⟩

/-- A text in JSON that is read to its end delivers what was read. -/
theorem delivers_json {text : String} (h : (Json.read (Utf8.encode text)).2.toOption = some ()) :
    Format.Delivers .json text (Json.read (Utf8.encode text)).1 := by
  show Json.read _ = (_, .ok ())
  cases hread : Json.read (Utf8.encode text) with
  | mk document finish =>
    rw [hread] at h
    cases finish with
    | error f => cases h
    | ok u => rfl

def portText : String :=
  "\x7b\"runtime\":\x7b\"worker_threads\":null\x7d,\"server\":\x7b\"port\":3000\x7d\x7d"

def misspelt : String := "\x7b\"server\":\x7b\"prot\":3000\x7d\x7d"

/-- Two sections with nothing in them. -/
def emptySections (first second : String) : Document :=
  .table [(first, .table [] .closed), (second, .table [] .closed)] .closed

/-- A port and a null for a size are taken, the order of sections does not matter, and a misspelt
key spoils it all. -/
theorem port_is_denoted :
    (∃ c, gather [.text portText "JSON"] = .ok c ∧
      Denoted (Json.read (Utf8.encode portText)).1 c) ∧
    (∃ c, gather [.text "[frame]\n[server]" "toml"] = .ok c ∧
      gather [.text "[server]\n[frame]" "Toml"] = .ok c) ∧
    (∃ e, load [.text misspelt "json"] = .error (.content .json e)) := by
  refine ⟨?_, ?_, ?_⟩
  · obtain ⟨c, hdenoted, -, hloads⟩ :=
      (documents_denote (Json.read (Utf8.encode portText)).1).1 (by decide +kernel)
    have hname : Format.ofName? "JSON" = some .json := by decide +kernel
    have htext := @delivers_json portText (by decide +kernel)
    exact ⟨c, (hloads _ (.refl _) .json).2 _ _ hname htext, hdenoted⟩
  · obtain ⟨c, -, -, hloads⟩ :=
      (documents_denote (emptySections "frame" "server")).1 (by decide +kernel)
    have hname : Format.ofName? "toml" = some .toml := by decide +kernel
    have htext : Format.Delivers .toml "[frame]\n[server]" (emptySections "frame" "server") := rfl
    have hother : Format.ofName? "Toml" = some .toml := by decide +kernel
    have hothers : Format.Delivers .toml "[server]\n[frame]" (emptySections "server" "frame") :=
      rfl
    exact ⟨c, (hloads _ (.refl _) .toml).2 _ _ hname htext,
      (hloads _ (.sections (.swap _ _ _)) .toml).2 _ _ hother hothers⟩
  · obtain ⟨e, -, hfails⟩ :=
      (documents_denote (Json.read (Utf8.encode misspelt)).1).2 (by decide +kernel) .json
    have hname : Format.ofName? "json" = some .json := by decide +kernel
    have htext := @delivers_json misspelt (by decide +kernel)
    exact ⟨e, (hfails _ _ hname htext).2⟩

end RequestBridge.Config
