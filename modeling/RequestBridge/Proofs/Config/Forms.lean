import RequestBridge.Config.Schema

/-! Forms of values, and readings that keep to them.

A form says what a value may be for a setting and what it must not be. Nothing is said of a value
that is neither. A reading keeps to a form if it gives something for all that the form takes and
fails for all that it spoils (`Keeps`). A record whose fields follow the rows of a table keeps to
the form of the table (`Record.keeps_table`), and each part of it is what the entry of its name
says, or its default (`Record.settled`). -/
namespace RequestBridge

namespace Document

/-- The value under a key of a table. -/
def value? : Document → String → Option Document
  | .table entries _, key => entries.lookup key
  | _, _ => none

end Document

namespace Config

/-! ### Forms -/

structure Form where
  takes : Document → Bool
  spoils : Document → Bool

namespace Form

/-- The form that whatever it does not take spoils. -/
def strict (takes : Document → Bool) : Form := ⟨takes, fun document => !takes document⟩

/-- An integer from zero up to a bound. -/
def number (bound : Nat) : Form := strict fun
  | .integer n => decide (0 ≤ n ∧ n < bound)
  | _ => false

/-- An integer from zero up to a bound, or null in its place. -/
def optionalNumber (bound : Nat) : Form := strict fun
  | .null => true
  | document => (number bound).takes document

def flag : Form := strict fun
  | .boolean _ => true
  | _ => false

def text : Form := strict fun
  | .text _ => true
  | _ => false

/-- One of some names. A string that is none of them spoils it. -/
def choice (names : List String) : Form where
  takes
    | .text name => names.contains name
    | _ => false
  spoils
    | .text name => !names.contains name
    | _ => false

/-- A table of rows that each have a name and a form. A table takes distinct keys that it knows,
with values that their forms take, and one key that it does not know or one value that spoils
its form spoils it all. -/
def table (rows : List (String × Form)) : Form where
  takes
    | .table entries .closed => decide (entries.map (·.1)).Nodup &&
      entries.all fun (key, document) => (rows.lookup key).any (·.takes document)
    | _ => false
  spoils
    | .table entries _ =>
      entries.any fun (key, document) => (rows.lookup key).all (·.spoils document)
    | _ => false

end Form

/-! ### Readings -/

/-- A reading gives what is meant by what a form takes, and fails for what spoils the form. -/
structure Keeps {α : Type} (read : Document → Reading α) (form : Form)
    (means : Document → α → Prop) : Prop where
  reads {document : Document} : form.takes document = true →
    ∃ a, read document = .ok a ∧ means document a
  fails {document : Document} : form.spoils document = true → ∃ e, read document = .error e

/-- A value as it is written. -/
def Written {α : Type} (write : α → Document) (document : Document) (a : α) : Prop :=
  document = write a

variable {α σ : Type} {document : Document}

/-- A reading whose results are what a strict form takes keeps to the form. -/
theorem keeps_of_strict {read : Document → Reading α} {form : Form}
    {means : Document → α → Prop}
    (hstrict : ∀ document, form.spoils document = !form.takes document)
    (hmeans : ∀ document a, read document = .ok a → means document a)
    (htakes : ∀ document, form.takes document = true ↔ ∃ a, read document = .ok a) :
    Keeps read form means where
  reads h := by
    obtain ⟨a, ha⟩ := (htakes _).mp h
    exact ⟨a, ha, hmeans _ _ ha⟩
  fails {document} hspoils := by
    cases hread : read document with
    | error e => exact ⟨e, rfl⟩
    | ok a =>
      rw [hstrict, (htakes document).mpr ⟨a, hread⟩] at hspoils
      cases hspoils

theorem readNat_eq_ok_iff {bound n : Nat} {expected : Kind} :
    readNat bound expected document = .ok n ↔ document = .integer n ∧ n < bound := by
  cases document with
  | integer i =>
    simp only [readNat]
    split
    · rename_i hrange
      simp
      omega
    · rename_i hrange
      simp
      omega
  | _ => simp [readNat, refuse]

theorem number_takes_iff {bound : Nat} :
    (Form.number bound).takes document = true ↔ ∃ n : Nat, document = .integer n ∧ n < bound := by
  cases document with
  | integer i =>
    simp only [Form.number, Form.strict, decide_eq_true_eq, Document.integer.injEq]
    constructor
    · rintro ⟨hzero, hbound⟩
      exact ⟨i.toNat, by omega, by omega⟩
    · rintro ⟨n, rfl, hn⟩
      omega
  | _ => simp [Form.number, Form.strict]

theorem optionalNumber_takes_of_ne_null {bound : Nat} (h : document ≠ .null) :
    (Form.optionalNumber bound).takes document = (Form.number bound).takes document := by
  cases document with
  | null => exact absurd rfl h
  | _ => rfl

theorem map_eq_ok_iff {β : Type} {result : Reading α} {f : α → β} {b : β} :
    result.map f = .ok b ↔ ∃ a, result = .ok a ∧ f a = b := by
  cases result <;> simp [Except.map]

theorem readWord_eq_ok_iff {port : UInt16} :
    readWord document = .ok port ↔ document = .integer port.toNat := by
  unfold readWord
  rw [map_eq_ok_iff]
  constructor
  · rintro ⟨n, hread, rfl⟩
    obtain ⟨rfl, hn⟩ := readNat_eq_ok_iff.mp hread
    have hsame : (UInt16.ofNat n).toNat = n := UInt16.toNat_ofNat_of_lt hn
    rw [hsame]
  · intro h
    exact ⟨port.toNat, readNat_eq_ok_iff.mpr ⟨h, port.toNat_lt⟩, UInt16.ofNat_toNat⟩

theorem readSize_eq_ok_iff {n : Nat} :
    readSize document = .ok n ↔ document = .integer n ∧ n < Nat.pow 2 64 := readNat_eq_ok_iff

theorem readOptionalSize_of_ne_null (h : document ≠ .null) :
    readOptionalSize document = (readSize document).map some := by
  cases document with
  | null => exact absurd rfl h
  | _ => rfl

/-- A size as it is written, with null for none. -/
def optionalSize : Option Nat → Document
  | none => .null
  | some n => .integer n

theorem readOptionalSize_eq_ok_iff {size : Option Nat} :
    readOptionalSize document = .ok size ↔
      document = optionalSize size ∧ ∀ n, size = some n → n < Nat.pow 2 64 := by
  by_cases hnull : document = .null
  · subst hnull
    cases size <;> simp [readOptionalSize, optionalSize]
  · rw [readOptionalSize_of_ne_null hnull, map_eq_ok_iff]
    cases size with
    | none => simp [optionalSize, hnull]
    | some n => simp [optionalSize, readSize_eq_ok_iff]

theorem readWord_keeps :
    Keeps readWord (.number (Nat.pow 2 16)) (Written fun port => .integer port.toNat) := by
  refine keeps_of_strict (fun _ => rfl) ?_ ?_
  · exact fun _ _ => readWord_eq_ok_iff.mp
  · intro document
    refine number_takes_iff.trans ⟨?_, ?_⟩
    · rintro ⟨n, rfl, hn⟩
      have hsame : (UInt16.ofNat n).toNat = n := UInt16.toNat_ofNat_of_lt hn
      exact ⟨UInt16.ofNat n, readWord_eq_ok_iff.mpr (by rw [hsame])⟩
    · rintro ⟨port, hread⟩
      exact ⟨port.toNat, readWord_eq_ok_iff.mp hread, port.toNat_lt⟩

theorem readSize_keeps :
    Keeps readSize (.number (Nat.pow 2 64)) (Written fun n => .integer n) := by
  refine keeps_of_strict (fun _ => rfl) ?_ ?_
  · exact fun _ _ hread => (readSize_eq_ok_iff.mp hread).1
  · intro document
    simp only [readSize_eq_ok_iff]
    exact number_takes_iff

theorem readOptionalSize_keeps : Keeps readOptionalSize (.optionalNumber (Nat.pow 2 64))
    (Written optionalSize) := by
  refine keeps_of_strict (fun _ => rfl) ?_ ?_
  · exact fun _ _ hread => (readOptionalSize_eq_ok_iff.mp hread).1
  · intro document
    by_cases hnull : document = .null
    · subst hnull
      exact ⟨fun _ => ⟨none, rfl⟩, fun _ => rfl⟩
    · rw [optionalNumber_takes_of_ne_null hnull, number_takes_iff,
        readOptionalSize_of_ne_null hnull]
      simp only [map_eq_ok_iff, readSize_eq_ok_iff]
      constructor
      · rintro ⟨n, h⟩
        exact ⟨some n, n, h, rfl⟩
      · rintro ⟨size, n, h, -⟩
        exact ⟨n, h⟩

theorem readBoolean_eq_ok_iff {b : Bool} :
    readBoolean document = .ok b ↔ document = .boolean b := by
  cases document <;> simp [readBoolean, refuse]

theorem readText_eq_ok_iff {s : String} : readText document = .ok s ↔ document = .text s := by
  cases document <;> simp [readText, refuse]

theorem readBoolean_keeps : Keeps readBoolean .flag (Written .boolean) := by
  refine keeps_of_strict (fun _ => rfl) ?_ ?_
  · exact fun _ _ => readBoolean_eq_ok_iff.mp
  · intro document
    simp only [readBoolean_eq_ok_iff]
    cases document <;> simp [Form.flag, Form.strict]

theorem readText_keeps : Keeps readText .text (Written .text) := by
  refine keeps_of_strict (fun _ => rfl) ?_ ?_
  · exact fun _ _ => readText_eq_ok_iff.mp
  · intro document
    simp only [readText_eq_ok_iff]
    cases document <;> simp [Form.text, Form.strict]

theorem ofName_name (format : LogFormat) : LogFormat.ofName format.name = .ok format := by
  cases format <;> rfl

theorem exists_ofName_eq_error {name : String} (h : ["json", "pretty"].contains name = false) :
    ∃ e, LogFormat.ofName name = .error e := by
  have hnone : LogFormat.all.find? (·.name == name) = none := by
    simp only [List.contains_eq_mem, List.mem_cons, List.not_mem_nil, or_false,
      decide_eq_false_iff_not, not_or] at h
    simp [LogFormat.all, LogFormat.name, Ne.symm h.1, Ne.symm h.2]
  unfold LogFormat.ofName
  rw [hnone]
  exact ⟨_, rfl⟩

theorem readLogFormat_text (format : Format) (name : String) :
    LogFormat.read format (.text name) = LogFormat.ofName name := by
  cases format <;> rfl

/-- Either notation takes the name of a format for the format, and no other string. -/
theorem readLogFormat_keeps (format : Format) :
    Keeps (LogFormat.read format) (.choice ["json", "pretty"])
      (Written fun format => .text format.name) where
  reads {document} htakes := by
    cases document with
    | text name =>
      rw [readLogFormat_text]
      have hname : name = LogFormat.json.name ∨ name = LogFormat.pretty.name := by
        simpa [Form.choice, LogFormat.name] using htakes
      rcases hname with rfl | rfl
      · exact ⟨.json, ofName_name .json, rfl⟩
      · exact ⟨.pretty, ofName_name .pretty, rfl⟩
    | _ => cases htakes
  fails {document} hspoils := by
    cases document with
    | text name =>
      rw [readLogFormat_text]
      exact exists_ofName_eq_error (by simpa only [Form.choice, Bool.not_eq_true'] using hspoils)
    | _ => cases hspoils

/-! ### Records -/

theorem Field.of_name (name : String) (read : Document → Reading α) (put : σ → α → σ) :
    (Field.of name read put).name = name := rfl

theorem Field.of_set_eq_ok_iff {name : String} {read : Document → Reading α} {put : σ → α → σ}
    {before after : σ} :
    (Field.of name read put).set before document = .ok after ↔
      ∃ a, read document = .ok a ∧ put before a = after := map_eq_ok_iff

/-- A field that can be set by what a form takes, and not by what spoils the form. -/
structure Field.Sets (field : Field σ) (form : Form) : Prop where
  sets {document : Document} : form.takes document = true →
    ∀ before, ∃ after, field.set before document = .ok after
  fails {document : Document} : form.spoils document = true →
    ∀ before, ∃ e, field.set before document = .error e

/-- What a field does to a part of a record: the field of the part's name sets it to what is read,
and any other leaves it as it was. -/
def Field.Serves (field : Field σ) (name : String) (read : Document → Reading α)
    (get : σ → α) : Prop :=
  ∀ before document after, field.set before document = .ok after →
    if field.name = name then read document = .ok (get after) else get after = get before

@[simp]
theorem Field.of_serves_own {name : String} {read : Document → Reading α} {put : σ → α → σ}
    {get : σ → α} (h : ∀ record a, get (put record a) = a) :
    (Field.of name read put).Serves name read get := by
  intro before document after hset
  obtain ⟨a, ha, rfl⟩ := Field.of_set_eq_ok_iff.mp hset
  rw [Field.of_name, if_pos rfl, h, ha]

@[simp]
theorem Field.of_serves_other {β : Type} {name other : String} {read : Document → Reading α}
    {readOther : Document → Reading β} {put : σ → β → σ} {get : σ → α} (hname : other ≠ name)
    (h : ∀ record b, get (put record b) = get record) :
    (Field.of other readOther put).Serves name read get := by
  intro before document after hset
  obtain ⟨b, -, rfl⟩ := Field.of_set_eq_ok_iff.mp hset
  rw [Field.of_name, if_neg hname, h]

theorem Keeps.sets {read : Document → Reading α} {form : Form} {means : Document → α → Prop}
    (h : Keeps read form means) (name : String) (put : σ → α → σ) :
    (Field.of name read put).Sets form where
  sets htakes before := by
    obtain ⟨a, ha, -⟩ := h.reads htakes
    exact ⟨put before a, Field.of_set_eq_ok_iff.mpr ⟨a, ha, rfl⟩⟩
  fails hspoils before := by
    obtain ⟨e, he⟩ := h.fails hspoils
    exact ⟨e, by simp [Field.of, he, Except.map]⟩

/-- Fields that keep to rows one by one. -/
inductive Follow : List (Field σ) → List (String × Form) → Prop where
  | nil : Follow [] []
  | cons {field : Field σ} {form : Form} {fields : List (Field σ)} {rows : List (String × Form)} :
      field.Sets form → Follow fields rows → Follow (field :: fields) ((field.name, form) :: rows)

/-- The field of a name keeps to the row of the name, and either both are there or neither is. -/
theorem Follow.find? {fields : List (Field σ)} {rows : List (String × Form)}
    (h : Follow fields rows) (key : String) :
    (fields.find? (·.name == key) = none ∧ rows.lookup key = none) ∨
      ∃ field form, fields.find? (·.name == key) = some field ∧ rows.lookup key = some form ∧
        field.Sets form := by
  induction h with
  | nil => exact .inl ⟨rfl, rfl⟩
  | @cons field form fields rows hsets _ ih =>
    by_cases hkey : field.name = key
    · subst hkey
      exact .inr ⟨field, form, by simp, by simp, hsets⟩
    · have hother : (key == field.name) = false := beq_false_of_ne (Ne.symm hkey)
      rw [List.find?_cons_of_neg (by simpa using hkey), List.lookup_cons, hother]
      exact ih

namespace Record
variable {r : Record σ} {rows : List (String × Form)} {seen : List String} {before after : σ}

/-- What one entry more takes: a field of its key, a key that has not been seen, a value that the
field can be set by, and the rest. -/
theorem fromEntries_cons_eq_ok_iff {key : String} {rest : List (String × Document)} :
    r.fromEntries seen before ((key, document) :: rest) = .ok after ↔
      ∃ field mid, r.fields.find? (·.name == key) = some field ∧ key ∉ seen ∧
        field.set before document = .ok mid ∧ r.fromEntries (key :: seen) mid rest = .ok after := by
  rw [fromEntries]
  cases hfield : r.fields.find? (·.name == key) with
  | none => simp [throw, throwThe, MonadExceptOf.throw]
  | some field =>
    by_cases hseen : key ∈ seen
    · simp [hseen, bind, Except.bind, throw, throwThe, MonadExceptOf.throw]
    · cases hset : field.set before document with
      | error e => simp [hseen, hset, bind, Except.bind]
      | ok mid => simp [hseen, hset, bind, Except.bind]

/-- Entries with distinct keys that have not been seen, and with values that the forms of their
rows take, can all be read. -/
theorem fromEntries_of_takes (hfollow : Follow r.fields rows) {entries : List (String × Document)}
    (htakes : ∀ p ∈ entries, (rows.lookup p.1).any (·.takes p.2) = true)
    (hdistinct : (entries.map (·.1)).Nodup) (hfresh : ∀ p ∈ entries, p.1 ∉ seen) (before : σ) :
    ∃ after, r.fromEntries seen before entries = .ok after := by
  induction entries generalizing seen before with
  | nil => exact ⟨before, rfl⟩
  | cons p rest ih =>
    obtain ⟨key, document⟩ := p
    have hhead : (rows.lookup key).any (·.takes document) = true := htakes _ List.mem_cons_self
    have hkey : key ∉ seen := hfresh _ List.mem_cons_self
    obtain ⟨hnew, hdistinct⟩ := List.nodup_cons.mp hdistinct
    rcases hfollow.find? key with ⟨-, hrow⟩ | ⟨field, form, hfield, hrow, hsets⟩
    · rw [hrow] at hhead
      cases hhead
    · rw [hrow] at hhead
      obtain ⟨mid, hmid⟩ := hsets.sets hhead before
      have hrest : ∀ q ∈ rest, q.1 ∉ key :: seen := by
        intro q hq
        rw [List.mem_cons, not_or]
        exact ⟨fun heq => hnew (List.mem_map.mpr ⟨q, hq, heq⟩),
          hfresh q (List.mem_cons_of_mem _ hq)⟩
      obtain ⟨after, hafter⟩ :=
        ih (fun q hq => htakes q (List.mem_cons_of_mem _ hq)) hdistinct hrest mid
      exact ⟨after, fromEntries_cons_eq_ok_iff.mpr ⟨field, mid, hfield, hkey, hmid, hafter⟩⟩

/-- Entries of which one has no row, or a value that spoils the form of its row, cannot all be
read. -/
theorem fromEntries_ne_ok (hfollow : Follow r.fields rows) {entries : List (String × Document)}
    (hspoils : ∃ p ∈ entries, (rows.lookup p.1).all (·.spoils p.2) = true) :
    r.fromEntries seen before entries ≠ .ok after := by
  induction entries generalizing seen before with
  | nil =>
    obtain ⟨p, hp, -⟩ := hspoils
    cases hp
  | cons p rest ih =>
    intro h
    obtain ⟨key, document⟩ := p
    obtain ⟨field, mid, hfield, -, hmid, hrest⟩ := fromEntries_cons_eq_ok_iff.mp h
    obtain ⟨q, hq, hspoils⟩ := hspoils
    rcases List.mem_cons.mp hq with rfl | hq
    · rcases hfollow.find? key with ⟨hnone, -⟩ | ⟨field', form, hfield', hrow, hsets⟩
      · cases hfield.symm.trans hnone
      · cases hfield.symm.trans hfield'
        rw [hrow] at hspoils
        obtain ⟨e, he⟩ := hsets.fails hspoils before
        cases hmid.symm.trans he
    · exact ih ⟨q, hq, hspoils⟩ hrest

/-- Keys that have been seen do not come again in entries that can be read. -/
theorem lookup_eq_none_of_seen {entries : List (String × Document)}
    (h : r.fromEntries seen before entries = .ok after) {key : String} (hseen : key ∈ seen) :
    entries.lookup key = none := by
  induction entries generalizing seen before with
  | nil => rfl
  | cons p rest ih =>
    obtain ⟨name, document⟩ := p
    obtain ⟨field, mid, -, hname, -, hrest⟩ := fromEntries_cons_eq_ok_iff.mp h
    have hne : key ≠ name := fun heq => hname (heq ▸ hseen)
    rw [List.lookup_cons, beq_false_of_ne hne]
    exact ih hrest (List.mem_cons_of_mem _ hseen)

/-- A part of what entries give is what the entry of its name gives, or as it was. -/
theorem part_of_fromEntries {name : String} {read : Document → Reading α} {get : σ → α}
    (hpart : ∀ field ∈ r.fields, field.Serves name read get) {entries : List (String × Document)}
    (h : r.fromEntries seen before entries = .ok after) :
    match entries.lookup name with
    | none => get after = get before
    | some document => read document = .ok (get after) := by
  induction entries generalizing seen before with
  | nil =>
    cases h
    rfl
  | cons p rest ih =>
    obtain ⟨key, document⟩ := p
    obtain ⟨field, mid, hfield, -, hmid, hrest⟩ := fromEntries_cons_eq_ok_iff.mp h
    have hname : field.name = key := by simpa using List.find?_some hfield
    have hstep := hpart field (List.mem_of_find?_eq_some hfield) _ _ _ hmid
    have hlater := ih hrest
    rw [hname] at hstep
    rw [List.lookup_cons]
    by_cases hown : key = name
    · subst hown
      -- the key has been seen, so nothing behind it touches the part
      rw [lookup_eq_none_of_seen hrest List.mem_cons_self] at hlater
      have hlater : get after = get mid := hlater
      rw [if_pos rfl, ← hlater] at hstep
      rw [beq_self_eq_true]
      exact hstep
    · rw [if_neg hown] at hstep
      rw [beq_false_of_ne (Ne.symm hown), ← hstep]
      exact hlater

theorem read_table_closed (r : Record σ) (format : Format) (start : σ)
    (entries : List (String × Document)) :
    r.read format start (.table entries .closed) = r.fromEntries [] start entries := by
  show (r.fromEntries [] start entries).bind _ = _
  cases r.fromEntries [] start entries <;> rfl

end Record

/-! ### Tables -/

/-- What a table takes: distinct keys, each with a row, and values that the forms of the rows
take. -/
theorem Form.table_takes_iff {rows : List (String × Form)} :
    (Form.table rows).takes document = true ↔
      ∃ entries, document = .table entries .closed ∧ (entries.map (·.1)).Nodup ∧
        ∀ p ∈ entries, (rows.lookup p.1).any (·.takes p.2) = true := by
  cases document with
  | table entries tail => cases tail <;> simp [Form.table]
  | _ => simp [Form.table]

/-- The value of a key in a table that is taken is taken by the form of the key. -/
theorem takes_of_value? {rows : List (String × Form)} {form : Form} {name : String}
    {value : Document} (htakes : (Form.table rows).takes document = true)
    (hrow : rows.lookup name = some form) (hvalue : document.value? name = some value) :
    form.takes value = true := by
  obtain ⟨entries, rfl, -, hall⟩ := Form.table_takes_iff.mp htakes
  obtain ⟨before, after, rfl, -⟩ := List.lookup_eq_some_iff.mp hvalue
  have hentry := hall (name, value) (by simp)
  rw [hrow] at hentry
  exact hentry

/-- What a setting is, from what stands in its place: what the value there says, or its default if
there is none. -/
def Settled (found : Option Document) (means : Document → α → Prop) (default value : α) : Prop :=
  match found with
  | none => value = default
  | some document => means document value

theorem Settled.unique {found : Option Document} {write : α → Document} {default a b : α}
    (hwrite : ∀ a b, write a = write b → a = b) (ha : Settled found (Written write) default a)
    (hb : Settled found (Written write) default b) : a = b := by
  cases found with
  | none => exact ha.trans hb.symm
  | some document => exact hwrite a b (ha.symm.trans hb)

namespace Record
variable {r : Record σ} {rows : List (String × Form)} {format : Format} {start record : σ}

/-- A part of a record that is read from a table is settled by the entry of its name. -/
theorem settled (name : String) (get : σ → α) {read : Document → Reading α} {form : Form}
    {means : Document → α → Prop} (hpart : ∀ field ∈ r.fields, field.Serves name read get)
    (hkeeps : Keeps read form means) (hrow : rows.lookup name = some form)
    (htakes : (Form.table rows).takes document = true)
    (hread : r.read format start document = .ok record) :
    Settled (document.value? name) means (get start) (get record) := by
  obtain ⟨entries, rfl, -, -⟩ := Form.table_takes_iff.mp htakes
  rw [read_table_closed] at hread
  have hvalue := part_of_fromEntries hpart hread
  have hlookup : (Document.table entries .closed).value? name = entries.lookup name := rfl
  cases hentry : entries.lookup name with
  | none =>
    rw [hentry] at hvalue hlookup
    rw [hlookup]
    exact hvalue
  | some value =>
    rw [hentry] at hvalue hlookup
    obtain ⟨a, ha, hmeans⟩ := hkeeps.reads (takes_of_value? htakes hrow hlookup)
    cases ha.symm.trans hvalue
    rw [hlookup]
    exact hmeans

/-- A record whose fields follow the rows of a table keeps to the form of the table. -/
theorem keeps_table {means : Document → σ → Prop} (hfollow : Follow r.fields rows)
    (hmeans : ∀ document record, (Form.table rows).takes document = true →
      r.read format start document = .ok record → means document record) :
    Keeps (r.read format start) (.table rows) means where
  reads {document} htakes := by
    obtain ⟨entries, rfl, hdistinct, hall⟩ := Form.table_takes_iff.mp htakes
    obtain ⟨record, hrecord⟩ :=
      fromEntries_of_takes hfollow hall hdistinct (fun _ _ => List.not_mem_nil) start
    rw [← read_table_closed r format] at hrecord
    exact ⟨record, hrecord, hmeans _ _ htakes hrecord⟩
  fails {document} hspoils := by
    cases document with
    | table entries tail =>
      have hentries : ∃ p ∈ entries, (rows.lookup p.1).all (·.spoils p.2) = true := by
        simpa [Form.table] using hspoils
      cases hread : r.fromEntries [] start entries with
      | ok record => exact absurd hread (fromEntries_ne_ok hfollow hentries)
      | error e => exact ⟨e, by simp [Record.read, hread, bind, Except.bind]⟩
    | _ => cases hspoils

end Record

end Config
end RequestBridge
