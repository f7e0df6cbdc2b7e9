import RequestBridge.Decimal.Text
import RequestBridge.Document
import RequestBridge.Text.Quoted

/-! Records read from documents.

A record is read from a table by the names of its fields, or from a list by their order;
what is not there keeps its default. The document is judged from front to back: the
first thing that does not fit is reported, even if the document breaks off behind it. -/
namespace RequestBridge.Config

/-- The two notations of configurations. -/
inductive Format where
  | toml
  | json
deriving DecidableEq, Repr

/-- How messages about a notation write numbers. -/
def Format.style : Format → Decimal.Style
  | .toml => .plain
  | .json => .short

/-- What a part of a document is asked to be. -/
inductive Kind where
  /-- An integer of 16 bits, without sign. -/
  | word
  /-- An integer of 64 bits, without sign. -/
  | size
  | boolean
  | text
  | unit
  | record (name : String)
deriving DecidableEq, Repr

def Kind.name : Kind → String
  | .word => "u16"
  | .size => "usize"
  | .boolean => "a boolean"
  | .text => "a string"
  | .unit => "unit"
  | .record name => "struct " ++ name

/-- Why a document does not fit. -/
inductive Mismatch where
  | kind (found : Document) (expected : Kind)
  | range (n : Int) (expected : Kind)
  | unknownField (key : String) (known : List String)
  | duplicateField (key : String)
  | unknownChoice (key : String) (known : List String)
  /-- A table that should name a choice is empty. -/
  | noChoice
  /-- A table that should name a choice has more than one entry. -/
  | manyChoices
  | notAChoice
  /-- What stands behind a choice in a table should be empty. -/
  | filled
  /-- There should be no tables under the heading of a choice. -/
  | filledTables
  | notATable (found : Document)

def ticked (s : String) : String := "`" ++ s ++ "`"

/-- One of some names, in words. -/
def oneOf : List String → String
  | [a] => ticked a
  | [a, b] => ticked a ++ " or " ++ ticked b
  | names => "one of " ++ ", ".intercalate (names.map ticked)

/-- A part of a document as messages name it. -/
def found (format : Format) : Document → String
  | .null => "null"
  | .boolean b => "boolean " ++ ticked (Quoted.bool b)
  | .integer n => "integer " ++ ticked (toString n)
  | .float x => "floating point " ++ ticked (Decimal.text format.style x)
  | .text s => "string " ++ Quoted.text s
  | .moment => "map"
  | .list _ _ => "sequence"
  | .table _ _ => "map"
  | .tables _ => "sequence"
  | .fault _ => "nothing"
  | .fragment _ => "nothing"

/-- The notion that a value falls under. -/
def notion : Document → String
  | .null => "none"
  | .boolean _ => "boolean"
  | .integer _ => "integer"
  | .float _ => "float"
  | .text _ => "string"
  | .moment => "datetime"
  | .list _ _ => "array"
  | .table _ _ => "table"
  | .tables _ => "array of tables"
  | .fault _ => "none"
  | .fragment _ => "none"

def Mismatch.message (format : Format) : Mismatch → String
  | .kind document expected =>
    "invalid type: " ++ found format document ++ ", expected " ++ expected.name
  | .range n expected =>
    "invalid value: integer " ++ ticked (toString n) ++ ", expected " ++ expected.name
  | .unknownField key known => "unknown field " ++ ticked key ++ ", expected " ++ oneOf known
  | .duplicateField key => "duplicate field " ++ ticked key
  | .unknownChoice key known => "unknown variant " ++ ticked key ++ ", expected " ++ oneOf known
  | .noChoice => "wanted exactly 1 element, found 0 elements"
  | .manyChoices => "wanted exactly 1 element, more than 1 element"
  | .notAChoice => "wanted string or table"
  | .filled => "expected empty table"
  | .filledTables => "expected empty array"
  | .notATable document => "expected table, found " ++ notion document

/-- Why nothing can be read from a text: the text is faulty, or what it says does not fit. -/
inductive ReadError where
  | fault (f : Fault)
  | mismatch (m : Mismatch)

abbrev Reading := Except ReadError

/-- The error for a document that is not of a kind. A fault goes before. -/
def refuse {α : Type} (expected : Kind) : Document → Reading α
  | .fault f => .error (.fault f)
  | .fragment f => .error (.fault f)
  | document => .error (.mismatch (.kind document expected))

/-- An integer below a bound. -/
def readNat (bound : Nat) (expected : Kind) : Document → Reading Nat
  | .integer n =>
    if 0 ≤ n ∧ n < bound then .ok n.toNat else .error (.mismatch (.range n expected))
  | document => refuse expected document

def readWord (document : Document) : Reading UInt16 :=
  (readNat (Nat.pow 2 16) .word document).map UInt16.ofNat

def readSize (document : Document) : Reading Nat := readNat (Nat.pow 2 64) .size document

/-- A size, or nothing in its place. -/
def readOptionalSize : Document → Reading (Option Nat)
  | .null => .ok none
  | document => (readSize document).map some

def readBoolean : Document → Reading Bool
  | .boolean b => .ok b
  | document => refuse .boolean document

def readText : Document → Reading String
  | .text s => .ok s
  | document => refuse .text document

/-- A field of a record: its name, and how a document changes it. -/
structure Field (σ : Type) where
  name : String
  set : σ → Document → Reading σ

/-- A field that is read and then put in its place. -/
def Field.of {σ α : Type} (name : String) (read : Document → Reading α) (put : σ → α → σ) :
    Field σ where
  name
  set record document := (read document).map (put record)

structure Record (σ : Type) where
  name : String
  fields : List (Field σ)

namespace Record
variable {σ : Type}

def names (r : Record σ) : List String := r.fields.map (·.name)

/-- The record after the entries of a table. A key is judged before its value. -/
def fromEntries (r : Record σ) (seen : List String) (record : σ) :
    List (String × Document) → Reading σ
  | [] => .ok record
  | (key, document) :: rest => do
    let some field := r.fields.find? (·.name == key)
      | throw (.mismatch (.unknownField key r.names))
    if seen.contains key then throw (.mismatch (.duplicateField key))
    let record ← field.set record document
    r.fromEntries (key :: seen) record rest

/-- The record after the items of a list that are left for the fields that are left.
Surplus items are passed over in one notation and are a fault in the other. -/
def fromItems (format : Format) (record : σ) :
    List (Field σ) → List Document → Tail → Reading σ
  | _, [], .closed => .ok record
  | _, [], .broken f => .error (.fault f)
  | [], [], .brokenAfterComma _ => .error (.fault .syntaxError)
  | _ :: _, [], .brokenAfterComma f => .error (.fault f)
  | [], _ :: _, _ =>
    match format with
    | .toml => .ok record
    | .json => .error (.fault .syntaxError)
  | field :: fields, document :: rest, tail => do
    let record ← field.set record document
    fromItems format record fields rest tail

/-- The key of the one entry that a date or a time has if it is taken for a table. -/
def momentKey : String := "$__toml_private_datetime"

/-- The record that a document gives, from a record of defaults. -/
def read (r : Record σ) (format : Format) (start : σ) : Document → Reading σ
  | .table entries tail => do
    let record ← r.fromEntries [] start entries
    match tail with
    | .closed => return record
    | .broken f => throw (.fault f)
    | .brokenAfterComma f => throw (.fault f)
  | .list items tail => fromItems format start r.fields items tail
  | .tables items =>
    fromItems format start r.fields (items.map fun entries => .table entries .closed) .closed
  | .moment => .error (.mismatch (.unknownField momentKey r.names))
  | document => refuse (.record r.name) document

end Record
end RequestBridge.Config
