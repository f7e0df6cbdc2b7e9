import RequestBridge.Document

/-! Tables of TOML while a text is being read.

A table is made by a header of its own, by a header or a key that leads through it, or
by a dotted key. How it was made decides who may still add to it: a header may take over
a table that another header only led through, and a dotted key may add to what dotted
keys have made. Keys stay in the order in which they were put. -/
namespace RequestBridge.Toml

/-- How a table came to be. -/
inductive Origin where
  /-- It has a header of its own. -/
  | header
  /-- Headers lead through it. -/
  | passed
  /-- Dotted keys lead through it. -/
  | dotted
deriving DecidableEq, Repr

inductive Item where
  | value (document : Document)
  | table (origin : Origin) (entries : List (String × Item))
  /-- A table for each header in double brackets, the last one first. -/
  | tables (items : List (List (String × Item)))

abbrev Entries := List (String × Item)

namespace Entries

/-- The item at a key. -/
def item? (es : Entries) (key : String) : Option Item :=
  (List.find? (·.1 == key) es).map (·.2)

/-- The entries without a key. -/
def erase (es : Entries) (key : String) : Entries := es.filter (·.1 != key)

/-- The entries with another item at a key, in the same place, or at the end if the key
is new. -/
def set (es : Entries) (key : String) (item : Item) : Entries :=
  match es with
  | [] => [(key, item)]
  | (k, old) :: rest => if k == key then (k, item) :: rest else (k, old) :: set rest key item

/-- The entries with a value at a dotted key, if it may be put there. -/
def put (es : Entries) : List String → Document → Option Entries
  | [], _ => none
  | [key], value =>
    match es.item? key with
    | none => some (es.set key (.value value))
    | some _ => none
  | key :: next :: more, value =>
    match es.item? key with
    | none => (put [] (next :: more) value).map fun inner => es.set key (.table .dotted inner)
    | some (.table origin inner) =>
      if origin = .header || (more.isEmpty && origin ≠ .dotted) then none
      else (put inner (next :: more) value).map fun inner => es.set key (.table origin inner)
    | some (.tables (last :: older)) =>
      if more.isEmpty then none
      else (put last (next :: more) value).map fun last => es.set key (.tables (last :: older))
    | some _ => none

/-- The entries after a change inside the table that a header's keys lead to. -/
def within (es : Entries) (change : Entries → Option Entries) : List String → Option Entries
  | [] => change es
  | key :: path =>
    match es.item? key with
    | none => (within [] change path).map fun inner => es.set key (.table .passed inner)
    | some (.table origin inner) =>
      (within inner change path).map fun inner => es.set key (.table origin inner)
    | some (.tables (last :: older)) =>
      (within last change path).map fun last => es.set key (.tables (last :: older))
    | some _ => none

end Entries

/-- Where the entries below a header belong. -/
inductive Header where
  /-- The table at a path and a key, which may be made once. -/
  | table (path : List String) (key : String)
  /-- One more table in the list at a path and a key. -/
  | item (path : List String) (key : String)
deriving DecidableEq, Repr

/-- Dotted keys with their values, in the order of the text. -/
abbrev Assignments := List (List String × Document)

/-- The entries after some assignments. -/
def Entries.putAll (es : Entries) (assignments : Assignments) : Option Entries :=
  assignments.foldlM (fun es (keys, value) => es.put keys value) es

/-- The entries of a document with one more section. A table that takes over one which
headers led through moves to the end. -/
def Entries.section? (root : Entries) (header : Header) (assignments : Assignments) :
    Option Entries :=
  match header with
  | .table path key =>
    root.within (fun (parent : Entries) => do
      let start ← match parent.item? key with
        | none => some []
        | some (.table .passed inner) => some inner
        | some _ => none
      let filled ← Entries.putAll start assignments
      return (parent.erase key).set key (.table .header filled)) path
  | .item path key =>
    root.within (fun (parent : Entries) => do
      let older ← match parent.item? key with
        | none => some []
        | some (.tables items) => some items
        | some _ => none
      let filled ← Entries.putAll [] assignments
      return parent.set key (.tables (filled :: older))) path

mutual

/-- The item as a part of a document. -/
def Item.document : Item → Document
  | .value document => document
  | .table _ entries => .table (entryDocuments entries) .closed
  | .tables items => .tables (tableDocuments items).reverse

def entryDocuments : List (String × Item) → List (String × Document)
  | [] => []
  | (key, item) :: rest => (key, item.document) :: entryDocuments rest

def tableDocuments : List (List (String × Item)) → List (List (String × Document))
  | [] => []
  | entries :: rest => entryDocuments entries :: tableDocuments rest

end

/-- The entries as a whole document. -/
def Entries.document (es : Entries) : Document := .table (entryDocuments es) .closed

end RequestBridge.Toml
