import RequestBridge.Toml.Scalar
import RequestBridge.Toml.Table

/-! TOML texts as documents. A text that is faulty anywhere is no document at all. -/
namespace RequestBridge.Toml

def isKeyChar (c : Char) : Bool :=
  ('a' ≤ c && c ≤ 'z') || ('A' ≤ c && c ≤ 'Z') || isDecimal c || c == '_' || c == '-'

/-- One part of a key: a word or a text on one line. -/
def keyPart? (steps : Nat) (cs : List Char) : TextReading :=
  match cs with
  | '"' :: rest => lineTextAfter '"' steps rest
  | '\'' :: rest => lineTextAfter '\'' steps rest
  | _ =>
    match cs.takeWhile isKeyChar with
    | [] => none
    | word => some (String.ofList word, cs.dropWhile isKeyChar)

/-- The number of parts at which a key is too long, and of nested lists and inline
tables at which a value is too deep. -/
def nesting : Nat := 80

/-- The parts of a key, up to `room` of them, with blanks around each. -/
def keyParts (steps : Nat) : Nat → List Char → Option (List String × List Char)
  | 0, _ => none
  | room + 1, cs => do
    let (part, rest) ← keyPart? steps (skipBlanks cs)
    match skipBlanks rest with
    | '.' :: rest =>
      let (parts, rest) ← keyParts steps room rest
      return (part :: parts, rest)
    | rest => return ([part], rest)

/-- A key, dotted or not. -/
def key? (steps : Nat) (cs : List Char) : Option (List String × List Char) :=
  keyParts steps (nesting - 1) cs

/-- What follows a comment, from behind its mark on. -/
def afterComment (cs : List Char) : List Char := cs.dropWhile isPlain

/-- What follows blanks, line ends and comments, from inside a comment on or from
outside of one. -/
def skipLines (commented : Bool) : List Char → Option (List Char)
  | [] => some []
  | '\n' :: rest => skipLines false rest
  | '\r' :: '\n' :: rest => skipLines false rest
  | c :: rest =>
    if commented then if isPlain c then skipLines true rest else none
    else if isBlank c then skipLines false rest
    else if c == '#' then skipLines true rest
    else if c == '\r' then none
    else some (c :: rest)

def skipSpace (cs : List Char) : Option (List Char) := skipLines false cs

/-- What follows a value that ends a line: blanks, a comment, and the end of the line or
of the text. -/
def afterLine? (cs : List Char) : Option (List Char) :=
  let cs := match skipBlanks cs with
    | '#' :: rest => afterComment rest
    | cs => cs
  if cs.isEmpty then some [] else lineEnd? cs

/-- A word that stands for a value. -/
def word? (word : List Char) (document : Document) (cs : List Char) : Scalar :=
  if word.isPrefixOf cs then some (document, cs.drop word.length) else none

mutual

/-- The value at the front, with the number of lists and inline tables that may open in it. -/
def value (steps depth : Nat) (cs : List Char) : Scalar :=
  match steps with
  | 0 => none
  | steps + 1 =>
    match cs with
    | '"' :: rest => (textAfter '"' steps rest).map fun (text, rest) => (.text text, rest)
    | '\'' :: rest => (textAfter '\'' steps rest).map fun (text, rest) => (.text text, rest)
    | '[' :: rest =>
      match depth with
      | 0 => none
      | depth + 1 => (items steps depth rest).map fun (items, rest) => (.list items .closed, rest)
    | '{' :: rest =>
      match depth with
      | 0 => none
      | depth + 1 =>
        match skipBlanks rest with
        | '}' :: rest => some (.table [] .closed, rest)
        | rest => do
          let (assignments, rest) ← inlineEntries steps depth rest
          let entries ← Entries.putAll [] assignments
          return (entries.document, rest)
    | 't' :: _ => word? ['t', 'r', 'u', 'e'] (.boolean true) cs
    | 'f' :: _ => word? ['f', 'a', 'l', 's', 'e'] (.boolean false) cs
    | _ => scalar cs

/-- The items of a list up to its closing bracket, from the first or from behind a comma on. -/
def items (steps depth : Nat) (cs : List Char) : Option (List Document × List Char) :=
  match steps with
  | 0 => none
  | steps + 1 =>
    match skipSpace cs with
    | none => none
    | some (']' :: rest) => some ([], rest)
    | some rest =>
      match value steps depth rest with
      | none => none
      | some (item, rest) =>
        match skipSpace rest with
        | some (']' :: rest) => some ([item], rest)
        | some (',' :: rest) =>
          (items steps depth rest).map fun (more, rest) => (item :: more, rest)
        | _ => none

/-- The entries of an inline table up to its closing brace. -/
def inlineEntries (steps depth : Nat) (cs : List Char) : Option (Assignments × List Char) :=
  match steps with
  | 0 => none
  | steps + 1 =>
    match key? steps cs with
    | some (keys, '=' :: rest) =>
      match value steps depth (skipBlanks rest) with
      | none => none
      | some (item, rest) =>
        match skipBlanks rest with
        | '}' :: rest => some ([(keys, item)], rest)
        | ',' :: rest =>
          (inlineEntries steps depth rest).map fun (more, rest) => ((keys, item) :: more, rest)
        | _ => none
    | _ => none

end

/-- An assignment that takes a line of its own. -/
def assignment? (steps : Nat) (cs : List Char) :
    Option ((List String × Document) × List Char) := do
  let (keys, rest) ← key? steps cs
  let rest ← after? '=' rest
  let (document, rest) ← value steps (nesting - 1) (skipBlanks rest)
  return ((keys, document), ← afterLine? rest)

/-- A header, from behind its first bracket on. -/
def header? (steps : Nat) (cs : List Char) : Option (Header × List Char) := do
  match cs with
  | '[' :: rest =>
    let (keys, rest) ← key? steps rest
    let rest ← after? ']' (← after? ']' rest)
    return (.item keys.dropLast (keys.getLastD ""), ← afterLine? rest)
  | _ =>
    let (keys, rest) ← key? steps cs
    let rest ← after? ']' rest
    return (.table keys.dropLast (keys.getLastD ""), ← afterLine? rest)

/-- Assignments up to the next header, and what follows them; and then sections of a header
and assignments. -/
abbrev Sections := Assignments × List (Header × Assignments)

/-- The sections of a text. Twice as many steps as characters are enough, also for the
values that stand in it. -/
def sections? : Nat → List Char → Option Sections
  | 0, _ => none
  | steps + 1, cs =>
    match skipSpace cs with
    | none => none
    | some [] => some ([], [])
    | some ('[' :: rest) => do
      let (header, rest) ← header? steps rest
      let (first, more) ← sections? steps rest
      return ([], (header, first) :: more)
    | some rest => do
      let (assignment, rest) ← assignment? steps rest
      let (first, more) ← sections? steps rest
      return (assignment :: first, more)

/-- What follows a byte order mark. -/
def afterMark : List Char → List Char
  | '\uFEFF' :: rest => rest
  | cs => cs

/-- The document of a text. -/
def parse (text : String) : Except Fault Document :=
  let cs := afterMark text.toList
  let entries? := do
    let (top, sections) ← sections? (2 * cs.length + 3) cs
    let root ← Entries.putAll [] top
    sections.foldlM
      (fun (root : Entries) (header, assignments) => root.section? header assignments) root
  match entries? with
  | some entries => .ok entries.document
  | none => .error .syntaxError

end RequestBridge.Toml
