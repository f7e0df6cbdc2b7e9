/-! Texts in TOML.

A text stands between one or three quotes of one kind. Between double quotes a
backslash begins an escape; between single quotes everything stands for itself.
Between three quotes lines may end, and one or two quotes in a row are text. Readers
take what is at the front and give back what follows it. -/
namespace RequestBridge.Toml

/-- Characters that may stand in a text: all but control characters other than the tab. -/
def isPlain (c : Char) : Bool := c == '\t' || (0x20 ≤ c.toNat && c.toNat ≠ 0x7F)

/-- Blanks within a line. -/
def isBlank (c : Char) : Bool := c == ' ' || c == '\t'

def skipBlanks (cs : List Char) : List Char := cs.dropWhile isBlank

/-- What follows the end of a line that is at the front. -/
def lineEnd? : List Char → Option (List Char)
  | '\n' :: rest => some rest
  | '\r' :: '\n' :: rest => some rest
  | _ => none

def hexDigit? (c : Char) : Option Nat :=
  if '0' ≤ c ∧ c ≤ '9' then some (c.toNat - '0'.toNat)
  else if 'a' ≤ c ∧ c ≤ 'f' then some (c.toNat - 'a'.toNat + 10)
  else if 'A' ≤ c ∧ c ≤ 'F' then some (c.toNat - 'A'.toNat + 10)
  else none

/-- The character whose number the next `width` hexadecimal digits give. -/
def numbered? (width : Nat) (cs : List Char) : Option (Char × List Char) := do
  let digits ← (cs.take width).mapM hexDigit?
  let n := digits.foldl (fun n d => 16 * n + d) 0
  if digits.length = width && n.isValidChar then some (Char.ofNat n, cs.drop width) else none

/-- The character behind a backslash. -/
def escape? : List Char → Option (Char × List Char)
  | 'b' :: rest => some ('\x08', rest)
  | 't' :: rest => some ('\t', rest)
  | 'n' :: rest => some ('\n', rest)
  | 'f' :: rest => some ('\x0C', rest)
  | 'r' :: rest => some ('\r', rest)
  | '"' :: rest => some ('"', rest)
  | '\\' :: rest => some ('\\', rest)
  | 'u' :: rest => numbered? 4 rest
  | 'U' :: rest => numbered? 8 rest
  | _ => none

/-- What follows a line that ends behind a backslash: blanks and line ends are passed over. -/
def continued? (cs : List Char) : Option (List Char) :=
  (lineEnd? (skipBlanks cs)).map skipSpace
where
  skipSpace : List Char → List Char
    | '\n' :: rest => skipSpace rest
    | '\r' :: '\n' :: rest => skipSpace rest
    | c :: rest => if isBlank c then skipSpace rest else c :: rest
    | [] => []

/-- A text that was read, and what follows it. -/
abbrev TextReading := Option (String × List Char)

/-- The characters up to the closing quote on the same line, of which `done` have been
read, the last first. With `escapes` a backslash begins an escape. Every step takes a
character, so as many steps as characters are enough. -/
def lineText (quote : Char) (escapes : Bool) : Nat → List Char → List Char → TextReading
  | 0, _, _ => none
  | _, _, [] => none
  | steps + 1, done, c :: rest =>
    if c == quote then some (String.ofList done.reverse, rest)
    else if escapes && c == '\\' then
      match escape? rest with
      | some (c, rest) => lineText quote escapes steps (c :: done) rest
      | none => none
    else if isPlain c then lineText quote escapes steps (c :: done) rest
    else none

/-- The characters up to three closing quotes. Up to two more quotes before them are text. -/
def blockText (quote : Char) (escapes : Bool) : Nat → List Char → List Char → TextReading
  | 0, _, _ => none
  | _, _, [] => none
  | steps + 1, done, c :: rest =>
    if c == quote then
      let run := ((c :: rest).takeWhile (· == quote)).length
      if 3 ≤ run then
        let inside := min (run - 3) 2
        some (String.ofList (List.replicate inside quote ++ done).reverse, rest.drop (inside + 2))
      else blockText quote escapes steps (c :: done) rest
    else if escapes && c == '\\' then
      match continued? rest, escape? rest with
      | some rest, _ => blockText quote escapes steps done rest
      | none, some (c, rest) => blockText quote escapes steps (c :: done) rest
      | none, none => none
    else match lineEnd? (c :: rest) with
      | some rest => blockText quote escapes steps ('\n' :: done) rest
      | none => if isPlain c then blockText quote escapes steps (c :: done) rest else none

/-- The text between single quotes of the given kind, from behind the opening one on. -/
def lineTextAfter (quote : Char) (steps : Nat) (rest : List Char) : TextReading :=
  lineText quote (quote == '"') steps [] rest

/-- The text that begins with a quote of the given kind. A line that ends right behind
three opening quotes is no part of it. -/
def textAfter (quote : Char) (steps : Nat) (rest : List Char) : TextReading :=
  match rest with
  | a :: b :: inner =>
    if a == quote && b == quote then
      let inner := (lineEnd? inner).getD inner
      blockText quote (quote == '"') steps [] inner
    else lineTextAfter quote steps rest
  | _ => lineTextAfter quote steps rest

end RequestBridge.Toml
