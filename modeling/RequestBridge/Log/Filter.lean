import RequestBridge.Text.Alphanumeric
import RequestBridge.Text.Cut

/-! Filters of log events.

A filter is a list of directives between commas. A directive names a level, or a
target, a span and its fields, with a level behind an equals sign. The parts of a
directive are found in the text without the white space around it, but they are cut out
of the text as it stands. So white space at either end spoils a level, and a part may come
to begin or end inside a character. -/
namespace RequestBridge.Log

inductive FilterError where
  | directive
  | level
  /-- A part of a directive cannot be cut out. -/
  | cut (b : BadCut)
deriving DecidableEq, Repr

def FilterError.message : FilterError → String
  | .directive => "invalid filter directive"
  | .level =>
    "error parsing level filter: expected one of " ++
      "\"off\", \"error\", \"warn\", \"info\", \"debug\", \"trace\", or a number 0-5"
  | .cut b => b.message

namespace Filter

def isBlank (c : Char) : Bool :=
  let n := c.toNat
  (0x9 ≤ n && n ≤ 0xD) || n == 0x20 || n == 0x85 || n == 0xA0 || n == 0x1680 ||
    (0x2000 ≤ n && n ≤ 0x200A) || n == 0x2028 || n == 0x2029 || n == 0x202F || n == 0x205F ||
    n == 0x3000

def trim (cs : List Char) : List Char :=
  ((cs.dropWhile isBlank).reverse.dropWhile isBlank).reverse

/-- The value of a decimal numeral below `2 ^ 64`, which may have a plus in front. -/
def numeral? (cs : List Char) : Option Nat :=
  let digits := match cs with
    | '+' :: rest => rest
    | _ => cs
  if digits.isEmpty || !digits.all Char.isDigit then none
  else
    let n := digits.foldl (fun n c => 10 * n + (c.toNat - '0'.toNat)) 0
    if n < Nat.pow 2 64 then some n else none

def levelWords : List String := ["off", "error", "warn", "info", "debug", "trace"]

/-- Whether the text is a level: a number up to five, a word in any case, or nothing. -/
def isLevel (cs : List Char) : Bool :=
  match numeral? cs with
  | some n => n ≤ 5
  | none => cs.isEmpty || levelWords.contains (String.ofList (cs.map Char.toLower))

/-- Where the reading of a directive stands. Offsets count bytes. -/
inductive State where
  | start
  | levelOrTarget
  | span (start : Nat)
  | field (start : Nat)
  | fields
  | target
  | level (start : Nat)
deriving DecidableEq, Repr

/-- Checks a part of a directive by the offsets at which it begins and ends. -/
def checkPart (text : List Char) (start stop : Nat) : Except FilterError Unit :=
  (Cut.check text start stop).mapError .cut

/-- The state after the character at the given offset, if it may stand there and the part
that it ends can be cut out of the text. -/
def step (text : List Char) (s : State) (offset : Nat) (c : Char) : Except FilterError State :=
  match s with
  | .start =>
    if c == '[' then .ok (.span (offset + 1))
    else if Alphanumeric.isWord c || c == '-' || c == ':' || c == '_' then .ok .levelOrTarget
    else .error .directive
  | .levelOrTarget =>
    if c == '=' then (checkPart text 0 offset).map fun _ => .level (offset + 1)
    else if c == '[' then (checkPart text 0 offset).map fun _ => .span (offset + 1)
    else .ok .levelOrTarget
  | .span start =>
    if c == ']' then (checkPart text start offset).map fun _ => .target
    else if c == '\x7b' then (checkPart text start offset).map fun _ => .field (offset + 1)
    else .ok (.span start)
  | .field start =>
    if c == '\x7d' then do
      checkPart text start offset
      if start = offset then throw .directive
      return .fields
    else .ok (.field start)
  | .fields => if c == ']' then .ok .target else .error .directive
  | .target => if c == '=' then .ok (.level (offset + 1)) else .error .directive
  | .level start => .ok (.level start)

def scan (text : List Char) (s : State) (offset : Nat) : List Char → Except FilterError State
  | [] => .ok s
  | c :: rest => do
    let s ← step text s offset c
    scan text s (offset + c.utf8Size) rest

def checkDirective (text : List Char) : Except FilterError Unit := do
  match ← scan text .start 0 (trim text) with
  | .levelOrTarget => return
  | .target => return
  | .level start =>
    let level ← (Cut.suffix text start).mapError .cut
    if !isLevel level then throw .level
  | _ => throw .directive

/-- The parts of a text between commas. -/
def splitCommas (cs : List Char) : List (List Char) := cs.splitOn ','

/-- Checks a filter; the first directive with a fault decides. Empty directives do not count. -/
def check (filter : String) : Except FilterError Unit :=
  ((splitCommas filter.toList).filter (!·.isEmpty)).forM checkDirective

end Filter
end RequestBridge.Log
