import RequestBridge.Text.Quoted

/-! Parts of a text, cut out by byte offsets.

A text can be cut in front of a character and behind one, but not inside. -/
namespace RequestBridge

/-- Why a part cannot be cut out of a text: it would begin or end inside a character. -/
structure BadCut where
  /-- Whether it is the end of the part that lies inside a character. -/
  atEnd : Bool
  offset : Nat
  char : Char
  /-- The offset at which the character begins. -/
  start : Nat
deriving DecidableEq, Repr

def BadCut.message (b : BadCut) : String :=
  (if b.atEnd then "end" else "start") ++ s!" byte index {b.offset} is not a char boundary; " ++
    "it is inside '" ++ Quoted.char b.char ++ "' " ++
    s!"(bytes {b.start}..{b.start + b.char.utf8Size} of string)"

namespace Cut

/-- The character inside which an offset lies, and the offset at which it begins, in a text
that begins at the offset `start`. -/
def inside? (start offset : Nat) : List Char → Option (Char × Nat)
  | [] => none
  | c :: rest =>
    if offset ≤ start then none
    else if offset < start + c.utf8Size then some (c, start)
    else inside? (start + c.utf8Size) offset rest

/-- Checks one end of a part. -/
def checkOffset (cs : List Char) (atEnd : Bool) (offset : Nat) : Except BadCut Unit :=
  match inside? 0 offset cs with
  | some (char, start) => .error { atEnd, offset, char, start }
  | none => .ok ()

/-- Checks a part by the offsets at which it begins and ends, the first one first. -/
def check (cs : List Char) (start stop : Nat) : Except BadCut Unit := do
  checkOffset cs false start
  checkOffset cs true stop

/-- What is left of a text behind some bytes at its front. -/
def dropBytes : Nat → List Char → List Char
  | 0, cs => cs
  | _, [] => []
  | n + 1, c :: rest => dropBytes (n + 1 - c.utf8Size) rest

/-- The part of a text from an offset on. -/
def suffix (cs : List Char) (start : Nat) : Except BadCut (List Char) := do
  checkOffset cs false start
  return dropBytes start cs

end Cut
end RequestBridge
