/-! Documents as trees of keys and values.

A text that is read from front to back may be usable up to the place where it
breaks off. So a tree may end early: a fault stands where the next value would be, a
fragment where a value has only begun, and the tail of a list or a table says whether it
was closed. -/
namespace RequestBridge

/-- How a text breaks off. -/
inductive Fault where
  /-- What comes next may not stand there. -/
  | syntaxError
  /-- The text ends before it is complete. -/
  | ended
deriving DecidableEq, Repr

/-- What follows the last item that was read of a list or a table. -/
inductive Tail where
  | closed
  /-- A fault, in the place of a comma or a closing bracket. -/
  | broken (fault : Fault)
  /-- A fault after a comma, in the place of an item or a key. -/
  | brokenAfterComma (fault : Fault)
deriving DecidableEq, Repr

inductive Document where
  | null
  | boolean (value : Bool)
  | integer (value : Int)
  | float (value : Float)
  | text (value : String)
  /-- A date, a time, or both. -/
  | moment
  | list (items : List Document) (tail : Tail)
  /-- A table in the order of its keys; a key may be repeated. -/
  | table (entries : List (String × Document)) (tail : Tail)
  /-- Tables that stand one by one, each under a heading of its own, and make a list. -/
  | tables (items : List (List (String × Document)))
  /-- No value, or a text that breaks off. -/
  | fault (f : Fault)
  /-- A word or a numeral that breaks off. -/
  | fragment (f : Fault)
deriving Inhabited

end RequestBridge
