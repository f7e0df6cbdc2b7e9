import RequestBridge.Text.Utf8
import RequestBridge.Text.Printable

/-! Values quoted for descriptions.

Text stands between double quotes. The quote, the backslash and the common control
characters are written with a backslash and one letter; other characters that
would not show, or would merge with their neighbour, by their number. Bytes are
written likewise after a `b`, where all beyond plain ASCII is a number. -/
namespace RequestBridge.Quoted

/-- Lower-case hexadecimal digits of a number, without leading zeros. -/
def hex (n : Nat) : String := String.ofList (Nat.toDigits 16 n)

def char (c : Char) : String :=
  if c == '\x00' then "\\0"
  else if c == '\t' then "\\t"
  else if c == '\r' then "\\r"
  else if c == '\n' then "\\n"
  else if c == '"' then "\\\""
  else if c == '\\' then "\\\\"
  else if Printable.isPlain c then c.toString
  else "\\u\x7b" ++ hex c.toNat ++ "\x7d"

def text (s : String) : String := "\"" ++ String.join (s.toList.map char) ++ "\""

def byte (b : UInt8) : String :=
  if b == 0 then "\\0"
  else if b == 9 then "\\t"
  else if b == 13 then "\\r"
  else if b == 10 then "\\n"
  else if b == 34 then "\\\""
  else if b == 92 then "\\\\"
  else if 0x20 ≤ b && b ≤ 0x7E then (Char.ofNat b.toNat).toString
  else "\\x" ++ (if b < 16 then "0" else "") ++ hex b.toNat

def bytes (bs : Bytes) : String := "b\"" ++ String.join (bs.map byte) ++ "\""

/-- A list of described values. -/
def list (items : List String) : String := "[" ++ ", ".intercalate items ++ "]"

/-- A described value that may be missing. -/
def option : Option String → String
  | none => "None"
  | some s => "Some(" ++ s ++ ")"

def fields (entries : List (String × String)) : List String :=
  entries.map fun (field, value) => field ++ ": " ++ value

/-- A described record with all its fields. -/
def record (name : String) (entries : List (String × String)) : String :=
  name ++ " \x7b " ++ ", ".intercalate (fields entries) ++ " \x7d"

/-- A described record that keeps some fields to itself, shown by two dots. -/
def openRecord (name : String) (entries : List (String × String)) : String :=
  name ++ " \x7b " ++ ", ".intercalate (fields entries ++ [".."]) ++ " \x7d"

def bool (b : Bool) : String := if b then "true" else "false"

end RequestBridge.Quoted
