import RequestBridge.Decimal.Text
import RequestBridge.Document
import RequestBridge.Text.Quoted

/-! Documents as JSON texts without blanks. -/
namespace RequestBridge.Json

/-- A character inside quotes. Control characters are written by a letter or by their number,
and what is beyond ASCII stands for itself. -/
def quotedChar (c : Char) : String :=
  if c == '"' then "\\\""
  else if c == '\\' then "\\\\"
  else if c == '\x08' then "\\b"
  else if c == '\x0C' then "\\f"
  else if c == '\n' then "\\n"
  else if c == '\r' then "\\r"
  else if c == '\t' then "\\t"
  else if c.toNat < 0x20 then
    "\\u00" ++ (if c.toNat < 0x10 then "0" else "") ++ Quoted.hex c.toNat
  else c.toString

def quoted (s : String) : String := "\"" ++ String.join (s.toList.map quotedChar) ++ "\""

def bracketed (items : List String) : String := "[" ++ ",".intercalate items ++ "]"

def braced (items : List String) : String := "\x7b" ++ ",".intercalate items ++ "\x7d"

mutual

/-- The text of a document. What has no value is written as null. -/
def write : Document → String
  | .boolean b => Quoted.bool b
  | .integer n => toString n
  | .float x => if x.isFinite then Decimal.text .short x else "null"
  | .text s => quoted s
  | .list items _ => bracketed (writeItems items)
  | .table entries _ => braced (writeEntries entries)
  | .tables items => bracketed (writeTables items)
  | .null => "null"
  | .moment => "null"
  | .fault _ => "null"
  | .fragment _ => "null"

def writeItems : List Document → List String
  | [] => []
  | item :: rest => write item :: writeItems rest

def writeEntries : List (String × Document) → List String
  | [] => []
  | (key, document) :: rest => (quoted key ++ ":" ++ write document) :: writeEntries rest

def writeTables : List (List (String × Document)) → List String
  | [] => []
  | entries :: rest => braced (writeEntries entries) :: writeTables rest

end

end RequestBridge.Json
