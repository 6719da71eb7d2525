import BundleGraph.Json.Basic
import BundleGraph.Json.Decimal

/-!
# Compact JSON text

The text of a value without blanks.  Strings keep every character but the quote, the
backslash and the control characters, which are escaped.
-/

namespace BundleGraph.Json

/-- A digit to base sixteen. -/
def hexDigit (n : Nat) : Char :=
  Nat.digitChar (n % 16)

/-- The characters of a string between its quotes. -/
def escapeChar (c : Char) : List Char :=
  if c = '"' then ['\\', '"']
  else if c = '\\' then ['\\', '\\']
  else if c = '\n' then ['\\', 'n']
  else if c = '\r' then ['\\', 'r']
  else if c = '\t' then ['\\', 't']
  else if c = '\x08' then ['\\', 'b']
  else if c = '\x0c' then ['\\', 'f']
  else if c.toNat < 0x20 then ['\\', 'u', '0', '0', hexDigit (c.toNat / 16), hexDigit c.toNat]
  else [c]

/-- Adds a string in quotes to a text. -/
def writeString (out : String) (s : String) : String :=
  (s.foldl (fun acc c => (escapeChar c).foldl String.push acc) (out.push '"')).push '"'

def writeNumber : JsonNumber → String
  | .integer n => toString n
  | .real bits => Decimal.write bits

mutual

/-- Adds the text of a value to a text. -/
def writeTo (out : String) : Json → String
  | .null => out ++ "null"
  | .bool b => out ++ if b then "true" else "false"
  | .num n => out ++ writeNumber n
  | .str s => writeString out s
  | .arr items => (writeItems (out.push '[') true items).push ']'
  | .obj fields => (writeFields (out.push '{') true fields).push '}'

/-- Adds items with commas between them. -/
def writeItems (out : String) (first : Bool) : List Json → String
  | [] => out
  | v :: vs => writeItems (writeTo (if first then out else out.push ',') v) false vs

/-- Adds entries with commas between them. -/
def writeFields (out : String) (first : Bool) : List (String × Json) → String
  | [] => out
  | (k, v) :: fs =>
    let out := if first then out else out.push ','
    writeFields (writeTo ((writeString out k).push ':') v) false fs

end

/-- The text of a value. -/
def write (v : Json) : String :=
  writeTo "" v

end BundleGraph.Json
