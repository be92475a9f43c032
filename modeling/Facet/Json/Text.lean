import Facet.Json.Basic
import Facet.Number.Style
import Facet.Text.Quoted

namespace Facet.Json

open Number

def escape (c : Char) : List Char :=
  if c = '"' ∨ c = '\\' then ['\\', c]
  else if c = '\n' then ['\\', 'n']
  else if c = '\t' then ['\\', 't']
  else if c = '\r' then ['\\', 'r']
  else if c = '\x08' then ['\\', 'b']
  else if c = '\x0c' then ['\\', 'f']
  else if c.toNat < 0x10 then ['\\', 'u', '0', '0', '0'] ++ Text.hexDigits c.toNat
  else if c.toNat < 0x20 then ['\\', 'u', '0', '0'] ++ Text.hexDigits c.toNat
  else [c]

def quote (s : String) : String := .ofList ('"' :: (s.toList.flatMap escape ++ ['"']))

mutual

def compact : Json → String
  | .null => "null"
  | .bool b => if b then "true" else "false"
  | .integer n => toString n
  | .real x => Style.encoded.write x
  | .string s => quote s
  | .array items => "[" ++ ",".intercalate (compactItems items) ++ "]"
  | .object fields => "\x7b" ++ ",".intercalate (compactFields fields) ++ "\x7d"

def compactItems : List Json → List String
  | [] => []
  | a :: as => compact a :: compactItems as

def compactFields : List (String × Json) → List String
  | [] => []
  | (k, a) :: as => (quote k ++ ":" ++ compact a) :: compactFields as

end

mutual

def debug : Json → String
  | .null => "Null"
  | .bool b => if b then "Bool(true)" else "Bool(false)"
  | .integer n => "Number(" ++ toString n ++ ")"
  | .real x => "Number(" ++ Style.encoded.write x ++ ")"
  | .string s => "String(" ++ Text.quote s ++ ")"
  | .array items => "Array [" ++ ", ".intercalate (debugItems items) ++ "]"
  | .object fields => "Object \x7b" ++ ", ".intercalate (debugFields fields) ++ "\x7d"

def debugItems : List Json → List String
  | [] => []
  | a :: as => debug a :: debugItems as

def debugFields : List (String × Json) → List String
  | [] => []
  | (k, a) :: as => (Text.quote k ++ ": " ++ debug a) :: debugFields as

end

end Facet.Json
