import DocQuery.Hex
import DocQuery.Json

/-!
# Compact JSON text

Quotes, backslashes and control characters are escaped; every other character is written as it
is. Nothing is written between tokens.
-/
namespace DocQuery.Json

def escapeChar (c : Char) : String :=
  if c = '"' then "\\\""
  else if c = '\\' then "\\\\"
  else if c = '\n' then "\\n"
  else if c = '\r' then "\\r"
  else if c = '\t' then "\\t"
  else if c.toNat = 8 then "\\b"
  else if c.toNat = 12 then "\\f"
  else if c.toNat < 32 then
    "\\u00" ++ String.ofList (Hex.ofByte c.toUInt8)
  else c.toString

def quote (s : String) : String := s.foldl (fun acc c => acc ++ escapeChar c) "\"" ++ "\""

mutual

def text : Json → String
  | .null => "null"
  | .bool true => "true"
  | .bool false => "false"
  | .number n => n.text
  | .string s => quote s
  | .array [] => "[]"
  | .array (x :: xs) => "[" ++ text x ++ textItems xs ++ "]"
  | .object [] => "\x7b\x7d"
  | .object ((k, v) :: rest) => "\x7b" ++ quote k ++ ":" ++ text v ++ textMembers rest ++ "\x7d"

def textItems : List Json → String
  | [] => ""
  | x :: xs => "," ++ text x ++ textItems xs

def textMembers : List (String × Json) → String
  | [] => ""
  | (k, v) :: rest => "," ++ quote k ++ ":" ++ text v ++ textMembers rest

end

end DocQuery.Json
