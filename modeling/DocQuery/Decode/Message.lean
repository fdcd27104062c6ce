import DocQuery.Decode.Basic
import DocQuery.Unicode.Unprintable

/-!
# Texts of decoding errors

Names stand between backquotes. A string is shown in quotes, with a code for each character that
has no picture of its own.
-/
namespace DocQuery

def Found.shownChar (c : Char) : String :=
  if c = '"' then "\\\""
  else if c = '\\' then "\\\\"
  else if c = '\n' then "\\n"
  else if c = '\r' then "\\r"
  else if c = '\t' then "\\t"
  else if c.toNat = 0 then "\\0"
  else if Unicode.isUnprintable c then
    "\\u\x7b" ++ String.ofList (Nat.toDigits 16 c.toNat) ++ "\x7d"
  else c.toString

def Found.shownString (s : String) : String :=
  s.foldl (fun acc c => acc ++ Found.shownChar c) "\"" ++ "\""

private def ticked (s : String) : String := "\x60" ++ s ++ "\x60"

def Found.text : Found → String
  | .null => "null"
  | .bool b => "boolean " ++ ticked (if b then "true" else "false")
  | .number (.int i) => "integer " ++ ticked (toString i)
  | .number (.float x) => "floating point " ++ ticked x.text
  | .string s => "string " ++ Found.shownString s
  | .sequence => "sequence"
  | .map => "map"
  | .bareVariant => "unit variant"

private def alternatives : List String → String
  | [] => "there are no variants"
  | [a] => "expected " ++ ticked a
  | [a, b] => "expected " ++ ticked a ++ " or " ++ ticked b
  | names => "expected one of " ++ ", ".intercalate (names.map ticked)

def DecodeError.message : DecodeError → String
  | .missingField name => "missing field " ++ ticked name
  | .duplicateField name => "duplicate field " ++ ticked name
  | .unknownVariant found expected =>
    "unknown variant " ++ ticked found ++ ", " ++ alternatives expected
  | .invalidType found expected => "invalid type: " ++ found.text ++ ", expected " ++ expected
  | .invalidValue found expected => "invalid value: " ++ found.text ++ ", expected " ++ expected
  | .invalidLength n expected => "invalid length " ++ n.repr ++ ", expected " ++ expected
  | .noVariantMatches type => "data did not match any variant of untagged enum " ++ type

end DocQuery
