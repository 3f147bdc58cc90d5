import GoldenTree.Digest.Hex

/-! Lines of JSON: one object without spaces, its members in a fixed order. -/
namespace GoldenTree.Report

def jsonChar (c : Char) : List Char :=
  if c = '"' then ['\\', '"']
  else if c = '\\' then ['\\', '\\']
  else if c = '\x08' then ['\\', 'b']
  else if c = '\x0C' then ['\\', 'f']
  else if c = '\n' then ['\\', 'n']
  else if c = '\r' then ['\\', 'r']
  else if c = '\t' then ['\\', 't']
  else if c.toNat < 0x20 then ['\\', 'u', '0', '0'] ++ Digest.hexByte (UInt8.ofNat c.toNat)
  else [c]

def jsonString (s : String) : String :=
  String.ofList ('"' :: s.toList.flatMap jsonChar ++ ['"'])

/-- One member of an object; the value is JSON already. -/
def jsonMember (key value : String) : String := jsonString key ++ ":" ++ value

/-- The object of those members that have a value. -/
def jsonObject (members : List (String × Option String)) : String :=
  let present := members.filterMap fun (key, value?) => value?.map (jsonMember key)
  "\x7b" ++ ",".intercalate present ++ "\x7d"

end GoldenTree.Report
