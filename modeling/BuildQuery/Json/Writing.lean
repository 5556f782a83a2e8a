/-!
# JSON text

Strings and members as JSON text. Only quotes, backslashes and control characters are escaped, with
the short escapes where there are any; nothing stands between the parts.
-/

namespace BuildQuery.Json

/-- The lower-case hexadecimal digits of a control character, four of them. -/
def hexEscape (n : Nat) : List Char :=
  ['\\', 'u', '0', '0', Nat.digitChar (n / 16), Nat.digitChar (n % 16)]

/-- A character of a string. -/
def writeChar (c : Char) : List Char :=
  match c with
  | '"' => ['\\', '"']
  | '\\' => ['\\', '\\']
  | '\x08' => ['\\', 'b']
  | '\x0c' => ['\\', 'f']
  | '\n' => ['\\', 'n']
  | '\r' => ['\\', 'r']
  | '\t' => ['\\', 't']
  | c => if c.toNat < 0x20 then hexEscape c.toNat else [c]

/-- A string in quotes. -/
def writeString (s : String) : String := "\"" ++ String.ofList (s.toList.flatMap writeChar) ++ "\""

/-- A string, or null for none. -/
def writeString? : Option String → String
  | some s => writeString s
  | none => "null"

/-- An object of members whose values are JSON text. -/
def writeObject (members : List (String × String)) : String :=
  "\x7b" ++
    String.intercalate "," (members.map fun (name, value) => writeString name ++ ":" ++ value)
    ++ "\x7d"

end BuildQuery.Json
