/-!
# JSON trees

The leaves of a tree are lexemes: a number keeps its spelling and a string keeps
what stands between its quotes. Writing a tree is then concatenation, without
spaces, and a string is escaped once, where it enters the tree.
-/

namespace BoundQuery

inductive Json where
  | null
  | bool (b : Bool)
  | number (lexeme : List Char)
  | string (lexeme : List Char)
  | array (elements : List Json)
  | object (members : List (List Char × Json))

namespace Json

/-- The escape of a character inside a string: the quote, the backslash and everything below the
space are escaped, and nothing else is. -/
def escapeChar (c : Char) : List Char :=
  if c = '"' then ['\\', '"']
  else if c = '\\' then ['\\', '\\']
  else if c = '\x08' then ['\\', 'b']
  else if c = '\x0c' then ['\\', 'f']
  else if c = '\n' then ['\\', 'n']
  else if c = '\r' then ['\\', 'r']
  else if c = '\t' then ['\\', 't']
  else if c.toNat < 0x20 then
    ['\\', 'u', '0', '0', Nat.digitChar (c.toNat / 16), Nat.digitChar (c.toNat % 16)]
  else [c]

def ofString (s : String) : Json := .string (s.toList.flatMap escapeChar)

def ofNat (n : Nat) : Json := .number (Nat.toDigits 10 n)

def ofMembers (members : List (String × Json)) : Json :=
  .object (members.map fun member => (member.1.toList.flatMap escapeChar, member.2))

def quote (lexeme : List Char) : List Char := '"' :: lexeme ++ ['"']

mutual

def write : Json → List Char
  | .null => "null".toList
  | .bool b => if b then "true".toList else "false".toList
  | .number lexeme => lexeme
  | .string lexeme => quote lexeme
  | .array elements => '[' :: writeElements elements ++ [']']
  | .object members => '\x7b' :: writeMembers members ++ ['\x7d']

def writeElements : List Json → List Char
  | [] => []
  | [value] => write value
  | value :: next :: rest => write value ++ ',' :: writeElements (next :: rest)

def writeMembers : List (List Char × Json) → List Char
  | [] => []
  | [(key, value)] => quote key ++ ':' :: write value
  | (key, value) :: next :: rest => quote key ++ ':' :: write value ++ ',' :: writeMembers (next :: rest)

end

def toText (value : Json) : String := String.ofList value.write

end Json
end BoundQuery
