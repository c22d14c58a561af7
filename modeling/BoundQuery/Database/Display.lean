import BoundQuery.Database.Basic
import BoundQuery.Text.DefaultIgnorable
import BoundQuery.Text.GraphemeExtend
import BoundQuery.Text.Unprintable

/-!
# Diagnostic displays

How open transactions and query results are shown in diagnostics: the name of
the type and its fields in braces, text in quotes. A character that would not be
seen, or would join the one before it, is shown by its code point. What a holder
keeps to itself is shown as dots.
-/

namespace BoundQuery
namespace Display

def hexDigits (n : Nat) : String := String.ofList (Nat.toDigits 16 n)

/-- The two marks of Grapheme_Extend that take a place of their own: the halfwidth katakana sound
marks. -/
def isSpacingMark (c : Char) : Bool := c == '\uff9e' || c == '\uff9f'

/-- Whether a character is shown by its code point. -/
def isHidden (c : Char) : Bool :=
  Text.isUnprintable c || Text.isDefaultIgnorable c ||
    (Text.isGraphemeExtend c && !isSpacingMark c)

def escaped (quote : Char) (c : Char) : String :=
  if c = '\\' then "\\\\"
  else if c = quote then String.ofList ['\\', quote]
  else if c = '\n' then "\\n"
  else if c = '\r' then "\\r"
  else if c = '\t' then "\\t"
  else if c = '\x00' then "\\0"
  else if isHidden c then "\\u\x7b" ++ hexDigits c.toNat ++ "\x7d"
  else String.singleton c

def quoted (s : String) : String := "\"" ++ String.join (s.toList.map (escaped '"')) ++ "\""

def character (c : Char) : String := "'" ++ escaped '\'' c ++ "'"

def list (items : List String) : String := "[" ++ ", ".intercalate items ++ "]"

/-- A named structure with these fields, and dots if it has more. -/
def fieldsOf (name : String) (fields : List (String × String)) (hasMore : Bool) : String :=
  let shown := fields.map fun field => field.1 ++ ": " ++ field.2
  let shown := if hasMore then shown ++ [".."] else shown
  name ++ " \x7b " ++ ", ".intercalate shown ++ " \x7d"

def tagged (name content : String) : String := name ++ "(" ++ content ++ ")"

def value : SqlValue → String
  | .null => "Null"
  | .bool b => tagged "Bool" (if b then "true" else "false")
  | .int8 n => tagged "Int8" (toString n.toInt)
  | .int16 n => tagged "Int16" (toString n.toInt)
  | .int32 n => tagged "Int32" (toString n.toInt)
  | .int64 n => tagged "Int64" (toString n.toInt)
  | .float32 x => tagged "Float32" (x.write .display)
  | .float64 x => tagged "Float64" (x.write .display)
  | .text s => tagged "Text" (quoted s)
  | .bytes b => tagged "Bytes" (list (b.map fun byte => toString byte.toNat))

def grammar : Grammar → String
  | .sigil m => tagged "Sigil" (character m)
  | .delimited m => tagged "Delimited" (character m)

def config (c : DatabaseConfig) : String :=
  fieldsOf "DatabaseConfig"
    [("url", quoted c.url), ("max_connections", toString c.maxConnections),
     ("param_style", grammar c.style),
     ("statement_timeout", c.timeout.elim "None" fun d => tagged "Some" d.text)]
    false

def transaction (t : Transaction) : String :=
  fieldsOf "Transaction" [("config", config t.config)] true

def compiled (c : CompiledStatement) : String :=
  fieldsOf "CompiledStatement"
    [("source", quoted c.source), ("sql", quoted c.sql), ("args", list (c.args.map value)),
     ("slots", list (c.slots.map toString)),
     ("named", list (c.named.map fun b => "(" ++ quoted b.1 ++ ", " ++ value b.2 ++ ")"))]
    false

def queryResult (r : QueryResult) : String :=
  fieldsOf "QueryResult"
    [("statement", compiled r.statement), ("columns", list (r.columns.map quoted)),
     ("closed", if r.isClosed then "true" else "false")]
    true

end Display
end BoundQuery
