import BoundQuery.Text.Blank

/-!
# SQL tokens

The words, names, literals, numbers, arguments and symbols that a text of SQL
consists of. Tokens are separated by ASCII white space and by comments; every
character beyond ASCII belongs to a word. Arguments are numbered from the left,
and a question mark inside quotes is text.
-/

namespace BoundQuery

inductive Token where
  | word (w : String)
  | quotedName (w : String)
  | text (s : String)
  | number (digits : String)
  | argument (i : Nat)
  | symbol (s : String)
  deriving DecidableEq, Repr

namespace Token

def isWordStart (c : Char) : Bool := c.isAlpha || c == '_' || 0x80 ≤ c.toNat

def isWordChar (c : Char) : Bool := isWordStart c || c.isDigit || c == '$'

/-- White space that can follow any token. -/
def isSeparator (c : Char) : Bool :=
  c == ' ' || c == '\t' || c == '\n' || c == '\x0c' || c == '\r'

/-- White space that can follow white space: a vertical tab only counts there. -/
def isFurtherSeparator (c : Char) : Bool := isSeparator c || c == '\x0b'

/-- Splits after the closing quote of a literal; a quote inside it is written twice. -/
def splitQuoted? (quote : Char) : List Char → Option (List Char × List Char)
  | [] => none
  | [c] => if c = quote then some ([], []) else none
  | c :: d :: cs =>
    if c = quote then
      if d = quote then (splitQuoted? quote cs).map fun parts => (quote :: parts.1, parts.2)
      else some ([], d :: cs)
    else (splitQuoted? quote (d :: cs)).map fun parts => (c :: parts.1, parts.2)

/-- Splits after the bracket that closes a name, which cannot hold one. -/
def splitBracketed? : List Char → Option (List Char × List Char)
  | [] => none
  | c :: cs =>
    if c = ']' then some ([], cs)
    else (splitBracketed? cs).map fun parts => (c :: parts.1, parts.2)

/-- What follows the end of a comment; one without an end takes all of the text. -/
def afterComment : List Char → List Char
  | [] => []
  | [_] => []
  | c :: d :: cs => if c = '*' ∧ d = '/' then cs else afterComment (d :: cs)

/-- What follows white space, a byte order mark or a comment, if the text starts with one. -/
def afterSeparator? : List Char → Option (List Char)
  | '-' :: '-' :: cs => some (cs.dropWhile (· != '\n'))
  | '/' :: '*' :: c :: cs => some (afterComment (c :: cs))
  | '\ufeff' :: cs => some cs
  | c :: cs => if isSeparator c then some (cs.dropWhile isFurtherSeparator) else none
  | [] => none

/-- Reads one token, the next argument being the given one. -/
def readOne? (next : Nat) : List Char → Option (Token × List Char)
  | [] => none
  | '?' :: cs => some (.argument next, cs)
  | '\'' :: cs => (splitQuoted? '\'' cs).map fun parts => (.text (String.ofList parts.1), parts.2)
  | '"' :: cs =>
    (splitQuoted? '"' cs).map fun parts => (.quotedName (String.ofList parts.1), parts.2)
  | '\x60' :: cs =>
    (splitQuoted? '\x60' cs).map fun parts => (.quotedName (String.ofList parts.1), parts.2)
  | '[' :: cs =>
    (splitBracketed? cs).map fun parts => (.quotedName (String.ofList parts.1), parts.2)
  | '>' :: '=' :: cs => some (.symbol ">=", cs)
  | '=' :: '=' :: cs => some (.symbol "=", cs)
  | c :: cs =>
    let tail := cs.takeWhile isWordChar
    let rest := cs.drop tail.length
    if isWordStart c then some (.word (String.ofList (c :: tail)), rest)
    else if c.isDigit then
      if tail.all Char.isDigit then some (.number (String.ofList (c :: tail)), rest) else none
    else some (.symbol (String.singleton c), cs)

/-- Reads all tokens, the next argument being the given one. Every token and separator takes a
character, so as much fuel as there are characters is enough. -/
def readAll? : (fuel : Nat) → (next : Nat) → List Char → Option (List Token)
  | _, _, [] => some []
  | 0, _, _ :: _ => none
  | fuel + 1, next, c :: cs =>
    match afterSeparator? (c :: cs) with
    | some rest => readAll? fuel next rest
    | none => do
      let (token, rest) ← readOne? next (c :: cs)
      let next := match token with
        | .argument _ => next + 1
        | _ => next
      (readAll? fuel next rest).map (token :: ·)

/-- The tokens of a text, which is first trimmed of white space of every kind. No text with a null
character has any. -/
def ofText? (sql : String) : Option (List Token) :=
  let cs := Text.trim sql.toList
  if cs.contains '\x00' then none else readAll? cs.length 0 cs

/-- Whether two tokens are the same up to the case of a word. -/
def agrees : Token → Token → Bool
  | .word a, .word b => a.toLower == b.toLower
  | a, b => a == b

/-- What follows the given tokens, if the text starts with them. -/
def after? : List Token → List Token → Option (List Token)
  | [], ts => some ts
  | _ :: _, [] => none
  | e :: es, t :: ts => if e.agrees t then after? es ts else none

/-- What follows these words and symbols, if the tokens start with them. -/
def skip? (words : String) (ts : List Token) : Option (List Token) := do
  after? (← ofText? words) ts

/-- Words that name nothing unless they are quoted. -/
def reservedWords : List String :=
  ["add", "all", "alter", "and", "as", "autoincrement", "between", "case", "check", "collate",
   "commit", "constraint", "create", "default", "deferrable", "delete", "distinct", "drop", "else",
   "escape", "except", "exists", "foreign", "from", "group", "having", "in", "index", "insert",
   "intersect", "into", "is", "isnull", "join", "limit", "not", "nothing", "notnull", "null", "on",
   "or", "order", "primary", "references", "returning", "select", "set", "table", "then", "to",
   "transaction", "union", "unique", "update", "using", "values", "when", "where"]

/-- Words that name something only after AS, since they could go on an expression or a join. -/
def joiningWords : List String :=
  ["cross", "full", "glob", "indexed", "inner", "left", "like", "match", "natural", "outer",
   "regexp", "right"]

/-- The name that a token is after AS. -/
def name? : Token → Option String
  | .word w => if reservedWords.contains w.toLower then none else some w
  | .quotedName w => some w
  | .text s => some s
  | _ => none

/-- The name that a token is where AS is left out. -/
def bareName? : Token → Option String
  | .word w => if joiningWords.contains w.toLower then none else name? (.word w)
  | t => t.name?

example : ofText? "k>=? -- all" = some [.word "k", .symbol ">=", .argument 0] := by decide +kernel

example : ofText? "?\u00a0AS" = some [.argument 0, .word "\u00a0AS"] := by decide +kernel

example : ofText? "'it''s ?', ?" = some [.text "it's ?", .symbol ",", .argument 0] := by
  decide +kernel

end Token
end BoundQuery
