import BoundQuery.Json.Basic

/-!
# Reading JSON

The grammar is strict: no leading zeros, no bare control characters, no trailing
commas, and nothing but white space after the value. Escapes are checked where a
string is read, and pairing of surrogates where its text is wanted, so that a
string nobody asks for may hold a lone surrogate.
-/

namespace BoundQuery
namespace Json

/-- The four characters that may stand between tokens. -/
def isSpace (c : Char) : Bool := c == ' ' || c == '\n' || c == '\t' || c == '\r'

def skipSpace (cs : List Char) : List Char := cs.dropWhile isSpace

def hexValue? (c : Char) : Option Nat :=
  if c.isDigit then some (c.toNat - '0'.toNat)
  else if 'a' ≤ c ∧ c ≤ 'f' then some (c.toNat - 'a'.toNat + 10)
  else if 'A' ≤ c ∧ c ≤ 'F' then some (c.toNat - 'A'.toNat + 10)
  else none

def hexUnit? (a b c d : Char) : Option Nat := do
  let a ← hexValue? a
  let b ← hexValue? b
  let c ← hexValue? c
  let d ← hexValue? d
  some (((a * 16 + b) * 16 + c) * 16 + d)

/-- What a one-letter escape stands for. -/
def simpleEscape? : Char → Option Char
  | '"' => some '"'
  | '\\' => some '\\'
  | '/' => some '/'
  | 'b' => some '\x08'
  | 'f' => some '\x0c'
  | 'n' => some '\n'
  | 'r' => some '\r'
  | 't' => some '\t'
  | _ => none

/-- Splits at the quote that ends a string, given the text after the one that opens it. -/
def splitString? : List Char → Option (List Char × List Char)
  | [] => none
  | '"' :: cs => some ([], cs)
  | '\\' :: 'u' :: a :: b :: c :: d :: cs =>
    if (hexUnit? a b c d).isSome then
      (splitString? cs).map fun parts => ('\\' :: 'u' :: a :: b :: c :: d :: parts.1, parts.2)
    else none
  | '\\' :: e :: cs =>
    if (simpleEscape? e).isSome then
      (splitString? cs).map fun parts => ('\\' :: e :: parts.1, parts.2)
    else none
  | c :: cs =>
    if c = '\\' ∨ c.toNat < 0x20 then none
    else (splitString? cs).map fun parts => (c :: parts.1, parts.2)

/-- The text of a string's lexeme; none if it has a surrogate without its partner. -/
def unescape? : List Char → Option (List Char)
  | [] => some []
  | '\\' :: 'u' :: a :: b :: c :: d :: cs => do
    let unit ← hexUnit? a b c d
    if 0xD800 ≤ unit ∧ unit < 0xDC00 then
      match cs with
      | '\\' :: 'u' :: a :: b :: c :: d :: cs =>
        let low ← hexUnit? a b c d
        if 0xDC00 ≤ low ∧ low < 0xE000 then
          let rest ← unescape? cs
          some (Char.ofNat (0x10000 + (unit - 0xD800) * 0x400 + (low - 0xDC00)) :: rest)
        else none
      | _ => none
    else if 0xDC00 ≤ unit ∧ unit < 0xE000 then none
    else
      let rest ← unescape? cs
      some (Char.ofNat unit :: rest)
  | '\\' :: e :: cs => do
    let c ← simpleEscape? e
    let rest ← unescape? cs
    some (c :: rest)
  | c :: cs => (unescape? cs).map (c :: ·)

/-- One or more digits. -/
def splitDigits? (cs : List Char) : Option (List Char × List Char) :=
  match cs.takeWhile Char.isDigit with
  | [] => none
  | ds => some (ds, cs.dropWhile Char.isDigit)

/-- A zero alone or digits that do not start with one. -/
def splitWhole? : List Char → Option (List Char × List Char)
  | '0' :: cs => some (['0'], cs)
  | cs => splitDigits? cs

def splitFraction? : List Char → Option (List Char × List Char)
  | '.' :: cs => (splitDigits? cs).map fun parts => ('.' :: parts.1, parts.2)
  | cs => some ([], cs)

def splitExponent? : List Char → Option (List Char × List Char)
  | [] => some ([], [])
  | e :: cs =>
    if e = 'e' ∨ e = 'E' then
      match cs with
      | '+' :: cs => (splitDigits? cs).map fun parts => (e :: '+' :: parts.1, parts.2)
      | '-' :: cs => (splitDigits? cs).map fun parts => (e :: '-' :: parts.1, parts.2)
      | cs => (splitDigits? cs).map fun parts => (e :: parts.1, parts.2)
    else some ([], e :: cs)

def splitNumber? (cs : List Char) : Option (List Char × List Char) := do
  let (sign, cs) := match cs with
    | '-' :: cs => (['-'], cs)
    | cs => ([], cs)
  let (whole, cs) ← splitWhole? cs
  let (fraction, cs) ← splitFraction? cs
  let (exponent, cs) ← splitExponent? cs
  some (sign ++ whole ++ fraction ++ exponent, cs)

def afterWord? : List Char → List Char → Option (List Char)
  | [], cs => some cs
  | _ :: _, [] => none
  | w :: ws, c :: cs => if w = c then afterWord? ws cs else none

mutual

/-- Reads one value and gives back what follows. Every nested value takes at least one character,
so as much fuel as there are characters is enough. -/
def readValue? : Nat → List Char → Option (Json × List Char)
  | 0, _ => none
  | fuel + 1, cs =>
    match skipSpace cs with
    | 'n' :: cs => (afterWord? "ull".toList cs).map fun rest => (.null, rest)
    | 't' :: cs => (afterWord? "rue".toList cs).map fun rest => (.bool true, rest)
    | 'f' :: cs => (afterWord? "alse".toList cs).map fun rest => (.bool false, rest)
    | '"' :: cs => (splitString? cs).map fun parts => (.string parts.1, parts.2)
    | '[' :: cs =>
      match skipSpace cs with
      | ']' :: rest => some (.array [], rest)
      | cs => (readElements? fuel cs).map fun parts => (.array parts.1, parts.2)
    | '\x7b' :: cs =>
      match skipSpace cs with
      | '\x7d' :: rest => some (.object [], rest)
      | cs => (readMembers? fuel cs).map fun parts => (.object parts.1, parts.2)
    | cs => (splitNumber? cs).map fun parts => (.number parts.1, parts.2)

/-- Reads the elements up to the closing bracket. -/
def readElements? : Nat → List Char → Option (List Json × List Char)
  | 0, _ => none
  | fuel + 1, cs => do
    let (value, cs) ← readValue? fuel cs
    match skipSpace cs with
    | ']' :: rest => some ([value], rest)
    | ',' :: cs =>
      let (values, rest) ← readElements? fuel cs
      some (value :: values, rest)
    | _ => none

/-- Reads the members up to the closing brace. -/
def readMembers? : Nat → List Char → Option (List (List Char × Json) × List Char)
  | 0, _ => none
  | fuel + 1, cs => do
    match skipSpace cs with
    | '"' :: cs =>
      let (key, cs) ← splitString? cs
      match skipSpace cs with
      | ':' :: cs =>
        let (value, cs) ← readValue? fuel cs
        match skipSpace cs with
        | '\x7d' :: rest => some ([(key, value)], rest)
        | ',' :: cs =>
          let (members, rest) ← readMembers? fuel cs
          some ((key, value) :: members, rest)
        | _ => none
      | _ => none
    | _ => none

end

def read? (text : String) : Option Json := do
  let cs := text.toList
  let (value, rest) ← readValue? (2 * cs.length + 2) cs
  if (skipSpace rest).isEmpty then some value else none

end Json
end BoundQuery
