import BoundQuery.Config.Basic
import BoundQuery.Json.Reader

/-!
# Settings as JSON

Settings are read from an object, whose unknown keys are ignored and whose
missing ones take their defaults, or from an array that gives the fields in
order and may stop early. A known key may come once only. A grammar is an object
with one key, its kind; a duration needs both of its parts and has no others.
-/

namespace BoundQuery
namespace Json

def string? : Json → Option String
  | .string lexeme => (unescape? lexeme).map String.ofList
  | _ => none

/-- A whole number below a limit, written as digits alone. -/
def natBelow? (limit : Nat) : Json → Option Nat
  | .number lexeme => (Text.readNat? lexeme).filter fun n => n < limit
  | _ => none

/-- The members of an object with their keys as text. -/
def keyed? (members : List (List Char × Json)) : Option (List (String × Json)) :=
  members.mapM fun member => (unescape? member.1).map fun key => (String.ofList key, member.2)

def single? (members : List (String × Json)) (key : String) : Option (Option Json) :=
  match members.filter fun member => member.1 == key with
  | [] => some none
  | [member] => some (some member.2)
  | _ => none

/-- The values given for these fields by an object or by an array. -/
def fieldValues? (keys : List String) : Json → Option (List (Option Json))
  | .object members => do
    let members ← keyed? members
    keys.mapM (single? members)
  | .array elements =>
    if elements.length ≤ keys.length then
      some (elements.map some ++ List.replicate (keys.length - elements.length) none)
    else none
  | _ => none

def orDefault {α : Type} (read : Json → Option α) (fallback : α) : Option Json → Option α
  | none => some fallback
  | some value => read value

def optional? {α : Type} (read : Json → Option α) : Json → Option (Option α)
  | .null => some none
  | value => (read value).map some

end Json

namespace Grammar

def json (g : Grammar) : Json :=
  match g with
  | .sigil m => .ofMembers [("sigil", .ofString (String.singleton m))]
  | .delimited m => .ofMembers [("delimited", .ofString (String.singleton m))]

def ofJson? : Json → Option Grammar
  | .object [(key, value)] => do
    let kind ← Json.unescape? key
    let marker ← value.string?
    match marker.toList with
    | [m] =>
      if kind = "sigil".toList then some (.sigil m)
      else if kind = "delimited".toList then some (.delimited m)
      else none
    | _ => none
  | _ => none

end Grammar

namespace Duration

def json (d : Duration) : Json := .ofMembers [("secs", .ofNat d.seconds), ("nanos", .ofNat d.nanos)]

def ofJsonParts? (seconds nanos : Json) : Option Duration := do
  ofParts? (← seconds.natBelow? UInt64.size) (← nanos.natBelow? UInt32.size)

def ofJson? : Json → Option Duration
  | .object members => do
    match ← Json.keyed? members with
    | [("secs", seconds), ("nanos", nanos)] => ofJsonParts? seconds nanos
    | [("nanos", nanos), ("secs", seconds)] => ofJsonParts? seconds nanos
    | _ => none
  | .array [seconds, nanos] => ofJsonParts? seconds nanos
  | _ => none

end Duration

namespace BindConfig

def json (c : BindConfig) : Json := .ofMembers [("param_style", c.style.json)]

def ofJson? (value : Json) : Option BindConfig := do
  match ← value.fieldValues? ["param_style"] with
  | [style] => some ⟨← Json.orDefault Grammar.ofJson? default style⟩
  | _ => none

end BindConfig

namespace DatabaseConfig

def json (c : DatabaseConfig) : Json :=
  .ofMembers
    [("url", .ofString c.url), ("max_connections", .ofNat c.maxConnections),
     ("param_style", c.style.json), ("statement_timeout", c.timeout.elim .null Duration.json)]

def ofJson? (value : Json) : Option DatabaseConfig := do
  let start : DatabaseConfig := default
  match ← value.fieldValues? ["url", "max_connections", "param_style", "statement_timeout"] with
  | [url, maxConnections, style, timeout] =>
    some
      { url := ← Json.orDefault Json.string? start.url url
        maxConnections :=
          ← Json.orDefault (Json.natBelow? UInt32.size) start.maxConnections maxConnections
        style := ← Json.orDefault Grammar.ofJson? start.style style
        timeout := ← Json.orDefault (Json.optional? Duration.ofJson?) start.timeout timeout }
  | _ => none

end DatabaseConfig
end BoundQuery
