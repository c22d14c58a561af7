/-!
# Errors

Why a statement does not compile or a row cannot be read as asked. Each cause
carries what its message names.
-/

namespace BoundQuery

inductive Error where
  /-- The bound names and the names in the query differ. -/
  | parameterMismatch (missing unexpected : List String)
  /-- Named and positional values are bound to one statement. -/
  | mixedBindings
  /-- The row has no such column. -/
  | columnNotFound (column : String)
  /-- The kind of value in the column is outside what the target type reads. -/
  | cannotConvert (column kind target : String)
  /-- The result was fetched, closed or failed before. -/
  | resultClosed
  deriving DecidableEq, Repr

def Error.message : Error → String
  | .parameterMismatch missing unexpected =>
    "parameter mismatch: missing bindings [" ++ ", ".intercalate missing ++
      "], unexpected bindings [" ++ ", ".intercalate unexpected ++ "]"
  | .mixedBindings => "cannot mix named and positional bindings on one statement"
  | .columnNotFound column => "column not found: " ++ column
  | .cannotConvert column kind target =>
    "cannot convert column '" ++ column ++ "' from " ++ kind ++ " to " ++ target
  | .resultClosed => "result set is closed"

end BoundQuery
