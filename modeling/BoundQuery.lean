import BoundQuery.Config.Basic
import BoundQuery.Config.Json
import BoundQuery.Cursor.Calls
import BoundQuery.Cursor.ResultSet
import BoundQuery.Cursor.Scan
import BoundQuery.Cursor.Script
import BoundQuery.Cursor.Session
import BoundQuery.Database.Basic
import BoundQuery.Database.Client
import BoundQuery.Database.Command
import BoundQuery.Database.Display
import BoundQuery.Database.Engine
import BoundQuery.Database.Key
import BoundQuery.Database.Pool
import BoundQuery.Database.Running
import BoundQuery.Database.Session
import BoundQuery.Database.Store
import BoundQuery.Database.Token
import BoundQuery.Duration
import BoundQuery.Error
import BoundQuery.Event
import BoundQuery.Ieee.Format
import BoundQuery.Ieee.Order
import BoundQuery.Ieee.Rounding
import BoundQuery.Ieee.Shortest
import BoundQuery.Ieee.Text
import BoundQuery.Ieee.Truncation
import BoundQuery.Ieee.Widening
import BoundQuery.Ieee.Value
import BoundQuery.Json.Basic
import BoundQuery.Json.Reader
import BoundQuery.Proofs.Compilation
import BoundQuery.Proofs.Placeholders
import BoundQuery.Proofs.Release
import BoundQuery.Proofs.Rendered
import BoundQuery.Proofs.Spelling
import BoundQuery.Proofs.Substitution
import BoundQuery.Record.Basic
import BoundQuery.Record.Plan
import BoundQuery.Rendering
import BoundQuery.Row
import BoundQuery.SqlValue.Basic
import BoundQuery.SqlValue.Binding
import BoundQuery.SqlValue.Json
import BoundQuery.SqlValue.Reading
import BoundQuery.SqlValue.Signed
import BoundQuery.Statement.Basic
import BoundQuery.Statement.Compiled
import BoundQuery.Statement.Draft
import BoundQuery.Template.Basic
import BoundQuery.Template.Grammar
import BoundQuery.Template.NameIndex
import BoundQuery.Template.Names
import BoundQuery.Text.Blank
import BoundQuery.Text.ByteOrder
import BoundQuery.Text.Checked
import BoundQuery.Text.DefaultIgnorable
import BoundQuery.Text.GraphemeExtend
import BoundQuery.Text.Numeral
import BoundQuery.Text.Ranges
import BoundQuery.Text.Splice
import BoundQuery.Text.Unprintable
import BoundQuery.Text.Utf8
import BoundQuery.Proofs.Rewriting
import BoundQuery.Proofs.Draining
import BoundQuery.Proofs.Renaming
import BoundQuery.Proofs.Routing
import BoundQuery.Proofs.TypedFetch
import BoundQuery.Proofs.CloseReport
import BoundQuery.Proofs.History
import BoundQuery.Proofs.BindingErrors
import BoundQuery.Proofs.PreparedRuns
import BoundQuery.Proofs.ClientSteps
import BoundQuery.Proofs.Holders
import BoundQuery.Proofs.OneHolder
import BoundQuery.Proofs.RenderedBytes
import BoundQuery.Proofs.RowColumns
import BoundQuery.Proofs.FullReads
import BoundQuery.Proofs.SharedBuffer
import BoundQuery.Proofs.FirstRow
import BoundQuery.Proofs.RowDecoding
import BoundQuery.Proofs.Passthrough
import BoundQuery.Proofs.Fragments
import BoundQuery.Proofs.IntegerForms
import BoundQuery.Proofs.Occurrences
import BoundQuery.Proofs.RowMaps
import BoundQuery.Proofs.FloatIntegers
import BoundQuery.Proofs.TextIntegers
import BoundQuery.Proofs.RepeatedSlots
import BoundQuery.Proofs.PoolSize
import BoundQuery.Proofs.FloatText
import BoundQuery.Proofs.TypedAccess
import BoundQuery.Proofs.ReadBack
import BoundQuery.Proofs.Literals
import BoundQuery.Rendering.Words
