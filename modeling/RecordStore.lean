import RecordStore.Action
import RecordStore.Command.Declaration
import RecordStore.Command.Statement
import RecordStore.Command.Verb
import RecordStore.Console
import RecordStore.Entries
import RecordStore.Fault
import RecordStore.Filter.Basic
import RecordStore.Filter.Evaluation
import RecordStore.Filter.Parser
import RecordStore.Filter.Token
import RecordStore.Main
import RecordStore.Number.Double
import RecordStore.Number.DoubleText
import RecordStore.Number.Numeral
import RecordStore.Number.Rounding
import RecordStore.Number.Shortest
import RecordStore.Payload.Basic
import RecordStore.Payload.Reader
import RecordStore.Record
import RecordStore.Schema
import RecordStore.Store.Basic
import RecordStore.Store.Execution
import RecordStore.Table.Basic
import RecordStore.Table.Change
import RecordStore.Table.Consistency
import RecordStore.Table.Grid
import RecordStore.Table.Index
import RecordStore.Text.Alphanumeric
import RecordStore.Text.Blank
import RecordStore.Text.Canonical
import RecordStore.Text.Cased
import RecordStore.Text.CharSet
import RecordStore.Text.Escape
import RecordStore.Text.Lowercase
import RecordStore.Text.Printable
import RecordStore.Text.Quoted
import RecordStore.Time.Moment
import RecordStore.Time.MomentText
import RecordStore.Value.Basic
import RecordStore.Value.Coercion
import RecordStore.Value.Kind
import RecordStore.Proofs.Text.CanonicalName
import RecordStore.Proofs.Entries
import RecordStore.Proofs.Table.Outcomes
import RecordStore.Proofs.Table.Tracking
import RecordStore.Proofs.Schema
import RecordStore.Proofs.Table.Checks
import RecordStore.Proofs.Record
import RecordStore.Proofs.Table.Soundness
import RecordStore.Proofs.Store.Soundness
import RecordStore.Proofs.Store.Reachable
import RecordStore.Proofs.Table.Scan
import RecordStore.Proofs.Text.InQuotes
import RecordStore.Proofs.Filter.Comparison
import RecordStore.Proofs.Command.Selection
import RecordStore.Proofs.Store.Selection
import RecordStore.Proofs.Filter.Tree
import RecordStore.Proofs.Filter.Spelling
import RecordStore.Proofs.Text.Ascii
import RecordStore.Proofs.Number.Numeral
import RecordStore.Proofs.Command.Parts
import RecordStore.Proofs.Payload.Written
import RecordStore.Proofs.Command.Written
import RecordStore.Proofs.Store.Insertion
import RecordStore.Proofs.Store.Uniqueness
import RecordStore.Proofs.Filter.Grammar
import RecordStore.Proofs.Payload.Grammar
import RecordStore.Proofs.Command.Extent
import RecordStore.Proofs.Store.SameRecords
import RecordStore.Proofs.Filter.Relation
import RecordStore.Proofs.Filter.Sides
import RecordStore.Proofs.Store.FieldNames
import RecordStore.Proofs.Store.Repetition
import RecordStore.Proofs.Store.Independence
import RecordStore.Proofs.Store.Presentation
import RecordStore.Proofs.Store.Respelling
import RecordStore.Proofs.Table.Numbering
import RecordStore.Proofs.Console
import RecordStore.Proofs.Table.Order
import RecordStore.Proofs.Store.Assignment
import RecordStore.Proofs.Store.RepeatedKeys
import RecordStore.Proofs.Table.Mask
import RecordStore.Proofs.Table.Assignment
import RecordStore.Proofs.Table.Reinsertion
import RecordStore.Proofs.Store.Visits
import RecordStore.Proofs.Bounds.Tables
import RecordStore.Proofs.Store.Creation
import RecordStore.Proofs.Filter.Coherence
import RecordStore.Proofs.Filter.Swapping
import RecordStore.Proofs.Store.LostNames
import RecordStore.Proofs.Filter.Refusal
import RecordStore.Proofs.Filter.Laziness
import RecordStore.Proofs.Value.Equality
import RecordStore.Proofs.Filter.Rendering
import RecordStore.Proofs.Bounds.QuotedTexts
import RecordStore.Proofs.Value.Integers
import RecordStore.Proofs.Value.ReadBack
import RecordStore.Proofs.Table.Lines
import RecordStore.Proofs.Table.Columns
import RecordStore.Proofs.Store.Refusals
import RecordStore.Proofs.Filter.Separation
import RecordStore.Proofs.Bounds.Faults
import RecordStore.Proofs.Bounds.Progress
import RecordStore.Proofs.Text.Casing
import RecordStore.Proofs.Table.Consistency
import RecordStore.Proofs.Command.Parentheses
import RecordStore.Proofs.Lookup
