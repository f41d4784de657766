import ScriptValue.Accounting.Appraisal
import ScriptValue.Accounting.Context
import ScriptValue.Accounting.Usage
import ScriptValue.Accounting.Walk
import ScriptValue.Boxing
import ScriptValue.Coercion
import ScriptValue.Decimal.Basic
import ScriptValue.Decimal.Layout
import ScriptValue.Decimal.Shortest
import ScriptValue.Decimal.Significant
import ScriptValue.Display
import ScriptValue.Double.Basic
import ScriptValue.Double.Integral
import ScriptValue.Double.Remainder
import ScriptValue.Double.Rounding
import ScriptValue.Double.Wrapping
import ScriptValue.Equality
import ScriptValue.Error
import ScriptValue.FunctionName
import ScriptValue.Hash.Basic
import ScriptValue.Hash.KeyedMap
import ScriptValue.Hash.MapKey
import ScriptValue.Hash.Seeds
import ScriptValue.Host
import ScriptValue.Identity
import ScriptValue.Inspection
import ScriptValue.Number
import ScriptValue.Numeral
import ScriptValue.PlainData.Basic
import ScriptValue.PlainData.Export
import ScriptValue.PlainData.Json
import ScriptValue.PlainData.Serialize
import ScriptValue.Proofs.Accounting.Endless
import ScriptValue.Proofs.Accounting.Exact
import ScriptValue.Proofs.Accounting.Heap
import ScriptValue.Proofs.Accounting.Nesting
import ScriptValue.Proofs.Accounting.Requests
import ScriptValue.Proofs.Accounting.Reuse
import ScriptValue.Proofs.Accounting.Walk
import ScriptValue.Proofs.Coercion.Boxed
import ScriptValue.Proofs.Coercion.Failures
import ScriptValue.Proofs.Coercion.Primitive
import ScriptValue.Proofs.Coercion.ThroughNumber
import ScriptValue.Proofs.Decimal.ReadBack
import ScriptValue.Proofs.Decimal.Rendering
import ScriptValue.Proofs.Decimal.Shortest
import ScriptValue.Proofs.Decimal.Significant
import ScriptValue.Proofs.Double.Nearest
import ScriptValue.Proofs.Double.Quantity
import ScriptValue.Proofs.Double.Rounding
import ScriptValue.Proofs.Double.Wrapping
import ScriptValue.Proofs.Equality.Failures
import ScriptValue.Proofs.Equality.Interchange
import ScriptValue.Proofs.Equality.Loose
import ScriptValue.Proofs.Equality.Strength
import ScriptValue.Proofs.Equality.Strict
import ScriptValue.Proofs.Equality.Symmetry
import ScriptValue.Proofs.Hash.Keys
import ScriptValue.Proofs.Hash.MapRuns
import ScriptValue.Proofs.Hash.Strict
import ScriptValue.Proofs.Host.Recorded
import ScriptValue.Proofs.Identity.Creation
import ScriptValue.Proofs.Number.Conversion
import ScriptValue.Proofs.Number.Encoding
import ScriptValue.Proofs.Number.Exact
import ScriptValue.Proofs.Number.Integers
import ScriptValue.Proofs.Numeral.Bytes
import ScriptValue.Proofs.Numeral.Canonical
import ScriptValue.Proofs.Numeral.Formatting
import ScriptValue.Proofs.Numeral.Grammar
import ScriptValue.Proofs.Numeral.Integers
import ScriptValue.Proofs.Numeral.Radix
import ScriptValue.Proofs.Numeral.RoundTrip
import ScriptValue.Proofs.Numeral.Written
import ScriptValue.Proofs.PlainData.Readable
import ScriptValue.Proofs.PlainData.Scalars
import ScriptValue.Proofs.Slot.Access
import ScriptValue.Proofs.Slot.Assignment
import ScriptValue.Proofs.Slot.History
import ScriptValue.Proofs.Slot.Reentrancy
import ScriptValue.Proofs.SmallBox.Sharing
import ScriptValue.Slot.Access
import ScriptValue.Slot.Basic
import ScriptValue.SmallBox
import ScriptValue.Text.Blank
import ScriptValue.Text.Invisible
import ScriptValue.Value
import ScriptValue.World
