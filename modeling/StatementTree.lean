import StatementTree.Statement.Edit
import StatementTree.Statement.Equality
import StatementTree.Visitor.Worklist
import StatementTree.Visitor.Recorder
import StatementTree.Printer
import StatementTree.Validator.Basic
import StatementTree.Wire.Decode
import StatementTree.Proofs.Wire.WireType
import StatementTree.Proofs.Wire.RoundTrip
import StatementTree.Proofs.Wire.Decoding
import StatementTree.Proofs.Validator.Validation
import StatementTree.Proofs.Text.Spanless
import StatementTree.Proofs.Text.StatementReading
import StatementTree.Proofs.Text.UniqueReadability
import StatementTree.Proofs.Visitor.Traversal
import StatementTree.Proofs.Statement.LastWrite
import StatementTree.Proofs.Wire.RecordType
import StatementTree.Proofs.Printer.Lines
import StatementTree.Proofs.Wire.NestedConditional
import StatementTree.Proofs.Text.Context
import StatementTree.Proofs.Text.Skeleton
import StatementTree.Proofs.Text.Brackets
import StatementTree.Proofs.Validator.SpanIndependence
import StatementTree.Proofs.Equality.UpToZeros
import StatementTree.Proofs.Text.ConstantCondition
import StatementTree.Proofs.Text.Literals
import StatementTree.Proofs.Printer.Terminators
import StatementTree.Proofs.Statement.UpdateAt
import StatementTree.Proofs.Validator.Hints
