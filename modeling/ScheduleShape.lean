import ScheduleShape.Value
import ScheduleShape.Value.Elements
import ScheduleShape.Text.Block
import ScheduleShape.Text.Quoted
import ScheduleShape.Fault
import ScheduleShape.Outcome
import ScheduleShape.Tree.Address
import ScheduleShape.Tree.Basic
import ScheduleShape.Tree.Kind
import ScheduleShape.Tree.Look
import ScheduleShape.Tree.Shape
import ScheduleShape.Tree.Sketch
import ScheduleShape.Payload
import ScheduleShape.Schedule.Basic
import ScheduleShape.Schedule.Place
import ScheduleShape.Cursor.Basic
import ScheduleShape.Cursor.Navigate
import ScheduleShape.Cursor.Portrait
import ScheduleShape.Cursor.Travel
import ScheduleShape.Pattern.Basic
import ScheduleShape.Pattern.Builder
import ScheduleShape.Pattern.Generalise
import ScheduleShape.Pattern.Grammar
import ScheduleShape.Pattern.Guarded
import ScheduleShape.Pattern.Kin
import ScheduleShape.Pattern.Look
import ScheduleShape.Pattern.Match
import ScheduleShape.Pattern.Meaning
import ScheduleShape.Pattern.Position
import ScheduleShape.Pattern.Relocation
import ScheduleShape.Pattern.Task
import ScheduleShape.Pattern.Twins
import ScheduleShape.Pattern.Watch
import ScheduleShape.Affine.Boxes
import ScheduleShape.Affine.Emptiness
import ScheduleShape.Affine.Expression
import ScheduleShape.Affine.Library
import ScheduleShape.Affine.Object
import ScheduleShape.Affine.PointSet
import ScheduleShape.Affine.Reading
import ScheduleShape.Affine.Relation
import ScheduleShape.Affine.System
import ScheduleShape.Access.Ledger
import ScheduleShape.Access.Matcher
import ScheduleShape.Event
import ScheduleShape.Operand.Basic
import ScheduleShape.Operand.Render
import ScheduleShape.Constraint.Agreement
import ScheduleShape.Constraint.Basic
import ScheduleShape.Constraint.Candidates
import ScheduleShape.Finder.Deed
import ScheduleShape.Finder.Log
import ScheduleShape.Finder.Search
import ScheduleShape.Finder.Usage
import ScheduleShape.Proofs.Ascending
import ScheduleShape.Proofs.Follows
import ScheduleShape.Proofs.Outcome
import ScheduleShape.Proofs.Text.Block
import ScheduleShape.Proofs.Tree.Render
import ScheduleShape.Proofs.Schedule.Conversion
import ScheduleShape.Proofs.Cursor.Ancestry
import ScheduleShape.Proofs.Cursor.Descendants
import ScheduleShape.Proofs.Cursor.InTree
import ScheduleShape.Proofs.Cursor.Portrait
import ScheduleShape.Proofs.Cursor.Relocation
import ScheduleShape.Proofs.Cursor.Siblings
import ScheduleShape.Proofs.Cursor.Travel
import ScheduleShape.Proofs.Pattern.Answers
import ScheduleShape.Proofs.Pattern.Captures
import ScheduleShape.Proofs.Pattern.Found
import ScheduleShape.Proofs.Pattern.Frame
import ScheduleShape.Proofs.Pattern.Generalise
import ScheduleShape.Proofs.Pattern.Grammar
import ScheduleShape.Proofs.Pattern.Inherited
import ScheduleShape.Proofs.Pattern.Kin
import ScheduleShape.Proofs.Pattern.Meaning
import ScheduleShape.Proofs.Pattern.Muted
import ScheduleShape.Proofs.Pattern.OfTree
import ScheduleShape.Proofs.Pattern.Origin
import ScheduleShape.Proofs.Pattern.Raise
import ScheduleShape.Proofs.Pattern.Relocation
import ScheduleShape.Proofs.Pattern.Render
import ScheduleShape.Proofs.Pattern.Simulation
import ScheduleShape.Proofs.Pattern.Task
import ScheduleShape.Proofs.Pattern.Twins
import ScheduleShape.Proofs.Pattern.Verdict
import ScheduleShape.Proofs.Pattern.Watch
import ScheduleShape.Proofs.Affine.Boxes
import ScheduleShape.Proofs.Access.Gate
import ScheduleShape.Proofs.Access.Label
import ScheduleShape.Proofs.Access.Record
import ScheduleShape.Proofs.Operand.Columns
import ScheduleShape.Proofs.Operand.Depth
import ScheduleShape.Proofs.Operand.Render
import ScheduleShape.Proofs.Constraint.Agreement
import ScheduleShape.Proofs.Constraint.Applicable
import ScheduleShape.Proofs.Constraint.Backing
import ScheduleShape.Proofs.Constraint.Candidates
import ScheduleShape.Proofs.Constraint.Meet
import ScheduleShape.Proofs.Constraint.Selection
import ScheduleShape.Proofs.Finder.Chronicle
import ScheduleShape.Proofs.Finder.Contribution
import ScheduleShape.Proofs.Finder.Independence
import ScheduleShape.Proofs.Finder.Log
import ScheduleShape.Proofs.Finder.Order
import ScheduleShape.Proofs.Finder.Partition
import ScheduleShape.Proofs.Finder.Recording
import ScheduleShape.Proofs.Finder.Refusal
import ScheduleShape.Proofs.Finder.Search
