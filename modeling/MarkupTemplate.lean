import MarkupTemplate.Condition
import MarkupTemplate.Engine
import MarkupTemplate.Inspection.Views
import MarkupTemplate.Json.Reader
import MarkupTemplate.Libraries
import MarkupTemplate.Proofs.Building
import MarkupTemplate.Proofs.Evaluation
import MarkupTemplate.Proofs.Outcome
import MarkupTemplate.Proofs.Soundness
import MarkupTemplate.Proofs.Completeness
import MarkupTemplate.Proofs.Documents
import MarkupTemplate.Proofs.Identity
import MarkupTemplate.Proofs.History
import MarkupTemplate.Proofs.Skeleton
import MarkupTemplate.Proofs.Shapes
import MarkupTemplate.Proofs.Names
import MarkupTemplate.Proofs.Words
import MarkupTemplate.Proofs.Spelling
import MarkupTemplate.Proofs.Uses
import MarkupTemplate.Proofs.NormalForm
import MarkupTemplate.Proofs.Filling
import MarkupTemplate.Proofs.Sites
import MarkupTemplate.Proofs.Cuttings
import MarkupTemplate.Proofs.FilledTags
import MarkupTemplate.Proofs.MarkedTags
import MarkupTemplate.Proofs.MarkedTrees
import MarkupTemplate.Proofs.Weaving
import MarkupTemplate.Proofs.Writing
import MarkupTemplate.Proofs.Image
import MarkupTemplate.Proofs.Accounting
import MarkupTemplate.Proofs.Failing
import MarkupTemplate.Proofs.Invoking
import MarkupTemplate.Proofs.Overwriting
import MarkupTemplate.Proofs.Conservation
import MarkupTemplate.Proofs.Retyping
import MarkupTemplate.Proofs.Assembly
import MarkupTemplate.Proofs.Settings
import MarkupTemplate.Proofs.Reconfiguring
import MarkupTemplate.Proofs.Explicit
import MarkupTemplate.Proofs.Decoding
import MarkupTemplate.Proofs.FirstFault
import MarkupTemplate.Proofs.Storing
import MarkupTemplate.Proofs.Bucketing
import MarkupTemplate.Proofs.BareTags
import MarkupTemplate.Proofs.WellFormed
import MarkupTemplate.Proofs.RunningText
import MarkupTemplate.Proofs.Outline
import MarkupTemplate.Proofs.Joining
import MarkupTemplate.Proofs.Layout
import MarkupTemplate.Proofs.SelfClosing
import MarkupTemplate.Proofs.VoidClosing
import MarkupTemplate.Proofs.Unfolded
import MarkupTemplate.Proofs.Pool
import MarkupTemplate.Proofs.Pointing
import MarkupTemplate.Proofs.Locating
import MarkupTemplate.Proofs.Preorder
import MarkupTemplate.Proofs.TagFaults
import MarkupTemplate.Proofs.Misreadings
import MarkupTemplate.Proofs.Scanning
import MarkupTemplate.Proofs.Lines
import MarkupTemplate.Proofs.FieldOrder
import MarkupTemplate.Proofs.Describing
import MarkupTemplate.Proofs.Hashing
import MarkupTemplate.Proofs.Flattening
