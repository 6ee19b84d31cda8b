import TensorGraph.Attribute.Reader
import TensorGraph.Graph.Workspace
import TensorGraph.Registry.Standard
import TensorGraph.Tensor.Printed
import TensorGraph.Proofs.Binary.Reading
import TensorGraph.Proofs.Literal.Regular
import TensorGraph.Proofs.Offence
import TensorGraph.Proofs.Shape.RowMajor
import TensorGraph.Proofs.Tensor.Lookup
import TensorGraph.Graph.Call
import TensorGraph.Proofs.Graph.Naming
import TensorGraph.Proofs.Graph.Step
import TensorGraph.Proofs.Registry.Loaded
import TensorGraph.Proofs.Workspace.Reachable
import TensorGraph.Proofs.Graph.Store
import TensorGraph.Proofs.Graph.Drafting
import TensorGraph.Proofs.Attribute.Encode
import TensorGraph.Proofs.Graph.Contract
import TensorGraph.Proofs.Graph.Refused
import TensorGraph.Proofs.Bytes.Reading
import TensorGraph.Proofs.Binary.Word
import TensorGraph.Proofs.Tensor.Buffer
import TensorGraph.Proofs.Attribute.Serialized
import TensorGraph.Proofs.Graph.FirstOutput
import TensorGraph.Proofs.Graph.Attributes
import TensorGraph.Proofs.Graph.Feeding
import TensorGraph.Proofs.Workspace.Outputs
import TensorGraph.Proofs.Workspace.Wiring
import TensorGraph.Proofs.Graph.Acceptance
import TensorGraph.Proofs.Graph.Verdict
import TensorGraph.Proofs.Graph.AttributeNames
import TensorGraph.Proofs.Tensor.Construction
import TensorGraph.Proofs.Graph.Copy
import TensorGraph.Proofs.Graph.DefaultNames
import TensorGraph.Proofs.Tensor.Recovery
import TensorGraph.Proofs.Attribute.Numbers
import TensorGraph.Proofs.Registry.Loading
import TensorGraph.Binary.Integer
import TensorGraph.Proofs.Binary.Integer
import TensorGraph.Proofs.Literal.Irregular
import TensorGraph.Proofs.Literal.ByPath
import TensorGraph.Proofs.Shape.OffsetOrder
import TensorGraph.Proofs.Attribute.Representation
import TensorGraph.Proofs.Tensor.Extent
import TensorGraph.Proofs.Shape.Coordinates
import TensorGraph.Proofs.Tensor.Slabs
import TensorGraph.Proofs.Tensor.Printing
import TensorGraph.Proofs.Graph.NameSearch
import TensorGraph.Proofs.Graph.Commuting
import TensorGraph.Proofs.Workspace.References
import TensorGraph.Proofs.Text.Lowercase
import TensorGraph.Proofs.Registry.Spelling
import TensorGraph.Proofs.Binary.Narrowing
import TensorGraph.Proofs.Events
import TensorGraph.Proofs.Graph.Logging
import TensorGraph.Bytes.VarintByShift
import TensorGraph.Proofs.Bytes.Varint
import TensorGraph.Proofs.Graph.Settings
