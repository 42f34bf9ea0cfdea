import ShapeOverlay.Editor.Run
import ShapeOverlay.Proofs.Scalar.Laws
import ShapeOverlay.Shape.Json
import ShapeOverlay.Theme.Json
import ShapeOverlay.Proofs.Scalar.Binary64
import ShapeOverlay.Proofs.Traversal.Containment
import ShapeOverlay.Proofs.Traversal.Nesting
import ShapeOverlay.Proofs.Traversal.Order
import ShapeOverlay.Proofs.Editor.Frame
import ShapeOverlay.Proofs.Picture.Alike
import ShapeOverlay.Proofs.Editor.Painting
import ShapeOverlay.Proofs.Editor.Coherence
import ShapeOverlay.Proofs.Scalar.Range
import ShapeOverlay.Proofs.Geometry.UnitSquare
import ShapeOverlay.Proofs.Session.UnitSquare
import ShapeOverlay.Proofs.Editor.UnitSquare
import ShapeOverlay.Proofs.Editor.Outcome
import ShapeOverlay.Proofs.Editor.Response
import ShapeOverlay.Proofs.Editor.Faults
import ShapeOverlay.Proofs.Store.Identity
import ShapeOverlay.Proofs.Editor.Consistency
import ShapeOverlay.Proofs.Editor.Replay
import ShapeOverlay.Proofs.Store.Edits
import ShapeOverlay.Proofs.Editor.Gesture
import ShapeOverlay.Proofs.Editor.Interleaving
import ShapeOverlay.Proofs.Traversal.Greedy
import ShapeOverlay.Proofs.Traversal.Deletion
import ShapeOverlay.Proofs.Traversal.Slots
import ShapeOverlay.Proofs.Session.Detection
import ShapeOverlay.Proofs.Editor.Indistinct
import ShapeOverlay.Proofs.Editor.Renewal
import ShapeOverlay.Proofs.Editor.Interruption
import ShapeOverlay.Proofs.Editor.Selection
import ShapeOverlay.Proofs.Editor.Cursor
import ShapeOverlay.Proofs.Editor.Place
import ShapeOverlay.Proofs.Scalar.Real
import ShapeOverlay.Proofs.Picture.Rescaling
import ShapeOverlay.Proofs.Traversal.Least
import ShapeOverlay.Proofs.Session.Innermost
import ShapeOverlay.Proofs.Session.Drawing
import ShapeOverlay.Proofs.Session.Vertices
import ShapeOverlay.Proofs.Json.Identifier
import ShapeOverlay.Proofs.Json.Value
import ShapeOverlay.Proofs.Json.Fields
import ShapeOverlay.Proofs.Json.Shape
import ShapeOverlay.Proofs.Session.Finish
import ShapeOverlay.Proofs.Session.Refusal
import ShapeOverlay.Proofs.Editor.Preview
import ShapeOverlay.Proofs.Session.Corners
import ShapeOverlay.Proofs.Session.Click
import ShapeOverlay.Proofs.Scalar.Exact
import ShapeOverlay.Proofs.Geometry.OnSurface
import ShapeOverlay.Proofs.Session.Reshaping
import ShapeOverlay.Proofs.Session.CornerDrag
import ShapeOverlay.Proofs.Session.MoverDrag
import ShapeOverlay.Proofs.Session.OnSurface
import ShapeOverlay.Proofs.Session.DragBack
import ShapeOverlay.Proofs.Session.Overlay
import ShapeOverlay.Proofs.Session.Press
import ShapeOverlay.Proofs.Session.RadiusDrag
import ShapeOverlay.Proofs.Store.Removal
import ShapeOverlay.Proofs.Store.Selection
import ShapeOverlay.Proofs.Scalar.Finite
import ShapeOverlay.Proofs.Value.Object
import ShapeOverlay.Proofs.Shape.Attribute
import ShapeOverlay.Proofs.Editor.BulkWrite
import ShapeOverlay.Proofs.Editor.Loading
import ShapeOverlay.Proofs.Theme.Fault
import ShapeOverlay.Proofs.Theme.Json
import ShapeOverlay.Proofs.Geometry.LeastBox
import ShapeOverlay.Proofs.Geometry.Inclusion
import ShapeOverlay.Proofs.Picture.Faults
import ShapeOverlay.Proofs.Session.Extent
import ShapeOverlay.Proofs.Scalar.Propagation
import ShapeOverlay.Proofs.Session.Numbers
import ShapeOverlay.Proofs.Editor.Taking
import ShapeOverlay.Proofs.Editor.Numbers
