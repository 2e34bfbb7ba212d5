import DeviceMap.Affine
import DeviceMap.CommandLine.Arguments
import DeviceMap.CommandLine.Run
import DeviceMap.Datum
import DeviceMap.Decimal
import DeviceMap.Decimal.Notation
import DeviceMap.Decimal.Shortest
import DeviceMap.Device
import DeviceMap.Dial
import DeviceMap.Drawing
import DeviceMap.Hexadecimal
import DeviceMap.Interaction
import DeviceMap.Json.Printer
import DeviceMap.Json.Reader
import DeviceMap.Loading
import DeviceMap.Mac
import DeviceMap.Main
import DeviceMap.Marker
import DeviceMap.Marker.Target
import DeviceMap.Message
import DeviceMap.Projection
import DeviceMap.Proofs.CommandLine.Failure
import DeviceMap.Proofs.Decimal.Notation
import DeviceMap.Proofs.Decimal.Shortest
import DeviceMap.Proofs.Decimal.Value
import DeviceMap.Proofs.Device.Bounds
import DeviceMap.Proofs.Device.Finite
import DeviceMap.Proofs.Device.Listed
import DeviceMap.Proofs.Dial.Continuity
import DeviceMap.Proofs.Dial.Encoding
import DeviceMap.Proofs.Double.Bounds
import DeviceMap.Proofs.Double.Difference
import DeviceMap.Proofs.Double.Exact
import DeviceMap.Proofs.Double.Number
import DeviceMap.Proofs.Double.Rank
import DeviceMap.Proofs.Double.Scientific
import DeviceMap.Proofs.Double.Sum
import DeviceMap.Proofs.Double.Unsigned
import DeviceMap.Proofs.Double.Value
import DeviceMap.Proofs.Double.Whole
import DeviceMap.Proofs.Exact.Body
import DeviceMap.Proofs.Exact.Inverse
import DeviceMap.Proofs.Exact.Isometric
import DeviceMap.Proofs.Exact.Marker
import DeviceMap.Proofs.Exact.Real
import DeviceMap.Proofs.Exact.Segment
import DeviceMap.Proofs.Exact.View
import DeviceMap.Proofs.Interaction.Edit
import DeviceMap.Proofs.Interaction.Frame
import DeviceMap.Proofs.Interaction.Protocol
import DeviceMap.Proofs.Interaction.Refusal
import DeviceMap.Proofs.Json.Finite
import DeviceMap.Proofs.Json.Grammar
import DeviceMap.Proofs.Json.Number
import DeviceMap.Proofs.Json.Quoted
import DeviceMap.Proofs.Json.RoundTrip
import DeviceMap.Proofs.Mac
import DeviceMap.Proofs.Marker.Layout
import DeviceMap.Proofs.Marker.Stroke
import DeviceMap.Proofs.Marker.Topmost
import DeviceMap.Proofs.Ranging.Angles
import DeviceMap.Proofs.Ranging.Direction
import DeviceMap.Proofs.Ranging.Measure
import DeviceMap.Proofs.Ranging.Refresh
import DeviceMap.Proofs.Record.Codec
import DeviceMap.Proofs.Record.Device
import DeviceMap.Proofs.Record.Drawing
import DeviceMap.Proofs.Record.Event
import DeviceMap.Proofs.Record.Gesture
import DeviceMap.Proofs.Record.Lossless
import DeviceMap.Proofs.Record.RoundTrip
import DeviceMap.Proofs.Record.Settings
import DeviceMap.Proofs.Report
import DeviceMap.Proofs.Scene.Admission
import DeviceMap.Proofs.Scene.Ascent
import DeviceMap.Proofs.Scene.Bounds
import DeviceMap.Proofs.Scene.Coalesce
import DeviceMap.Proofs.Scene.Drag
import DeviceMap.Proofs.Scene.Elevation
import DeviceMap.Proofs.Scene.Finite
import DeviceMap.Proofs.Scene.Log
import DeviceMap.Proofs.Scene.Press
import DeviceMap.Proofs.Scene.Repair
import DeviceMap.Proofs.Scene.Run
import DeviceMap.Proofs.Scene.Surface
import DeviceMap.Ranging
import DeviceMap.Record
import DeviceMap.Record.Device
import DeviceMap.Record.Drawing
import DeviceMap.Record.Event
import DeviceMap.Report
import DeviceMap.Rotation
import DeviceMap.Scalar
import DeviceMap.Scalar.Double
import DeviceMap.Scene
import DeviceMap.Scene.Admission
import DeviceMap.Settings
import DeviceMap.Toml.Document
import DeviceMap.Toml.Lexical
import DeviceMap.Toml.Moment
import DeviceMap.Toml.Number
import DeviceMap.Toml.Quoted
import DeviceMap.Toml.Table
import DeviceMap.Toml.Value
import DeviceMap.Vector
import DeviceMap.Viewport
