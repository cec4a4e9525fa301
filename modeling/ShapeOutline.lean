import ShapeOutline.Binary64
import ShapeOutline.Binary64.Shortest
import ShapeOutline.Path.Trail
import ShapeOutline.Path.Text
import ShapeOutline.Measure.Text
import ShapeOutline.Color
import ShapeOutline.Preset
import ShapeOutline.Custom
import ShapeOutline.Shape.Error
import ShapeOutline.Style
import ShapeOutline.Pattern
import ShapeOutline.Pattern.Tile
import ShapeOutline.Gradient
import ShapeOutline.Picture.Size
import ShapeOutline.Picture
import ShapeOutline.Dash
import ShapeOutline.Stroke
import ShapeOutline.Marker
import ShapeOutline.Shadow
import ShapeOutline.Fill
import ShapeOutline.Shape
import ShapeOutline.Proofs.Exact
import ShapeOutline.Proofs.Path.Continuity
import ShapeOutline.Proofs.Guide.Declared
import ShapeOutline.Proofs.Path.Drawable
import ShapeOutline.Proofs.Preset.Outlines
import ShapeOutline.Proofs.Preset.Figures
import ShapeOutline.Proofs.Preset.Arrows
import ShapeOutline.Proofs.Preset.Panels
import ShapeOutline.Proofs.Preset.Symbols
import ShapeOutline.Proofs.Preset.Table
import ShapeOutline.Proofs.Shape.Outline
import ShapeOutline.Proofs.Style.Table
import ShapeOutline.Proofs.Style.Text
import ShapeOutline.Proofs.Style.Definition
import ShapeOutline.Proofs.Shape.Render
import ShapeOutline.Proofs.Path.Subpaths
import ShapeOutline.Proofs.Preset.Subpaths
import ShapeOutline.Proofs.Shape.Guides
import ShapeOutline.Proofs.Style.Run
import ShapeOutline.Proofs.Scale.Length
import ShapeOutline.Proofs.Scale.Drawing
import ShapeOutline.Proofs.Scale.Angle
import ShapeOutline.Proofs.Scale.Formula
import ShapeOutline.Proofs.Scale.Figures
import ShapeOutline.Proofs.Scale.Arrows
import ShapeOutline.Proofs.Scale.Panels
import ShapeOutline.Proofs.Scale.Symbols
import ShapeOutline.Proofs.Scale.Table
import ShapeOutline.Proofs.Path.Trace
import ShapeOutline.Proofs.Path.Mirror
import ShapeOutline.Proofs.Path.Arrowheads
import ShapeOutline.Proofs.Path.OpenEnds
import ShapeOutline.Proofs.Preset.Connectors
import ShapeOutline.Proofs.Shape.Arrowheads
import ShapeOutline.Proofs.Path.Flips
import ShapeOutline.Proofs.Path.Text
import ShapeOutline.Proofs.Sorting
import ShapeOutline.Proofs.Custom.Order
import ShapeOutline.Proofs.Pen.Stretch
import ShapeOutline.Proofs.Path.Pieces
import ShapeOutline.Proofs.Guide.Places
import ShapeOutline.Proofs.Guide.Operands
import ShapeOutline.Proofs.Guide.Printed
import ShapeOutline.Proofs.Guide.Peg
import ShapeOutline.Proofs.Guide.Grammar
import ShapeOutline.Proofs.Guide.Verdict
import ShapeOutline.Proofs.Guide.Resolve
import ShapeOutline.Proofs.Pen.Agreement
import ShapeOutline.Proofs.Pen.Weld
import ShapeOutline.Proofs.Path.Direction
import ShapeOutline.Proofs.Preset.Bubble
import ShapeOutline.Proofs.Scale.Units
import ShapeOutline.Proofs.Shape.Units
import ShapeOutline.Proofs.Path.Turning
import ShapeOutline.Proofs.Preset.Sectors
import ShapeOutline.Proofs.Pen.Stations
import ShapeOutline.Proofs.Preset.Brackets
import ShapeOutline.Proofs.Style.Sink
import ShapeOutline.Proofs.Path.Spans
import ShapeOutline.Proofs.Preset.ArrowMeasures
import ShapeOutline.Proofs.Preset.ArrowSpans
import ShapeOutline.Proofs.Preset.Wedge
import ShapeOutline.Proofs.Gradient.Cover
import ShapeOutline.Proofs.Gradient.Stops
import ShapeOutline.Proofs.Decimal.Canonical
import ShapeOutline.Proofs.Decimal.Rounding
import ShapeOutline.Proofs.Path.Sweep
import ShapeOutline.Proofs.Pen.Consecutive
import ShapeOutline.Proofs.Preset.Corners
import ShapeOutline.Proofs.Path.Polygon
import ShapeOutline.Proofs.Preset.Opposites
import ShapeOutline.Proofs.Preset.Rings
import ShapeOutline.Proofs.Preset.Curves
import ShapeOutline.Proofs.Preset.Bars
import ShapeOutline.Proofs.Path.Unclosed
import ShapeOutline.Proofs.Pen.Elevation
import ShapeOutline.Proofs.Style.Color
import ShapeOutline.Proofs.Division.Arithmetic
import ShapeOutline.Proofs.Division.Drawing
import ShapeOutline.Proofs.Division.Guides
import ShapeOutline.Proofs.Division.Formula
import ShapeOutline.Proofs.Division.Figures
import ShapeOutline.Proofs.Division.Symbols
import ShapeOutline.Proofs.Division.Table
import ShapeOutline.Proofs.Path.Circle
