import SketchScreen.Main
import SketchScreen.Proofs.Characters
import SketchScreen.Proofs.Decimal
import SketchScreen.Proofs.Grammar
import SketchScreen.Proofs.Viability
import SketchScreen.Proofs.Descent
import SketchScreen.Proofs.Consumption
import SketchScreen.Proofs.Source
import SketchScreen.Proofs.Pieces
import SketchScreen.Proofs.Words
import SketchScreen.Proofs.Forms
import SketchScreen.Proofs.Run
import SketchScreen.Proofs.Atomicity
import SketchScreen.Proofs.Formula
import SketchScreen.Proofs.Operand
import SketchScreen.Proofs.Script
import SketchScreen.Proofs.Lexeme
import SketchScreen.Proofs.Cutting
import SketchScreen.Proofs.Spacing
import SketchScreen.Proofs.Substitution
import SketchScreen.Proofs.Resolution
import SketchScreen.Proofs.Quoting
import SketchScreen.Proofs.JsonText
import SketchScreen.Proofs.Check
import SketchScreen.Proofs.Simulation
import SketchScreen.Proofs.Composition
import SketchScreen.Proofs.Printing
import SketchScreen.Proofs.Comment
import SketchScreen.Proofs.Magnitude
import SketchScreen.Proofs.Surfaces
import SketchScreen.Proofs.ExactValue
import SketchScreen.Proofs.NonFinite
import SketchScreen.Proofs.Arithmetic
import SketchScreen.Proofs.TextSize
import SketchScreen.Proofs.Pixels
import SketchScreen.Proofs.GridOverlay
import SketchScreen.Proofs.Painter
import SketchScreen.Proofs.Rectangles
import SketchScreen.Proofs.Filling
import SketchScreen.Proofs.Boxes
import SketchScreen.Proofs.Border
import SketchScreen.Proofs.Radius
import SketchScreen.Proofs.Outline
import SketchScreen.Proofs.Clamping
import SketchScreen.Proofs.Ellipses
import SketchScreen.Proofs.StoredSize
import SketchScreen.Proofs.Storing
import SketchScreen.Proofs.ColorRoutes
import SketchScreen.Proofs.Writing
import SketchScreen.Proofs.Packing
import SketchScreen.Proofs.Numerals
import SketchScreen.Proofs.Binding
import SketchScreen.Proofs.Confinement
