import SketchScreen.Number.Format
import SketchScreen.Surface.Drawing

/-!
# Drawing Files

A drawing as a text in the exchange format: pairs of a code and a value, each on
a line of its own.

## Main Definitions

- `Exchange.entityPairs`: the pairs of an entity.
- `Drawing.write`: the text of a drawing.
-/

namespace SketchScreen

namespace Exchange

/-- A code with its value. -/
abbrev Pair := Nat × String

/-- The pair of a float. -/
def float (code : Nat) (x : Float) : Pair := (code, Number.writeFloat x)

/-- The pairs of a point; the codes of its coordinates are ten apart. -/
def point (code : Nat) (p : Point Float) : List Pair :=
  [float code p.x, float (code + 10) p.y, float (code + 20) 0.0]

/-- The pairs of a point in the plane. -/
def planePoint (code : Nat) (p : Point Float) : List Pair :=
  [float code p.x, float (code + 10) p.y]

/-- The number of a true colour. -/
def colorNumber (c : Color) : Int := c.r * 0x10000 + c.g * 0x100 + c.b

/-- The pairs that say what an entity looks like. -/
def shapePairs : EntityShape → List Pair
  | .line start stop => (100, "AcDbLine") :: point 10 start ++ point 11 stop
  | .polyline points =>
    [(100, "AcDbPolyline"), (90, s!"{points.length}"), (70, "1")]
      ++ points.flatMap (planePoint 10)
  | .circle center radius => (100, "AcDbCircle") :: point 10 center ++ [float 40 radius]
  | .ellipse center axis ratio =>
    (100, "AcDbEllipse") :: point 10 center ++ point 11 axis
      ++ [float 40 ratio, float 41 0.0, float 42 Drawing.fullTurn]
  | .text text height location =>
    (100, "AcDbText") :: point 10 location ++ [float 40 height, (1, text)]
      ++ point 11 location
      ++ [(100, "AcDbText"), (73, "3")]
  | .hatch points =>
    (100, "AcDbHatch") :: point 10 ⟨0.0, 0.0⟩
      ++ [float 210 0.0, float 220 0.0, float 230 1.0, (2, "SOLID"), (70, "1"), (71, "0"),
        (91, "1"), (92, "3"), (72, "0"), (73, "1"), (93, s!"{points.length}")]
      ++ points.flatMap (planePoint 10) ++ [(97, "0"), (75, "1"), (76, "1"), (98, "0")]

/-- The pairs of an entity with a number. -/
def entityPairs (number : Nat) (e : Entity) : List Pair :=
  [(0, e.typeName), (5, String.ofList (Nat.toDigits 16 (number + 0x100))),
    (100, "AcDbEntity"), (8, e.layer), (420, s!"{colorNumber e.color}")] ++ shapePairs e.shape

/-- The pairs of a section. -/
def sectionPairs (name : String) (body : List Pair) : List Pair :=
  [(0, "SECTION"), (2, name)] ++ body ++ [(0, "ENDSEC")]

/-- The pairs of the table of layers. -/
def layerPairs : List Pair :=
  [(0, "TABLE"), (2, "LAYER"), (70, s!"{Drawing.layers.length}")]
    ++ Drawing.layers.flatMap (fun layer =>
      [(0, "LAYER"), (100, "AcDbSymbolTableRecord"), (100, "AcDbLayerTableRecord"),
        (2, layer.1), (70, "0"), (62, s!"{layer.2}"), (6, "Continuous")])
    ++ [(0, "ENDTAB")]

/-- A pair on two lines. -/
def pairText (pair : Pair) : String := s!"{pair.1}\n{pair.2}\n"

end Exchange

/-- The text of a drawing. -/
def Drawing.write (entities : List Entity) : String :=
  let header := [(9, "$ACADVER"), (1, version), (9, "$INSUNITS"), (70, s!"{unit}")]
  let body := (entities.mapIdx Exchange.entityPairs).flatten
  let pairs := Exchange.sectionPairs "HEADER" header
    ++ Exchange.sectionPairs "TABLES" Exchange.layerPairs
    ++ Exchange.sectionPairs "ENTITIES" body ++ [(0, "EOF")]
  String.join (pairs.map Exchange.pairText)

end SketchScreen
