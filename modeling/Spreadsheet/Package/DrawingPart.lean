import Spreadsheet.Package.Part
import Spreadsheet.Sheet.Drawing

/-! The parts of the pictures on a sheet: the drawing that places them, and what they are in.
-/

namespace Spreadsheet.Package

open Spreadsheet.Sheet Spreadsheet.Xml

/-- The cell under a corner of a picture. -/
def markerNode (name : String) (cell : Cell.Address) : Node :=
  .element name []
    [.textual "xdr:col" (Nat.repr cell.column), .textual "xdr:colOff" "0",
      .textual "xdr:row" (Nat.repr cell.row), .textual "xdr:rowOff" "0"]

/-- How the picture with a number shows itself, whatever its place. -/
def pictureNode (number : Nat) : Node :=
  .element "xdr:pic" []
    [.element "xdr:nvPicPr" []
        [.leaf "xdr:cNvPr"
            [("id", Nat.repr (number + 1)), ("name", "Picture " ++ Nat.repr number)],
          .element "xdr:cNvPicPr" [] [.leaf "a:picLocks" [("noChangeAspect", "1")]]],
      .element "xdr:blipFill" []
        [.leaf "a:blip" [("r:embed", relationshipId number)],
          .element "a:stretch" [] [.leaf "a:fillRect" []]],
      .element "xdr:spPr" []
        [.element "a:xfrm" []
            [.leaf "a:off" [("x", "0"), ("y", "0")], .leaf "a:ext" [("cx", "0"), ("cy", "0")]],
          .element "a:prstGeom" [("prst", "rect")] [.leaf "a:avLst" []]]]

/-- The picture with a number and its place. -/
def anchorNode (number : Nat) (p : Picture) : Node :=
  .element "xdr:twoCellAnchor" [("editAs", "oneCell")]
    [markerNode "xdr:from" p.anchor.topLeft, markerNode "xdr:to" p.anchor.bottomRight,
      pictureNode number, .leaf "xdr:clientData" []]

/-- The drawing of the pictures of a sheet. -/
def drawingNode (pictures : List Picture) : Node :=
  .element "xdr:wsDr"
    [("xmlns:xdr", "http://schemas.openxmlformats.org/drawingml/2006/spreadsheetDrawing"),
      ("xmlns:a", "http://schemas.openxmlformats.org/drawingml/2006/main"),
      ("xmlns:r", "http://schemas.openxmlformats.org/officeDocument/2006/relationships")]
    (pictures.zipIdx.map fun (p, i) => anchorNode (i + 1) p)

end Spreadsheet.Package
