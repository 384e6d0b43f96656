import Spreadsheet.Cell.Value
import Spreadsheet.Json.Writer
import Spreadsheet.Request.Spec
import Spreadsheet.Time.Reader
import Spreadsheet.Time.Text

/-! From the values of a request's rows to the values of cells, by the kind of column.
-/

namespace Spreadsheet.Build

open Spreadsheet.Request

/-- The number format of a column that names none. -/
def defaultFormat : Option ColumnKind → String
  | some .text => "@"
  | some .number => "#,##0"
  | some .currency => "#,##0₫"
  | some .percentage => "0.00%"
  | some .date => "dd/mm/yyyy"
  | some .datetime => "dd/mm/yyyy hh:mm:ss"
  | some .boolean | some .formula | none => "General"

/-- The number format for the name of a kind; other names stand for no kind. -/
def defaultFormatOfName (name : String) : String := defaultFormat (Named.ofName? name)

/-- The value of a text: dates become day numbers in date columns, and texts that are not blank
become formulas in formula columns. -/
def textValue (kind : Option ColumnKind) (s : String) : Cell.Value :=
  match kind with
  | some .date | some .datetime =>
    match Time.DateTime.ofText? s with
    | some t => .number t.serial
    | none => .text s
  | some .formula => if Text.isBlankText s then .text s else .ofFormula s
  | _ => .text s

/-- The value of a cell: nothing for a missing or null one, the JSON text of lists and objects. -/
def cellValue (kind : Option ColumnKind) : Option Json.Value → Cell.Value
  | none => .empty
  | some .null => .empty
  | some (.bool b) => .boolean b
  | some (.int i) => .number (.ofInt i)
  | some (.float x) => .number x
  | some (.string s) => textValue kind s
  | some v => .text v.compact

end Spreadsheet.Build
