import Spreadsheet.Sheet.Error

/-! Why a workbook cannot be built from a request that has the right shape.
-/

namespace Spreadsheet.Build

inductive BuildError where
  | model (cause : ModelError)
  | badColor (text : String)
  | unknownPattern (name : String)
  | unknownLine (name : String)
  | unknownComparison (name : String)
  | tooManyColumns (count : Nat)
  | tooManyRows (count : Nat)
  | badRowNumber (text : String)
  | ruleNeedsFormula (range : String)
  | ruleNeedsTwoFormulas (range comparison : String)
  | ruleNeedsOperator (range : String)
  | ruleNeedsScale (range : String)
  | scaleMismatch (range : String)
  | ruleWithoutRange
  | badPictureData
  | unknownPictureFormat (sheet : String) (index : Nat)
  | badFileName (name : String)
  | other (message : String)
deriving DecidableEq, Repr

namespace BuildError

instance : Coe ModelError BuildError := ⟨.model⟩

def message : BuildError → String
  | .model cause => cause.message
  | .badColor text => "Invalid ARGB color '" ++ text ++ "'"
  | .unknownPattern name => "Unknown fill pattern '" ++ name ++ "'"
  | .unknownLine name => "Unknown border style '" ++ name ++ "'"
  | .unknownComparison name => "Unknown validation operator '" ++ name ++ "'"
  | .tooManyColumns count => "Too many columns (" ++ Nat.repr count ++ ")"
  | .tooManyRows count => "Too many data rows (" ++ Nat.repr count ++ ")"
  | .badRowNumber text => "Invalid row number '" ++ text ++ "' in row_heights"
  | .ruleNeedsFormula range => "Rule on " ++ range ++ " needs at least one formula"
  | .ruleNeedsTwoFormulas range comparison =>
    "Rule on " ++ range ++ " needs two formulae for " ++ comparison
  | .ruleNeedsOperator range => "cellIs rule on " ++ range ++ " needs an operator"
  | .ruleNeedsScale range => "colorScale rule on " ++ range ++ " has no colorScale"
  | .scaleMismatch range => "colorScale on " ++ range ++ " needs 2 or 3 matching cfvo/color entries"
  | .ruleWithoutRange => "Conditional formatting rule has an empty range"
  | .badPictureData => "Invalid base64 image data"
  | .unknownPictureFormat sheet index =>
    "Sheet '" ++ sheet ++ "': image " ++ Nat.repr index ++ " is not PNG, JPEG or GIF"
  | .badFileName name => "Invalid file name '" ++ name ++ "'"
  | .other message => message

end BuildError

/-- A step of building on the model of a workbook. -/
def onModel (step : Except ModelError α) : Except BuildError α := step.mapError .model

end Spreadsheet.Build
