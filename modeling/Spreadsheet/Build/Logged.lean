import Spreadsheet.Build.Error

/-! Steps of building that may warn on the way. Warnings given before a failure are kept.
-/

namespace Spreadsheet.Build

/-- What a reader of the log should know; nothing of it stops the work. -/
inductive Warning where
  | passwordIgnored (file : String)
  | layoutIgnored (sheet layout : String)
  | chartsSkipped (sheet : String) (count : Nat)
  | pictureByAddress (sheet : String) (index : Nat)
  | pictureWithoutData (sheet : String) (index : Nat)
  | pictureSkipped (sheet : String) (index : Nat)
  | chartsNotWritten (sheet : String)
deriving DecidableEq, Repr

namespace Warning

/-- The part of the program that gives the warning. -/
def source : Warning → String
  | .passwordIgnored _ => "sheetforge::service"
  | .layoutIgnored .. => "sheetforge::select"
  | .chartsSkipped .. | .pictureByAddress .. | .pictureWithoutData .. | .pictureSkipped .. =>
    "sheetforge::builder::standard"
  | .chartsNotWritten _ => "sheetforge_xlsx::writer"

def message : Warning → String
  | .passwordIgnored file =>
    "'" ++ file ++ "': open-password protection is not supported, writing an unprotected file"
  | .layoutIgnored sheet layout =>
    onSheet sheet
      ("layout '" ++ layout ++ "' has no dedicated generator, using table layout")
  | .chartsSkipped sheet count =>
    onSheet sheet
      (Nat.repr count ++
        " chart(s) requested but the serializer cannot render charts, skipping")
  | .pictureByAddress sheet index =>
    onSheet sheet
      ("image " ++ Nat.repr index ++ " is url-only, remote images are not fetched")
  | .pictureWithoutData sheet index =>
    onSheet sheet ("image " ++ Nat.repr index ++ " has no data, skipping")
  | .pictureSkipped sheet index =>
    onSheet sheet ("serializer cannot embed images, skipping image " ++ Nat.repr index)
  | .chartsNotWritten sheet => onSheet sheet "charts are not written to XLSX"
where
  onSheet (sheet detail : String) : String := "Sheet '" ++ sheet ++ "': " ++ detail

end Warning

/-- The warnings of some steps and their result. -/
structure Logged (ε α : Type) where
  warnings : List Warning
  result : Except ε α

namespace Logged

/-- A failure ends the steps and keeps the warnings given so far. -/
def bind (x : Logged ε α) (f : α → Logged ε β) : Logged ε β :=
  match x.result with
  | .error e => ⟨x.warnings, .error e⟩
  | .ok a =>
    let y := f a
    ⟨x.warnings ++ y.warnings, y.result⟩

instance : Monad (Logged ε) where
  pure a := ⟨[], .ok a⟩
  bind := bind

instance : MonadLift (Except ε) (Logged ε) := ⟨fun result => ⟨[], result⟩⟩

def warn (w : Warning) : Logged ε Unit := ⟨[w], .ok ()⟩

/-- The same steps with their failure seen from outside. -/
def mapError (f : ε → ε') (x : Logged ε α) : Logged ε' α := ⟨x.warnings, x.result.mapError f⟩

end Logged

end Spreadsheet.Build
