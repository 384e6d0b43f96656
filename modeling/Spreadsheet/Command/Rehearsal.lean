import Spreadsheet.Command.Run
import Spreadsheet.Storage.Machine

/-! Runs of the program on a machine in memory.
-/

namespace Spreadsheet.Command

open Spreadsheet.Storage

/-- What the program finds in a directory of a machine in memory. -/
def Surroundings.ofMachine (current : Place) (lookup : String → Option String) (input : String)
    (moment : Service.Moment) : Surroundings (StateM Machine) where
  variableText? := lookup
  inputText := pure (.ok input)
  fileText path := do
    let machine ← get
    return machine.text current path
  disk := Machine.disk current
  moment := pure moment

end Spreadsheet.Command
