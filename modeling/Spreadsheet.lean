import Spreadsheet.Archive.Container
import Spreadsheet.Archive.Directory
import Spreadsheet.Archive.Entry
import Spreadsheet.Archive.Inflate
import Spreadsheet.Archive.PrefixCode
import Spreadsheet.Build.Amount
import Spreadsheet.Build.CellValue
import Spreadsheet.Build.Drawings
import Spreadsheet.Build.Error
import Spreadsheet.Build.Logged
import Spreadsheet.Build.Report
import Spreadsheet.Build.Rules
import Spreadsheet.Build.StyleOverlay
import Spreadsheet.Build.Table
import Spreadsheet.Build.Workbook
import Spreadsheet.Cell.Address
import Spreadsheet.Cell.Grid
import Spreadsheet.Cell.Numbered
import Spreadsheet.Cell.Range
import Spreadsheet.Cell.Value
import Spreadsheet.Command.Arguments
import Spreadsheet.Command.Rehearsal
import Spreadsheet.Command.Run
import Spreadsheet.Encoding.Base64
import Spreadsheet.Encoding.Hex
import Spreadsheet.Formula
import Spreadsheet.Json.NumberReader
import Spreadsheet.Json.Reader
import Spreadsheet.Json.Value
import Spreadsheet.Json.Writer
import Spreadsheet.Main
import Spreadsheet.Number.Binary64
import Spreadsheet.Number.Layout
import Spreadsheet.Number.Reader
import Spreadsheet.Number.Shortest
import Spreadsheet.Package.CellStyles
import Spreadsheet.Package.DrawingPart
import Spreadsheet.Package.File
import Spreadsheet.Package.Part
import Spreadsheet.Package.PropertiesPart
import Spreadsheet.Package.PropertiesReader
import Spreadsheet.Package.ReadError
import Spreadsheet.Package.Reader
import Spreadsheet.Package.SharedStrings
import Spreadsheet.Package.SheetPart
import Spreadsheet.Package.SheetReader
import Spreadsheet.Package.StyleSheet
import Spreadsheet.Package.StyleTable
import Spreadsheet.Package.WorkbookPart
import Spreadsheet.Package.Writer
import Spreadsheet.Proofs.Build.AmountTexts
import Spreadsheet.Proofs.Build.BuildingRuns
import Spreadsheet.Proofs.Build.BuiltTable
import Spreadsheet.Proofs.Build.DeclaredTable
import Spreadsheet.Proofs.Build.ReferenceReading
import Spreadsheet.Proofs.Build.ReportBounds
import Spreadsheet.Proofs.Build.ReportDecoration
import Spreadsheet.Proofs.Build.Retouching
import Spreadsheet.Proofs.Build.RuleCompleteness
import Spreadsheet.Proofs.Build.SerialDays
import Spreadsheet.Proofs.Build.ShownDrawings
import Spreadsheet.Proofs.Build.TableLines
import Spreadsheet.Proofs.Build.ValueSurvival
import Spreadsheet.Proofs.Cell.AddressBounds
import Spreadsheet.Proofs.Cell.AddressReading
import Spreadsheet.Proofs.Cell.AddressText
import Spreadsheet.Proofs.Cell.GridContents
import Spreadsheet.Proofs.Cell.GridListing
import Spreadsheet.Proofs.Cell.RangeCells
import Spreadsheet.Proofs.Number.NumberReading
import Spreadsheet.Proofs.Number.Rounding
import Spreadsheet.Proofs.Number.ShortestDecimal
import Spreadsheet.Proofs.Number.WholeNumbers
import Spreadsheet.Proofs.Package.CellReadBack
import Spreadsheet.Proofs.Package.FormulaReadBack
import Spreadsheet.Proofs.Package.LegalReading
import Spreadsheet.Proofs.Package.LineReadBack
import Spreadsheet.Proofs.Package.PackageClosure
import Spreadsheet.Proofs.Package.PartElements
import Spreadsheet.Proofs.Package.PartLookup
import Spreadsheet.Proofs.Package.PartReading
import Spreadsheet.Proofs.Package.PropertiesReadBack
import Spreadsheet.Proofs.Package.SheetEntries
import Spreadsheet.Proofs.Package.SheetNaming
import Spreadsheet.Proofs.Package.SheetPieces
import Spreadsheet.Proofs.Package.SheetReadBack
import Spreadsheet.Proofs.Package.SheetTags
import Spreadsheet.Proofs.Package.StyleCoherence
import Spreadsheet.Proofs.Package.StyleNumbers
import Spreadsheet.Proofs.Package.StyleReadBack
import Spreadsheet.Proofs.Package.StyleSlots
import Spreadsheet.Proofs.Package.StyleTags
import Spreadsheet.Proofs.Package.WellFormedParts
import Spreadsheet.Proofs.Package.WorkbookReadBack
import Spreadsheet.Proofs.Package.WrittenTags
import Spreadsheet.Proofs.Request.DeclaredGrammar
import Spreadsheet.Proofs.Request.Departures
import Spreadsheet.Proofs.Request.Drafts
import Spreadsheet.Proofs.Request.GrammarReading
import Spreadsheet.Proofs.Request.GrammarWriting
import Spreadsheet.Proofs.Request.IssuePlaces
import Spreadsheet.Proofs.Request.ReferenceTexts
import Spreadsheet.Proofs.Request.ShapeReading
import Spreadsheet.Proofs.Request.ShapeWriting
import Spreadsheet.Proofs.Request.Validation
import Spreadsheet.Proofs.Service.Handling
import Spreadsheet.Proofs.Sheet.Aspects
import Spreadsheet.Proofs.Sheet.Bounds
import Spreadsheet.Proofs.Sheet.CellEdits
import Spreadsheet.Proofs.Sheet.CellMaps
import Spreadsheet.Proofs.Sheet.Confinement
import Spreadsheet.Proofs.Sheet.GroupRefusal
import Spreadsheet.Proofs.Sheet.LegalSheets
import Spreadsheet.Proofs.Sheet.Operations
import Spreadsheet.Proofs.Sheet.PasswordCheck
import Spreadsheet.Proofs.Sheet.RowInsertion
import Spreadsheet.Proofs.Sheet.RowRefusal
import Spreadsheet.Proofs.Sheet.ShownCells
import Spreadsheet.Proofs.Sheet.ShownSheets
import Spreadsheet.Proofs.Sheet.Writing
import Spreadsheet.Proofs.Storage.SharedDirectory
import Spreadsheet.Proofs.Storage.UploadConfinement
import Spreadsheet.Proofs.Style.ColorTexts
import Spreadsheet.Proofs.Style.Interning
import Spreadsheet.Proofs.Style.SlotReading
import Spreadsheet.Proofs.Time.Calendar
import Spreadsheet.Proofs.Time.Timestamps
import Spreadsheet.Proofs.Workbook.HistoryIndependence
import Spreadsheet.Proofs.Workbook.LayoutRoundTrip
import Spreadsheet.Proofs.Workbook.PropertiesRoundTrip
import Spreadsheet.Proofs.Workbook.QuotedFormulas
import Spreadsheet.Proofs.Workbook.Reachable
import Spreadsheet.Proofs.Workbook.RoundTrip
import Spreadsheet.Proofs.Workbook.SheetNames
import Spreadsheet.Proofs.Workbook.StyleRoundTrip
import Spreadsheet.Proofs.Xml.DocumentReading
import Spreadsheet.Proofs.Xml.Escaping
import Spreadsheet.Proofs.Xml.TagReading
import Spreadsheet.Proofs.Xml.WellFormedness
import Spreadsheet.Request.Decode
import Spreadsheet.Request.Encode
import Spreadsheet.Request.Grammar
import Spreadsheet.Request.Shape
import Spreadsheet.Request.Spec
import Spreadsheet.Request.Validate
import Spreadsheet.Service.Config
import Spreadsheet.Service.Failure
import Spreadsheet.Service.Generate
import Spreadsheet.Service.Handle
import Spreadsheet.Sheet.Basic
import Spreadsheet.Sheet.Comparison
import Spreadsheet.Sheet.Drawing
import Spreadsheet.Sheet.Error
import Spreadsheet.Sheet.Layout
import Spreadsheet.Sheet.Rule
import Spreadsheet.Sheet.Setting
import Spreadsheet.Sheet.Validation
import Spreadsheet.Storage.FileTree
import Spreadsheet.Storage.Machine
import Spreadsheet.Storage.Path
import Spreadsheet.Storage.Store
import Spreadsheet.Style.Alignment
import Spreadsheet.Style.Basic
import Spreadsheet.Style.Border
import Spreadsheet.Style.Color
import Spreadsheet.Style.Fill
import Spreadsheet.Style.NumberFormat
import Spreadsheet.Style.Pool
import Spreadsheet.Text.Blank
import Spreadsheet.Text.CaseTable
import Spreadsheet.Text.LowerCase
import Spreadsheet.Text.Utf8
import Spreadsheet.Time.Date
import Spreadsheet.Time.Reader
import Spreadsheet.Time.Text
import Spreadsheet.Workbook.Basic
import Spreadsheet.Xml.Event
import Spreadsheet.Xml.Node
import Spreadsheet.Xml.Source
import Spreadsheet.Xml.Tag
import Spreadsheet.Xml.Text
