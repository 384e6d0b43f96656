import Spreadsheet.Proofs.Request.ShapeReading
import Spreadsheet.Request.Validate

/-! The decoder of requests reads every value that the grammar of requests accepts, and no member
that the grammar does not name. Grammar and decoder name the fields of each object independently
of each other; they are compared here one object at a time, a field of the grammar for each step
of the decoder.
-/

namespace Spreadsheet.Request

open Spreadsheet.Json Shape

-----------------------------------------------------------------------------------------
-- Styles and columns
-----------------------------------------------------------------------------------------

theorem color_reads : colorShape.Reads decodeColor := by
  apply object_reads
  intro ms ms' h
  simp only [must, List.forall_mem_cons] at h
  obtain ⟨argb, -⟩ := h
  exact argb.required string_reads

theorem font_reads : fontShape.Reads FontSpec.decode := by
  apply object_reads
  intro ms ms' h
  simp only [may, mayAll, List.map_cons, List.map_nil, List.cons_append, List.nil_append,
    List.forall_mem_cons] at h
  obtain ⟨name, size, bold, italic, underline, color, -⟩ := h
  exact BothRead.bind (name.optional string_reads) fun _ =>
    BothRead.bind (size.optional number_reads) fun _ =>
    BothRead.bind (bold.optional boolean_reads) fun _ =>
    BothRead.bind (italic.optional boolean_reads) fun _ =>
    BothRead.bind (underline.optional boolean_reads) fun _ =>
    BothRead.bind (color.optional color_reads) fun _ => bothRead_some _

theorem alignment_reads : alignmentShape.Reads AlignmentSpec.decode := by
  apply object_reads
  intro ms ms' h
  simp only [may, List.forall_mem_cons] at h
  obtain ⟨horizontal, vertical, wrap, -⟩ := h
  exact BothRead.bind (horizontal.optional (oneOf_reads rfl)) fun _ =>
    BothRead.bind (vertical.optional (oneOf_reads rfl)) fun _ =>
    BothRead.bind (wrap.optional boolean_reads) fun _ => bothRead_some _

theorem fill_reads : fillShape.Reads FillSpec.decode := by
  apply object_reads
  intro ms ms' h
  simp only [must, may, List.forall_mem_cons] at h
  obtain ⟨kind, pattern, foreground, background, -⟩ := h
  exact BothRead.bind (kind.required (oneOf_reads_string _)) fun _ =>
    BothRead.bind (pattern.required string_reads) fun _ =>
    BothRead.bind (foreground.required color_reads) fun _ =>
    BothRead.bind (background.optional color_reads) fun _ => bothRead_some _

theorem edge_reads : edgeShape.Reads EdgeSpec.decode := by
  apply object_reads
  intro ms ms' h
  simp only [must, List.forall_mem_cons] at h
  obtain ⟨line, color, -⟩ := h
  exact BothRead.bind (line.required string_reads) fun _ =>
    BothRead.bind (color.required color_reads) fun _ => bothRead_some _

theorem border_reads : borderShape.Reads BorderSpec.decode := by
  apply object_reads
  intro ms ms' h
  simp only [may, mayAll, List.map_cons, List.map_nil, List.forall_mem_cons] at h
  obtain ⟨top, bottom, left, right, -⟩ := h
  exact BothRead.bind (top.optional edge_reads) fun _ =>
    BothRead.bind (bottom.optional edge_reads) fun _ =>
    BothRead.bind (left.optional edge_reads) fun _ =>
    BothRead.bind (right.optional edge_reads) fun _ => bothRead_some _

theorem style_reads : styleShape.Reads StyleSpec.decode := by
  apply object_reads
  intro ms ms' h
  simp only [may, List.forall_mem_cons] at h
  obtain ⟨font, alignment, fill, border, -⟩ := h
  exact BothRead.bind (font.optional font_reads) fun _ =>
    BothRead.bind (alignment.optional alignment_reads) fun _ =>
    BothRead.bind (fill.optional fill_reads) fun _ =>
    BothRead.bind (border.optional border_reads) fun _ => bothRead_some _

theorem validation_reads : validationShape.Reads ValidationSpec.decode := by
  apply object_reads
  intro ms ms' h
  simp only [must, may, mayAll, List.map_cons, List.map_nil, List.cons_append, List.nil_append,
    List.forall_mem_cons] at h
  obtain ⟨kind, comparison, first, second, promptTitle, prompt, errorTitle, error, allowBlank,
    showInput, showError, -⟩ := h
  exact BothRead.bind (kind.required (oneOf_reads rfl)) fun _ =>
    BothRead.bind (comparison.optional string_reads) fun _ =>
    BothRead.bind (first.optional string_reads) fun _ =>
    BothRead.bind (second.optional string_reads) fun _ =>
    BothRead.bind (allowBlank.optional boolean_reads) fun _ =>
    BothRead.bind (showInput.optional boolean_reads) fun _ =>
    BothRead.bind (promptTitle.optional string_reads) fun _ =>
    BothRead.bind (prompt.optional string_reads) fun _ =>
    BothRead.bind (showError.optional boolean_reads) fun _ =>
    BothRead.bind (errorTitle.optional string_reads) fun _ =>
    BothRead.bind (error.optional string_reads) fun _ => bothRead_some _

theorem column_reads : columnShape.Reads ColumnSpec.decode := by
  apply object_reads
  intro ms ms' h
  simp only [must, may, List.forall_mem_cons] at h
  obtain ⟨header, key, width, kind, format, style, validation, -⟩ := h
  exact BothRead.bind (header.required string_reads) fun _ =>
    BothRead.bind (key.required string_reads) fun _ =>
    BothRead.bind (width.withDefault _ number_reads) fun _ =>
    BothRead.bind (kind.optional (oneOf_reads rfl)) fun _ =>
    BothRead.bind (format.optional string_reads) fun _ =>
    BothRead.bind (style.optional style_reads) fun _ =>
    BothRead.bind (validation.optional validation_reads) fun _ => bothRead_some _

-----------------------------------------------------------------------------------------
-- What is declared for a sheet as a whole
-----------------------------------------------------------------------------------------

theorem margins_reads : marginsShape.Reads MarginsSpec.decode := by
  apply object_reads
  intro ms ms' h
  simp only [may, mayAll, List.map_cons, List.map_nil, List.forall_mem_cons] at h
  obtain ⟨top, bottom, left, right, header, footer, -⟩ := h
  exact BothRead.bind (top.optional number_reads) fun _ =>
    BothRead.bind (bottom.optional number_reads) fun _ =>
    BothRead.bind (left.optional number_reads) fun _ =>
    BothRead.bind (right.optional number_reads) fun _ =>
    BothRead.bind (header.optional number_reads) fun _ =>
    BothRead.bind (footer.optional number_reads) fun _ => bothRead_some _

theorem page_reads : pageShape.Reads PageSpec.decode := by
  apply object_reads
  intro ms ms' h
  simp only [may, mayAll, List.map_cons, List.map_nil, List.cons_append, List.nil_append,
    List.forall_mem_cons] at h
  obtain ⟨orientation, fitToPage, fitToWidth, fitToHeight, paperSize, margins, -⟩ := h
  exact BothRead.bind (orientation.optional (oneOf_reads rfl)) fun _ =>
    BothRead.bind (fitToPage.optional boolean_reads) fun _ =>
    BothRead.bind (fitToWidth.optional (integer_reads _)) fun _ =>
    BothRead.bind (fitToHeight.optional (integer_reads _)) fun _ =>
    BothRead.bind (paperSize.optional (integer_reads _)) fun _ =>
    BothRead.bind (margins.optional margins_reads) fun _ => bothRead_some _

theorem headerFooter_reads : headerFooterShape.Reads decodeHeaderFooter := by
  apply object_reads
  intro ms ms' h
  simp only [may, mayAll, List.map_cons, List.map_nil, List.forall_mem_cons] at h
  obtain ⟨oddHeader, oddFooter, evenHeader, evenFooter, -⟩ := h
  exact BothRead.bind (oddHeader.optional string_reads) fun _ =>
    BothRead.bind (oddFooter.optional string_reads) fun _ =>
    BothRead.bind (evenHeader.optional string_reads) fun _ =>
    BothRead.bind (evenFooter.optional string_reads) fun _ => bothRead_some _

theorem protection_reads : protectionShape.Reads ProtectionSpec.decode := by
  apply object_reads
  intro ms ms' h
  simp only [may, mayAll, List.map_cons, List.map_nil, List.cons_append, List.nil_append,
    List.forall_mem_cons] at h
  obtain ⟨password, sheet, formatCells, formatColumns, formatRows, insertColumns, insertRows,
    deleteColumns, deleteRows, -⟩ := h
  exact BothRead.bind (sheet.optional boolean_reads) fun _ =>
    BothRead.bind (password.optional string_reads) fun _ =>
    BothRead.bind (formatCells.optional boolean_reads) fun _ =>
    BothRead.bind (formatColumns.optional boolean_reads) fun _ =>
    BothRead.bind (formatRows.optional boolean_reads) fun _ =>
    BothRead.bind (insertColumns.optional boolean_reads) fun _ =>
    BothRead.bind (insertRows.optional boolean_reads) fun _ =>
    BothRead.bind (deleteColumns.optional boolean_reads) fun _ =>
    BothRead.bind (deleteRows.optional boolean_reads) fun _ => bothRead_some _

theorem rowGroup_reads : rowGroupShape.Reads RowGroupSpec.decode := by
  apply object_reads
  intro ms ms' h
  simp only [must, may, List.forall_mem_cons] at h
  obtain ⟨first, last, collapsed, -⟩ := h
  exact BothRead.bind (first.required (integer_reads _)) fun _ =>
    BothRead.bind (last.required (integer_reads _)) fun _ =>
    BothRead.bind (collapsed.optional boolean_reads) fun _ => bothRead_some _

theorem columnGroup_reads : columnGroupShape.Reads ColumnGroupSpec.decode := by
  apply object_reads
  intro ms ms' h
  simp only [must, may, List.forall_mem_cons] at h
  obtain ⟨first, last, collapsed, -⟩ := h
  exact BothRead.bind (first.required string_reads) fun _ =>
    BothRead.bind (last.required string_reads) fun _ =>
    BothRead.bind (collapsed.optional boolean_reads) fun _ => bothRead_some _

theorem ruleFill_reads : ruleFillShape.Reads RuleFillSpec.decode := by
  apply object_reads
  intro ms ms' h
  simp only [may, List.forall_mem_cons] at h
  obtain ⟨kind, pattern, foreground, background, -⟩ := h
  exact BothRead.bind (kind.optional string_reads) fun _ =>
    BothRead.bind (pattern.optional string_reads) fun _ =>
    BothRead.bind (foreground.optional color_reads) fun _ =>
    BothRead.bind (background.optional color_reads) fun _ => bothRead_some _

theorem ruleStyle_reads : ruleStyleShape.Reads RuleStyleSpec.decode := by
  apply object_reads
  intro ms ms' h
  simp only [may, List.forall_mem_cons] at h
  obtain ⟨font, fill, border, -⟩ := h
  exact BothRead.bind (font.optional font_reads) fun _ =>
    BothRead.bind (fill.optional ruleFill_reads) fun _ =>
    BothRead.bind (border.optional border_reads) fun _ => bothRead_some _

theorem threshold_reads : thresholdShape.Reads ThresholdSpec.decode := by
  apply object_reads
  intro ms ms' h
  simp only [must, may, List.forall_mem_cons] at h
  obtain ⟨kind, value, -⟩ := h
  exact BothRead.bind (kind.required (oneOf_reads rfl)) fun _ =>
    BothRead.bind (value.optional number_reads) fun _ => bothRead_some _

theorem colorScale_reads : colorScaleShape.Reads ColorScaleSpec.decode := by
  apply object_reads
  intro ms ms' h
  simp only [must, List.forall_mem_cons] at h
  obtain ⟨stops, colors, -⟩ := h
  exact BothRead.bind (stops.required (array_reads threshold_reads)) fun _ =>
    BothRead.bind (colors.required (array_reads color_reads)) fun _ => bothRead_some _

theorem dataBar_reads : dataBarShape.Reads DataBarSpec.decode := by
  apply object_reads
  intro ms ms' h
  simp only [may, mayAll, List.map_cons, List.map_nil, List.cons_append, List.nil_append,
    List.forall_mem_cons] at h
  obtain ⟨minLength, maxLength, showValue, gradient, border, negativeSameAsPositive, -⟩ := h
  exact BothRead.bind (minLength.optional (integer_reads _)) fun _ =>
    BothRead.bind (maxLength.optional (integer_reads _)) fun _ =>
    BothRead.bind (showValue.optional boolean_reads) fun _ =>
    BothRead.bind (gradient.optional boolean_reads) fun _ =>
    BothRead.bind (border.optional boolean_reads) fun _ =>
    BothRead.bind (negativeSameAsPositive.optional boolean_reads) fun _ => bothRead_some _

theorem rule_reads : ruleShape.Reads RuleSpec.decode := by
  apply object_reads
  intro ms ms' h
  simp only [must, may, List.forall_mem_cons] at h
  obtain ⟨range, kind, operator, formulas, style, colorScale, dataBar, -⟩ := h
  exact BothRead.bind (range.required string_reads) fun _ =>
    BothRead.bind (kind.required (oneOf_reads rfl)) fun _ =>
    BothRead.bind (operator.optional (oneOf_reads rfl)) fun _ =>
    BothRead.bind (formulas.withDefault _ (array_reads textOrNumber_reads)) fun _ =>
    BothRead.bind (style.optional ruleStyle_reads) fun _ =>
    BothRead.bind (colorScale.optional colorScale_reads) fun _ =>
    BothRead.bind (dataBar.optional dataBar_reads) fun _ => bothRead_some _

theorem formatting_reads : formattingShape.Reads FormattingSpec.decode := by
  apply object_reads
  intro ms ms' h
  simp only [may, List.forall_mem_cons] at h
  obtain ⟨freezePanes, autoFilter, page, headerFooter, protection, totals, rules, mergedCells,
    rowHeights, hiddenRows, hiddenColumns, rowGroups, columnGroups, -⟩ := h
  exact BothRead.bind (freezePanes.optional string_reads) fun _ =>
    BothRead.bind (autoFilter.optional boolean_reads) fun _ =>
    BothRead.bind (page.optional page_reads) fun _ =>
    BothRead.bind (headerFooter.optional headerFooter_reads) fun _ =>
    BothRead.bind (protection.optional protection_reads) fun _ =>
    BothRead.bind (totals.optional (members_reads string_reads)) fun _ =>
    BothRead.bind (rules.withDefault _ (array_reads rule_reads)) fun _ =>
    BothRead.bind (mergedCells.withDefault _ (array_reads string_reads)) fun _ =>
    BothRead.bind (rowHeights.withDefault _ (members_reads number_reads)) fun _ =>
    BothRead.bind (hiddenRows.withDefault _ (array_reads (integer_reads _))) fun _ =>
    BothRead.bind (hiddenColumns.withDefault _ (array_reads string_reads)) fun _ =>
    BothRead.bind (rowGroups.withDefault _ (array_reads rowGroup_reads)) fun _ =>
    BothRead.bind (columnGroups.withDefault _ (array_reads columnGroup_reads)) fun _ =>
    bothRead_some _

-----------------------------------------------------------------------------------------
-- Charts and pictures
-----------------------------------------------------------------------------------------

theorem anchor_reads : anchorShape.Reads AnchorSpec.decode := by
  apply object_reads
  intro ms ms' h
  simp only [must, List.forall_mem_cons] at h
  obtain ⟨topLeft, bottomRight, -⟩ := h
  exact BothRead.bind (topLeft.required string_reads) fun _ =>
    BothRead.bind (bottomRight.required string_reads) fun _ => bothRead_some _

theorem series_reads : seriesShape.Reads decodeSeries := by
  apply object_reads
  intro ms ms' h
  simp only [must, List.forall_mem_cons] at h
  obtain ⟨name, values, -⟩ := h
  exact BothRead.bind (name.required string_reads) fun _ =>
    BothRead.bind (values.required string_reads) fun _ => bothRead_some _

theorem chartData_reads : chartDataShape.Reads ChartDataSpec.decode := by
  apply object_reads
  intro ms ms' h
  simp only [must, List.forall_mem_cons] at h
  obtain ⟨categories, series, -⟩ := h
  exact BothRead.bind (categories.required string_reads) fun _ =>
    BothRead.bind (series.required (array_reads series_reads)) fun _ => bothRead_some _

theorem legend_reads : legendShape.Reads LegendSpec.decode := by
  apply object_reads
  intro ms ms' h
  simp only [may, List.forall_mem_cons] at h
  obtain ⟨place, -⟩ := h
  exact BothRead.bind (place.optional (oneOf_reads rfl)) fun _ => bothRead_some _

theorem axis_reads : axisShape.Reads AxisSpec.decode := by
  apply object_reads
  intro ms ms' h
  simp only [may, List.forall_mem_cons] at h
  obtain ⟨title, -⟩ := h
  exact BothRead.bind (title.optional string_reads) fun _ => bothRead_some _

theorem axes_reads : axesShape.Reads AxesSpec.decode := by
  apply object_reads
  intro ms ms' h
  simp only [may, mayAll, List.map_cons, List.map_nil, List.forall_mem_cons] at h
  obtain ⟨x, y, -⟩ := h
  exact BothRead.bind (x.optional axis_reads) fun _ =>
    BothRead.bind (y.optional axis_reads) fun _ => bothRead_some _

theorem chartOptions_reads : chartOptionsShape.Reads ChartOptionsSpec.decode := by
  apply object_reads
  intro ms ms' h
  simp only [may, List.forall_mem_cons] at h
  obtain ⟨legend, axes, -⟩ := h
  exact BothRead.bind (legend.optional legend_reads) fun _ =>
    BothRead.bind (axes.optional axes_reads) fun _ => bothRead_some _

theorem chart_reads : chartShape.Reads ChartSpec.decode := by
  apply object_reads
  intro ms ms' h
  simp only [must, may, List.forall_mem_cons] at h
  obtain ⟨kind, position, title, data, options, -⟩ := h
  exact BothRead.bind (kind.required (oneOf_reads rfl)) fun _ =>
    BothRead.bind (position.required anchor_reads) fun _ =>
    BothRead.bind (title.optional string_reads) fun _ =>
    BothRead.bind (data.required chartData_reads) fun _ =>
    BothRead.bind (options.optional chartOptions_reads) fun _ => bothRead_some _

theorem picture_reads : pictureShape.Reads PictureSpec.decode := by
  apply object_reads
  intro ms ms' h
  simp only [must, may, List.forall_mem_cons] at h
  obtain ⟨position, url, base64, extension, -⟩ := h
  exact BothRead.bind (position.required anchor_reads) fun _ =>
    BothRead.bind (url.optional string_reads) fun _ =>
    BothRead.bind (base64.optional string_reads) fun _ =>
    BothRead.bind (extension.optional (oneOf_reads rfl)) fun _ => bothRead_some _

-----------------------------------------------------------------------------------------
-- Sheets and whole requests
-----------------------------------------------------------------------------------------

theorem sheet_reads : sheetShape.Reads SheetSpec.decode := by
  apply object_reads
  intro ms ms' h
  simp only [must, may, List.forall_mem_cons] at h
  obtain ⟨name, layout, columns, data, formatting, charts, pictures, metadata, -⟩ := h
  exact BothRead.bind (name.required string_reads) fun _ =>
    BothRead.bind (layout.withDefault _ (oneOf_reads rfl)) fun _ =>
    BothRead.bind (columns.required (array_reads column_reads)) fun _ =>
    BothRead.bind (data.required (array_reads anyObject_reads)) fun _ =>
    BothRead.bind (formatting.optional formatting_reads) fun _ =>
    BothRead.bind (charts.withDefault _ (array_reads chart_reads)) fun _ =>
    BothRead.bind (pictures.withDefault _ (array_reads picture_reads)) fun _ =>
    BothRead.bind (metadata.optional anyObject_reads) fun _ => bothRead_some _

theorem metadata_reads : metadataShape.Reads MetadataSpec.decode := by
  apply object_reads
  intro ms ms' h
  simp only [may, mayAll, List.map_cons, List.map_nil, List.cons_append, List.nil_append,
    List.forall_mem_cons] at h
  obtain ⟨title, subject, author, description, company, category, keywords, -⟩ := h
  exact BothRead.bind (title.optional string_reads) fun _ =>
    BothRead.bind (subject.optional string_reads) fun _ =>
    BothRead.bind (author.withDefault _ string_reads) fun _ =>
    BothRead.bind (description.optional string_reads) fun _ =>
    BothRead.bind (company.optional string_reads) fun _ =>
    BothRead.bind (category.optional string_reads) fun _ =>
    BothRead.bind (keywords.withDefault _ (array_reads string_reads)) fun _ => bothRead_some _

theorem options_reads : optionsShape.Reads OptionsSpec.decode := by
  apply object_reads
  intro ms ms' h
  simp only [may, List.forall_mem_cons] at h
  obtain ⟨storage, compress, password, -⟩ := h
  exact BothRead.bind (storage.optional (oneOf_reads rfl)) fun _ =>
    BothRead.bind (compress.optional boolean_reads) fun _ =>
    BothRead.bind (password.optional string_reads) fun _ => bothRead_some _

theorem request_reads : (requestShape false).Reads Request.decode := by
  apply object_reads
  intro ms ms' h
  simp only [may, Bool.not_false, List.forall_mem_cons] at h
  obtain ⟨fileName, sheets, metadata, options, -⟩ := h
  exact BothRead.bind (fileName.required string_reads) fun _ =>
    BothRead.bind (sheets.required (someOf_reads sheet_reads)) fun _ =>
    BothRead.bind (metadata.optional metadata_reads) fun _ =>
    BothRead.bind (options.optional options_reads) fun _ => bothRead_some _

/-- A request without faults is read. -/
theorem request_readBy (path : Path) (v : Value) (none : (requestShape false).issues path v = [])
    : (Request.decode v).isSome := by
  obtain ⟨r, read, -⟩ := request_reads v v ((issues_eq_nil_iff ..).mp none) .same
  exact Option.isSome_iff_exists.mpr ⟨r, read⟩

/-- A request without faults is read, and so none is refused without a fault and its place. -/
theorem validate_ne_unreadable (v : Value)
    : (issues false v = [] → ∃ r, Request.decode v = some r ∧ validate v = .ok r)
      ∧ validate v ≠ .error .unreadable := by
  have accepted (none : issues false v = [])
      : ∃ r, Request.decode v = some r ∧ validate v = .ok r := by
    obtain ⟨r, read⟩ := Option.isSome_iff_exists.mp (request_readBy [] v none)
    exact ⟨r, read, by simp only [validate, none, read]⟩
  refine ⟨accepted, fun refused => ?_⟩
  cases found : issues false v with
  | nil =>
      obtain ⟨r, -, ok⟩ := accepted found
      rw [ok] at refused
      cases refused
  | cons issue rest => simp [validate, found] at refused

/-- A request with names from closed sets, a row number, terms of a formula and a free-form row. -/
def sampleRequest : Value :=
  .object
    [("file_name", .string "f"),
      ("sheets",
        .array
          [.object
            [("columns",
                .array
                  [.object
                    [("header", .string "H"), ("key", .string "k"), ("type", .string "date")]]),
              ("data", .array [.object [("k", .null)]]),
              ("formatting",
                .object
                  [("conditional_formatting",
                      .array
                        [.object
                          [("formulae", .array [.int 1, .string "A1"]), ("range", .string "A1"),
                            ("type", .string "cellIs")]]),
                    ("hidden_rows", .array [.int 7])]),
              ("name", .string "S")]])]

/-- The sample has no faults, and so it is read. -/
theorem validate_sampleRequest
    : issues false sampleRequest = []
    ∧ ∃ r, Request.decode sampleRequest = some r ∧ validate sampleRequest = .ok r :=
  have none : issues false sampleRequest = [] := by decide +kernel
  ⟨none, (validate_ne_unreadable sampleRequest).1 none⟩

end Spreadsheet.Request
