import Spreadsheet.Proofs.Request.GrammarReading
import Spreadsheet.Proofs.Request.ShapeWriting

/-! The request that was read of a value is written as a value that is read as the same request.
Decoder and encoder name the fields of each object independently of each other and of the grammar;
the three are compared here one object at a time.
-/

namespace Spreadsheet.Request

open Spreadsheet.Json Shape

-----------------------------------------------------------------------------------------
-- Styles and columns
-----------------------------------------------------------------------------------------

theorem color_settles : colorShape.Settles decodeColor encodeColor := by
  refine object_settles (by decide) fun ms h => ?_
  simp only [must, List.forall_mem_cons] at h
  obtain ⟨argb, -⟩ := h
  exact (argb.required string_settles).last fun _ => .done rfl (.refl _)

theorem font_settles : fontShape.Settles FontSpec.decode FontSpec.encode := by
  refine object_settles (by decide) fun ms h => ?_
  simp only [may, mayAll, List.map_cons, List.map_nil, List.cons_append, List.nil_append,
    List.forall_mem_cons] at h
  obtain ⟨name, size, bold, italic, underline, color, -⟩ := h
  exact (name.optional string_settles).bind fun _ =>
    (size.optional number_settles).bind fun _ =>
    (bold.optional boolean_settles).bind fun _ =>
    (italic.optional boolean_settles).bind fun _ =>
    (underline.optional boolean_settles).bind fun _ =>
    (color.optional color_settles).bind fun _ => .done rfl (.refl _)

theorem alignment_settles : alignmentShape.Settles AlignmentSpec.decode AlignmentSpec.encode := by
  refine object_settles (by decide) fun ms h => ?_
  simp only [may, List.forall_mem_cons] at h
  obtain ⟨horizontal, vertical, wrap, -⟩ := h
  exact (horizontal.optional oneOf_settles).bind fun _ =>
    (vertical.optional oneOf_settles).bind fun _ =>
    (wrap.optional boolean_settles).bind fun _ => .done rfl (.refl _)

theorem fill_settles : fillShape.Settles FillSpec.decode FillSpec.encode := by
  refine object_settles (by decide) fun ms h => ?_
  simp only [must, may, List.forall_mem_cons] at h
  obtain ⟨kind, pattern, foreground, background, -⟩ := h
  exact (kind.required (oneOf_settles_string _)).bind fun _ =>
    (pattern.required string_settles).bind fun _ =>
    (foreground.required color_settles).bind fun _ =>
    (background.optional color_settles).bind fun _ => .done rfl (.refl _)

theorem edge_settles : edgeShape.Settles EdgeSpec.decode EdgeSpec.encode := by
  refine object_settles (by decide) fun ms h => ?_
  simp only [must, List.forall_mem_cons] at h
  obtain ⟨line, color, -⟩ := h
  exact (line.required string_settles).bind fun _ =>
    (color.required color_settles).bind fun _ => .done rfl (.refl _)

theorem border_settles : borderShape.Settles BorderSpec.decode BorderSpec.encode := by
  refine object_settles (by decide) fun ms h => ?_
  simp only [may, mayAll, List.map_cons, List.map_nil, List.forall_mem_cons] at h
  obtain ⟨top, bottom, left, right, -⟩ := h
  exact (top.optional edge_settles).bind fun _ =>
    (bottom.optional edge_settles).bind fun _ =>
    (left.optional edge_settles).bind fun _ =>
    (right.optional edge_settles).bind fun _ => .done rfl (.refl _)

theorem style_settles : styleShape.Settles StyleSpec.decode StyleSpec.encode := by
  refine object_settles (by decide) fun ms h => ?_
  simp only [may, List.forall_mem_cons] at h
  obtain ⟨font, alignment, fill, border, -⟩ := h
  exact (font.optional font_settles).bind fun _ =>
    (alignment.optional alignment_settles).bind fun _ =>
    (fill.optional fill_settles).bind fun _ =>
    (border.optional border_settles).bind fun _ => .done rfl (.refl _)

theorem validation_settles
    : validationShape.Settles ValidationSpec.decode ValidationSpec.encode := by
  refine object_settles (by decide) fun ms h => ?_
  simp only [must, may, mayAll, List.map_cons, List.map_nil, List.cons_append, List.nil_append,
    List.forall_mem_cons] at h
  obtain ⟨kind, comparison, first, second, promptTitle, prompt, errorTitle, error, allowBlank,
    showInput, showError, -⟩ := h
  exact (kind.required oneOf_settles).bind fun _ =>
    (comparison.optional string_settles).bind fun _ =>
    (first.optional string_settles).bind fun _ =>
    (second.optional string_settles).bind fun _ =>
    (allowBlank.optional boolean_settles).bind fun _ =>
    (showInput.optional boolean_settles).bind fun _ =>
    (promptTitle.optional string_settles).bind fun _ =>
    (prompt.optional string_settles).bind fun _ =>
    (showError.optional boolean_settles).bind fun _ =>
    (errorTitle.optional string_settles).bind fun _ =>
    (error.optional string_settles).bind fun _ =>
    .done rfl (perm_of_subset (by decide) (by simp [must, mayAll, may]) (Nat.le_refl _))

theorem column_settles : columnShape.Settles ColumnSpec.decode ColumnSpec.encode := by
  refine object_settles (by decide) fun ms h => ?_
  simp only [must, may, List.forall_mem_cons] at h
  obtain ⟨header, key, width, kind, format, style, validation, -⟩ := h
  exact (header.required string_settles).bind fun _ =>
    (key.required string_settles).bind fun _ =>
    (width.withDefault number_settles (number_returns _)).bind fun _ =>
    (kind.optional oneOf_settles).bind fun _ =>
    (format.optional string_settles).bind fun _ =>
    (style.optional style_settles).bind fun _ =>
    (validation.optional validation_settles).bind fun _ => .done rfl (.refl _)

-----------------------------------------------------------------------------------------
-- What is declared for a sheet as a whole
-----------------------------------------------------------------------------------------

theorem margins_settles : marginsShape.Settles MarginsSpec.decode MarginsSpec.encode := by
  refine object_settles (by decide) fun ms h => ?_
  simp only [may, mayAll, List.map_cons, List.map_nil, List.forall_mem_cons] at h
  obtain ⟨top, bottom, left, right, header, footer, -⟩ := h
  exact (top.optional number_settles).bind fun _ =>
    (bottom.optional number_settles).bind fun _ =>
    (left.optional number_settles).bind fun _ =>
    (right.optional number_settles).bind fun _ =>
    (header.optional number_settles).bind fun _ =>
    (footer.optional number_settles).bind fun _ => .done rfl (.refl _)

theorem page_settles : pageShape.Settles PageSpec.decode PageSpec.encode := by
  refine object_settles (by decide) fun ms h => ?_
  simp only [may, mayAll, List.map_cons, List.map_nil, List.cons_append, List.nil_append,
    List.forall_mem_cons] at h
  obtain ⟨orientation, fitToPage, fitToWidth, fitToHeight, paperSize, margins, -⟩ := h
  exact (orientation.optional oneOf_settles).bind fun _ =>
    (fitToPage.optional boolean_settles).bind fun _ =>
    (fitToWidth.optional (integer_settles _)).bind fun _ =>
    (fitToHeight.optional (integer_settles _)).bind fun _ =>
    (paperSize.optional (integer_settles _)).bind fun _ =>
    (margins.optional margins_settles).bind fun _ => .done rfl (.refl _)

theorem headerFooter_settles : headerFooterShape.Settles decodeHeaderFooter encodeHeaderFooter := by
  refine object_settles (by decide) fun ms h => ?_
  simp only [may, mayAll, List.map_cons, List.map_nil, List.forall_mem_cons] at h
  obtain ⟨oddHeader, oddFooter, evenHeader, evenFooter, -⟩ := h
  exact (oddHeader.optional string_settles).bind fun _ =>
    (oddFooter.optional string_settles).bind fun _ =>
    (evenHeader.optional string_settles).bind fun _ =>
    (evenFooter.optional string_settles).bind fun _ => .done rfl (.refl _)

theorem protection_settles
    : protectionShape.Settles ProtectionSpec.decode ProtectionSpec.encode := by
  refine object_settles (by decide) fun ms h => ?_
  simp only [may, mayAll, List.map_cons, List.map_nil, List.cons_append, List.nil_append,
    List.forall_mem_cons] at h
  obtain ⟨password, sheet, formatCells, formatColumns, formatRows, insertColumns, insertRows,
    deleteColumns, deleteRows, -⟩ := h
  exact (sheet.optional boolean_settles).bind fun _ =>
    (password.optional string_settles).bind fun _ =>
    (formatCells.optional boolean_settles).bind fun _ =>
    (formatColumns.optional boolean_settles).bind fun _ =>
    (formatRows.optional boolean_settles).bind fun _ =>
    (insertColumns.optional boolean_settles).bind fun _ =>
    (insertRows.optional boolean_settles).bind fun _ =>
    (deleteColumns.optional boolean_settles).bind fun _ =>
    (deleteRows.optional boolean_settles).bind fun _ => .done rfl (.swap _ _ _)

theorem rowGroup_settles : rowGroupShape.Settles RowGroupSpec.decode RowGroupSpec.encode := by
  refine object_settles (by decide) fun ms h => ?_
  simp only [must, may, List.forall_mem_cons] at h
  obtain ⟨first, last, collapsed, -⟩ := h
  exact (first.required (integer_settles _)).bind fun _ =>
    (last.required (integer_settles _)).bind fun _ =>
    (collapsed.optional boolean_settles).bind fun _ => .done rfl (.refl _)

theorem columnGroup_settles
    : columnGroupShape.Settles ColumnGroupSpec.decode ColumnGroupSpec.encode := by
  refine object_settles (by decide) fun ms h => ?_
  simp only [must, may, List.forall_mem_cons] at h
  obtain ⟨first, last, collapsed, -⟩ := h
  exact (first.required string_settles).bind fun _ =>
    (last.required string_settles).bind fun _ =>
    (collapsed.optional boolean_settles).bind fun _ => .done rfl (.refl _)

theorem ruleFill_settles : ruleFillShape.Settles RuleFillSpec.decode RuleFillSpec.encode := by
  refine object_settles (by decide) fun ms h => ?_
  simp only [may, List.forall_mem_cons] at h
  obtain ⟨kind, pattern, foreground, background, -⟩ := h
  exact (kind.optional string_settles).bind fun _ =>
    (pattern.optional string_settles).bind fun _ =>
    (foreground.optional color_settles).bind fun _ =>
    (background.optional color_settles).bind fun _ => .done rfl (.refl _)

theorem ruleStyle_settles : ruleStyleShape.Settles RuleStyleSpec.decode RuleStyleSpec.encode := by
  refine object_settles (by decide) fun ms h => ?_
  simp only [may, List.forall_mem_cons] at h
  obtain ⟨font, fill, border, -⟩ := h
  exact (font.optional font_settles).bind fun _ =>
    (fill.optional ruleFill_settles).bind fun _ =>
    (border.optional border_settles).bind fun _ => .done rfl (.refl _)

theorem threshold_settles : thresholdShape.Settles ThresholdSpec.decode ThresholdSpec.encode := by
  refine object_settles (by decide) fun ms h => ?_
  simp only [must, may, List.forall_mem_cons] at h
  obtain ⟨kind, value, -⟩ := h
  exact (kind.required oneOf_settles).bind fun _ =>
    (value.optional number_settles).bind fun _ => .done rfl (.refl _)

theorem colorScale_settles
    : colorScaleShape.Settles ColorScaleSpec.decode ColorScaleSpec.encode := by
  refine object_settles (by decide) fun ms h => ?_
  simp only [must, List.forall_mem_cons] at h
  obtain ⟨stops, colors, -⟩ := h
  exact (stops.required (array_settles threshold_settles)).bind fun _ =>
    (colors.required (array_settles color_settles)).bind fun _ => .done rfl (.refl _)

theorem dataBar_settles : dataBarShape.Settles DataBarSpec.decode DataBarSpec.encode := by
  refine object_settles (by decide) fun ms h => ?_
  simp only [may, mayAll, List.map_cons, List.map_nil, List.cons_append, List.nil_append,
    List.forall_mem_cons] at h
  obtain ⟨minLength, maxLength, showValue, gradient, border, negativeSameAsPositive, -⟩ := h
  exact (minLength.optional (integer_settles _)).bind fun _ =>
    (maxLength.optional (integer_settles _)).bind fun _ =>
    (showValue.optional boolean_settles).bind fun _ =>
    (gradient.optional boolean_settles).bind fun _ =>
    (border.optional boolean_settles).bind fun _ =>
    (negativeSameAsPositive.optional boolean_settles).bind fun _ => .done rfl (.refl _)

theorem rule_settles : ruleShape.Settles RuleSpec.decode RuleSpec.encode := by
  refine object_settles (by decide) fun ms h => ?_
  simp only [must, may, List.forall_mem_cons] at h
  obtain ⟨range, kind, operator, formulas, style, colorScale, dataBar, -⟩ := h
  exact (range.required string_settles).bind fun _ =>
    (kind.required oneOf_settles).bind fun _ =>
    (operator.optional oneOf_settles).bind fun _ =>
    (formulas.list textOrNumber_settles).bind fun _ =>
    (style.optional ruleStyle_settles).bind fun _ =>
    (colorScale.optional colorScale_settles).bind fun _ =>
    (dataBar.optional dataBar_settles).bind fun _ => .done rfl (.refl _)

theorem formatting_settles
    : formattingShape.Settles FormattingSpec.decode FormattingSpec.encode := by
  refine object_settles (by decide) fun ms h => ?_
  simp only [may, List.forall_mem_cons] at h
  obtain ⟨freezePanes, autoFilter, page, headerFooter, protection, totals, rules, mergedCells,
    rowHeights, hiddenRows, hiddenColumns, rowGroups, columnGroups, -⟩ := h
  exact (freezePanes.optional string_settles).bind fun _ =>
    (autoFilter.optional boolean_settles).bind fun _ =>
    (page.optional page_settles).bind fun _ =>
    (headerFooter.optional headerFooter_settles).bind fun _ =>
    (protection.optional protection_settles).bind fun _ =>
    (totals.optional (members_settles string_settles)).bind fun _ =>
    (rules.list rule_settles).bind fun _ =>
    (mergedCells.list string_settles).bind fun _ =>
    (rowHeights.unlessEmpty (members_settles number_settles)).bind fun _ =>
    (hiddenRows.list (integer_settles _)).bind fun _ =>
    (hiddenColumns.list string_settles).bind fun _ =>
    (rowGroups.list rowGroup_settles).bind fun _ =>
    (columnGroups.list columnGroup_settles).bind fun _ =>
    .done rfl (.refl _)

-----------------------------------------------------------------------------------------
-- Charts and pictures
-----------------------------------------------------------------------------------------

theorem anchor_settles : anchorShape.Settles AnchorSpec.decode AnchorSpec.encode := by
  refine object_settles (by decide) fun ms h => ?_
  simp only [must, List.forall_mem_cons] at h
  obtain ⟨topLeft, bottomRight, -⟩ := h
  exact (topLeft.required string_settles).bind fun _ =>
    (bottomRight.required string_settles).bind fun _ => .done rfl (.refl _)

theorem series_settles : seriesShape.Settles decodeSeries encodeSeries := by
  refine object_settles (by decide) fun ms h => ?_
  simp only [must, List.forall_mem_cons] at h
  obtain ⟨name, values, -⟩ := h
  exact (name.required string_settles).bind fun _ =>
    (values.required string_settles).bind fun _ => .done rfl (.refl _)

theorem chartData_settles : chartDataShape.Settles ChartDataSpec.decode ChartDataSpec.encode := by
  refine object_settles (by decide) fun ms h => ?_
  simp only [must, List.forall_mem_cons] at h
  obtain ⟨categories, series, -⟩ := h
  exact (categories.required string_settles).bind fun _ =>
    (series.required (array_settles series_settles)).bind fun _ => .done rfl (.refl _)

theorem legend_settles : legendShape.Settles LegendSpec.decode LegendSpec.encode := by
  refine object_settles (by decide) fun ms h => ?_
  simp only [may, List.forall_mem_cons] at h
  obtain ⟨place, -⟩ := h
  exact (place.optional oneOf_settles).bind fun _ => .done rfl (.refl _)

theorem axis_settles : axisShape.Settles AxisSpec.decode AxisSpec.encode := by
  refine object_settles (by decide) fun ms h => ?_
  simp only [may, List.forall_mem_cons] at h
  obtain ⟨title, -⟩ := h
  exact (title.optional string_settles).bind fun _ => .done rfl (.refl _)

theorem axes_settles : axesShape.Settles AxesSpec.decode AxesSpec.encode := by
  refine object_settles (by decide) fun ms h => ?_
  simp only [may, mayAll, List.map_cons, List.map_nil, List.forall_mem_cons] at h
  obtain ⟨x, y, -⟩ := h
  exact (x.optional axis_settles).bind fun _ =>
    (y.optional axis_settles).bind fun _ => .done rfl (.refl _)

theorem chartOptions_settles
    : chartOptionsShape.Settles ChartOptionsSpec.decode ChartOptionsSpec.encode := by
  refine object_settles (by decide) fun ms h => ?_
  simp only [may, List.forall_mem_cons] at h
  obtain ⟨legend, axes, -⟩ := h
  exact (legend.optional legend_settles).bind fun _ =>
    (axes.optional axes_settles).bind fun _ => .done rfl (.refl _)

theorem chart_settles : chartShape.Settles ChartSpec.decode ChartSpec.encode := by
  refine object_settles (by decide) fun ms h => ?_
  simp only [must, may, List.forall_mem_cons] at h
  obtain ⟨kind, position, title, data, options, -⟩ := h
  exact (kind.required oneOf_settles).bind fun _ =>
    (position.required anchor_settles).bind fun _ =>
    (title.optional string_settles).bind fun _ =>
    (data.required chartData_settles).bind fun _ =>
    (options.optional chartOptions_settles).bind fun _ => .done rfl (.refl _)

theorem picture_settles : pictureShape.Settles PictureSpec.decode PictureSpec.encode := by
  refine object_settles (by decide) fun ms h => ?_
  simp only [must, may, List.forall_mem_cons] at h
  obtain ⟨position, url, base64, extension, -⟩ := h
  exact (position.required anchor_settles).bind fun _ =>
    (url.optional string_settles).bind fun _ =>
    (base64.optional string_settles).bind fun _ =>
    (extension.optional oneOf_settles).bind fun _ => .done rfl (.refl _)

-----------------------------------------------------------------------------------------
-- Sheets and whole requests
-----------------------------------------------------------------------------------------

theorem layout_returns
    : (oneOf layoutNames).Returns (Decoder.named LayoutKind) encodeName .table :=
  ⟨.oneOf (by decide), .string _, rfl, nofun⟩

theorem sheet_settles : sheetShape.Settles SheetSpec.decode SheetSpec.encode := by
  refine object_settles (by decide) fun ms h => ?_
  simp only [must, may, List.forall_mem_cons] at h
  obtain ⟨name, layout, columns, data, formatting, charts, pictures, metadata, -⟩ := h
  exact (name.required string_settles).bind fun _ =>
    (layout.withDefault oneOf_settles layout_returns).bind fun _ =>
    (columns.required (array_settles column_settles)).bind fun _ =>
    (data.required (array_settles anyObject_settles)).bind fun _ =>
    (formatting.optional formatting_settles).bind fun _ =>
    (charts.list chart_settles).bind fun _ =>
    (pictures.list picture_settles).bind fun _ =>
    (metadata.optional anyObject_settles).bind fun _ => .done rfl (.refl _)

theorem metadata_settles : metadataShape.Settles MetadataSpec.decode MetadataSpec.encode := by
  refine object_settles (by decide) fun ms h => ?_
  simp only [may, mayAll, List.map_cons, List.map_nil, List.cons_append, List.nil_append,
    List.forall_mem_cons] at h
  obtain ⟨title, subject, author, description, company, category, keywords, -⟩ := h
  exact (title.optional string_settles).bind fun _ =>
    (subject.optional string_settles).bind fun _ =>
    (author.withDefault string_settles (string_returns _)).bind fun _ =>
    (description.optional string_settles).bind fun _ =>
    (company.optional string_settles).bind fun _ =>
    (category.optional string_settles).bind fun _ =>
    (keywords.list string_settles).bind fun _ => .done rfl (.refl _)

theorem options_settles : optionsShape.Settles OptionsSpec.decode OptionsSpec.encode := by
  refine object_settles (by decide) fun ms h => ?_
  simp only [may, List.forall_mem_cons] at h
  obtain ⟨storage, compress, password, -⟩ := h
  exact (storage.optional oneOf_settles).bind fun _ =>
    (compress.optional boolean_settles).bind fun _ =>
    (password.optional string_settles).bind fun _ => .done rfl (.refl _)

theorem request_settles : (requestShape false).Settles Request.decode Request.encode := by
  refine object_settles (by decide) fun ms h => ?_
  simp only [may, Bool.not_false, List.forall_mem_cons] at h
  obtain ⟨fileName, sheets, metadata, options, -⟩ := h
  exact (fileName.required string_settles).bind fun _ =>
    (sheets.required (someOf_settles sheet_settles)).bind fun _ =>
    (metadata.optional metadata_settles).bind fun _ =>
    (options.optional options_settles).bind fun _ => .done rfl (.refl _)

-----------------------------------------------------------------------------------------
-- Accepted values
-----------------------------------------------------------------------------------------

theorem validate_eq_ok {v : Value} {r : Request}
    : validate v = .ok r ↔ issues false v = [] ∧ Request.decode v = some r := by
  cases found : issues false v with
  | nil =>
      simp only [validate, found, true_and]
      cases Request.decode v <;> simp
  | cons issue rest => simp [validate, found]

/-- A request that is accepted is written as a value that has its members in order as well, has no
faults, and is accepted as the same request.
-/
theorem validate_encode {v : Value} {r : Request} (ordered : v.Ordered)
    (accepted : validate v = .ok r)
    : r.encode.Ordered ∧ issues false r.encode = [] ∧ validate r.encode = .ok r := by
  obtain ⟨none, read⟩ := validate_eq_ok.mp accepted
  have returns := request_settles v r ((issues_eq_nil_iff ..).mp none) ordered read
  have none' : issues false r.encode = [] := (issues_eq_nil_iff ..).mpr returns.conforms
  exact ⟨returns.ordered, none', validate_eq_ok.mpr ⟨none', returns.read⟩⟩

/-- A request with whole numbers where others are allowed, lists that are empty, maps, a formula's
number, and a row and notes of any form.
-/
def roundRequest : Value :=
  .object
    [("file_name", .string "f"),
      ("metadata", .object [("keywords", .array []), ("title", .string "T")]),
      ("sheets",
        .array
          [.object
            [("charts", .array []),
              ("columns",
                .array
                  [.object
                    [("header", .string "H"), ("key", .string "k"), ("type", .string "date"),
                      ("width", .int 12)]]),
              ("data", .array [.object [("k", .array [.null, .int 1])], .object []]),
              ("formatting",
                .object
                  [("conditional_formatting",
                      .array
                        [.object
                          [("formulae", .array [.int 1, .string "A1"]), ("range", .string "A1"),
                            ("type", .string "cellIs")]]),
                    ("hidden_rows", .array [.int 7]),
                    ("row_heights", .object [("10", .int 20), ("2", .float 18)]),
                    ("totals_row", .object [("k", .string "COUNTA(A2:A3)")])]),
              ("metadata", .object [("note", .null)]), ("name", .string "S")]])]

theorem ordered_roundRequest : roundRequest.Ordered := by
  simp only [roundRequest, Value.ordered_object_iff, Value.ordered_array_iff, Members.Ordered,
    Value.Ordered.string, Value.Ordered.int, Value.Ordered.float, Value.Ordered.null,
    List.pairwise_cons, List.forall_mem_cons, List.not_mem_nil, false_imp_iff, implies_true,
    List.Pairwise.nil, and_true, true_and]
  decide

/-- What was left to its default is written out, so that the second value is another one. -/
theorem validate_encode_roundRequest
    : roundRequest.Ordered ∧ ∃ r, validate roundRequest = .ok r
      ∧ ((r.encode.get? "metadata").bind (Value.get? "author")).bind Value.string?
        = some "AI Assistant"
      ∧ issues false r.encode = [] ∧ validate r.encode = .ok r := by
  have none : issues false roundRequest = [] := by decide +kernel
  have told : ((Request.decode roundRequest).bind fun r =>
      ((r.encode.get? "metadata").bind (Value.get? "author")).bind Value.string?)
      = some "AI Assistant" := by decide +kernel
  obtain ⟨r, read, author⟩ := Option.bind_eq_some_iff.mp told
  have accepted := validate_eq_ok.mpr ⟨none, read⟩
  obtain ⟨-, none', again⟩ := validate_encode ordered_roundRequest accepted
  exact ⟨ordered_roundRequest, r, accepted, author, none', again⟩

end Spreadsheet.Request
