import CFU.Library.KeyedWrites
import CFU.Tool.Discovery

/-!
# CFU tool - what a settings file says

A settings file is read line by line into a structure.  Here the same file is described
by its lines alone: each field has the value of the last line that names it, and the
lines behind the first one that does not fit into the buffer do not count.  The settings
that some file gives can be written to a file that gives them back.

Main results:

- Theorem {lit}`readProtocolSettingsFile_text`: the settings of every file.
- Theorem {lit}`strtoul_fourHexDigits`: a value that is written with four hexadecimal
  digits is read back.
- Theorem {lit}`readable_iff_text`: which settings a file gives, and the file that is
  written for them.
-/

namespace CFU
namespace Tool

open TextStream KeyedWrites

/-! ## The lines of a file -/

section Lines

/-- What a line sets. -/
def lineSetting (line : List Char) : Option (SettingsField × UInt16) :=
  match split ',' (.ofText (cString line)) with
  | tag :: value :: _ =>
      (fieldOfTag tag).map fun field => (field, (strtoul value 16).toUInt16)
  | _ => none

/-- The lines in front of the first one that does not fit. -/
def fittingLines (text : List Char) : List (List Char) :=
  (text.splitOn newline).takeWhile fun line => decide (line.length ≤ lineCapacity)

/-- The value of the last line that names a field. -/
def lastSetting (text : List Char) (field : SettingsField) : Option UInt16 :=
  lastWrite field ((fittingLines text).filterMap lineSetting)

/-- The settings with the values of some fields: a report has its type and its size as
soon as its usage is set. -/
def settingsOf (value : SettingsField → Option UInt16) : ProtocolSettings where
  vid := (value .vid).getD 0
  pid := (value .pid).getD 0
  usagePage := (value .usagePage).getD 0
  usageTlc := (value .usageTlc).getD 0
  reports report :=
    match value (.usage report) with
    | none => ProtocolSettings.zero.reports report
    | some usage =>
        { id := 0, usage := usage, size := report.reportSize, inOutFeature := report.reportType }

theorem settingsOf_none : settingsOf (fun _ => none) = .zero :=
  rfl

@[simp]
theorem settingsOf_reports_none {value : SettingsField → Option UInt16}
    {report : FwCfuUpdateReports} (h : value (.usage report) = none) :
    (settingsOf value).reports report = ProtocolSettings.zero.reports report := by
  simp [settingsOf, h]

@[simp]
theorem settingsOf_reports_some {value : SettingsField → Option UInt16}
    {report : FwCfuUpdateReports} {usage : UInt16} (h : value (.usage report) = some usage) :
    (settingsOf value).reports report =
      { id := 0, usage := usage, size := report.reportSize,
        inOutFeature := report.reportType } := by
  simp [settingsOf, h]

/-- A line never touches the id of a report. -/
theorem settingsOf_id (value : SettingsField → Option UInt16) (report : FwCfuUpdateReports) :
    ((settingsOf value).reports report).id = 0 := by
  cases h : value (.usage report) with
  | none => rw [settingsOf_reports_none h]; rfl
  | some usage => rw [settingsOf_reports_some h]

/-- A field is written over what the field had. -/
theorem assign_settingsOf (values : SettingsField → Option UInt16) (field : SettingsField)
    (value : UInt16) :
    (settingsOf values).assign value field =
      settingsOf (Function.update values field (some value)) := by
  cases field with
  | vid => rfl
  | pid => rfl
  | usagePage => rfl
  | usageTlc => rfl
  | usage written =>
      have hreports : ∀ report,
          ((settingsOf values).assign value (.usage written)).reports report =
            (settingsOf (Function.update values (.usage written) (some value))).reports
              report := by
        intro report
        by_cases hreport : report = written
        · subst hreport
          rw [settingsOf_reports_some (Function.update_self _ _ _)]
          simp [ProtocolSettings.assign, settingsOf_id]
        · have hfield : SettingsField.usage report ≠ .usage written := by
            simpa using hreport
          simp [ProtocolSettings.assign, settingsOf, Function.update_of_ne hreport,
            Function.update_of_ne hfield]
      exact ProtocolSettings.ext rfl rfl rfl rfl (funext hreports)

/-- A line does what it sets. -/
theorem applyLine_eq (line : List Char) (settings : ProtocolSettings) :
    applyLine line settings =
      match lineSetting line with
      | none => settings
      | some (field, value) => settings.assign value field := by
  unfold applyLine lineSetting
  cases split ',' (.ofText (cString line)) with
  | nil => rfl
  | cons tag rest =>
      cases rest with
      | nil => rfl
      | cons value others =>
          simp only [applyTag]
          cases fieldOfTag tag with
          | none => rfl
          | some field => rfl

/-- Lines do, one after the other, what they set. -/
theorem applyLines_eq_foldl (lines : List Line) (settings : ProtocolSettings) :
    applyLines lines settings =
      ((lines.map Line.text).filterMap lineSetting).foldl
        (fun settings write => settings.assign write.2 write.1) settings := by
  induction lines generalizing settings with
  | nil => rfl
  | cons line rest ih =>
      have hcons : applyLines (line :: rest) settings =
          applyLines rest (applyLine line.text settings) := rfl
      rw [hcons, ih, applyLine_eq, List.map_cons]
      cases hline : lineSetting line.text with
      | none => rw [List.filterMap_cons_none hline]
      | some write =>
          rw [List.filterMap_cons_some hline, List.foldl_cons]

/-- The settings behind some lines. -/
theorem applyLines_zero (lines : List Line) :
    applyLines lines .zero =
      settingsOf fun field =>
        lastWrite field ((lines.map Line.text).filterMap lineSetting) := by
  have hfold := foldl_assign
    (fun settings field value => ProtocolSettings.assign settings value field)
    assign_settingsOf (fun _ => none) ((lines.map Line.text).filterMap lineSetting)
  simp only [Option.or_none] at hfold
  rw [applyLines_eq_foldl, ← hfold, settingsOf_none]

/-- The loop applies the lines in front of the first one that does not fit. -/
theorem readLines_eq (lines : List Line) (settings : ProtocolSettings) :
    readLines (.ofText (fileText lines)) settings =
      applyLines (lines.takeWhile fun line => decide (line.text.length ≤ lineCapacity))
        settings := by
  induction lines generalizing settings with
  | nil => exact readLines_of_failbit getline_nil settings
  | cons line rest ih =>
      by_cases hline : line.Fits
      · have hshort : line.text.length ≤ lineCapacity := hline
        rw [readLines_cons hline, ih, List.takeWhile_cons, decide_eq_true hshort, if_pos rfl]
        rfl
      · have hlong : ¬ line.text.length ≤ lineCapacity := hline
        rw [readLines_long hline, List.takeWhile_cons, decide_eq_false hlong]
        rfl

/-- Every text is the text of its lines. -/
theorem exists_lines (text : List Char) :
    ∃ line rest, fileText (line :: rest) = text ∧
      text.splitOn newline = (line :: rest).map Line.text := by
  induction text with
  | nil => exact ⟨⟨[], List.not_mem_nil⟩, [], rfl, rfl⟩
  | cons c text ih =>
      obtain ⟨line, rest, htext, hsplit⟩ := ih
      by_cases hc : c = newline
      · subst hc
        refine ⟨⟨[], List.not_mem_nil⟩, line :: rest, ?_, ?_⟩
        · rw [fileText, htext, List.nil_append]
        · rw [List.splitOn_cons_eq_if_modifyHead, hsplit]
          simp
      · have hline : newline ∉ c :: line.text := by
          rw [List.mem_cons, not_or]
          exact ⟨Ne.symm hc, line.oneLine⟩
        refine ⟨⟨c :: line.text, hline⟩, rest, ?_, ?_⟩
        · rw [← htext]
          cases rest with
          | nil => rfl
          | cons next rest => rfl
        · rw [List.splitOn_cons_eq_if_modifyHead, hsplit]
          simp [hc]

/-- What the loop over a file leaves. -/
theorem readLines_ofText (text : List Char) :
    readLines (.ofText text) .zero = settingsOf (lastSetting text) := by
  obtain ⟨line, rest, htext, hsplit⟩ := exists_lines text
  have hfitting : fittingLines text =
      ((line :: rest).takeWhile fun line => decide (line.text.length ≤ lineCapacity)).map
        Line.text := by
    rw [fittingLines, hsplit, List.takeWhile_map]
    rfl
  have hread := readLines_eq (line :: rest) .zero
  rw [htext, applyLines_zero, ← hfitting] at hread
  exact hread

/-- The settings of a file: each field has the value of the last line that names it. -/
theorem readProtocolSettingsFile_text (text : List Char) :
    readProtocolSettingsFile (some text) = (true, settingsOf (lastSetting text)) := by
  rw [readProtocolSettingsFile, readLines_ofText]

end Lines

/-! ## Hexadecimal values -/

section Values

theorem digitValue_hexDigit : ∀ digit, digit < 16 → digitValue (hexDigit digit) = digit := by
  decide

/-- What a hexadecimal digit is not. -/
theorem hexDigit_ne : ∀ digit, digit < 16 →
    hexDigit digit ∉ [',', '-', '+', 'x', 'X', newline, Char.ofNat 0] := by
  decide

theorem isSpace_hexDigit : ∀ digit, digit < 16 → isSpace (hexDigit digit) = false := by
  decide

theorem isDigitOf_hexDigit {digit : ℕ} (h : digit < 16) : isDigitOf 16 (hexDigit digit) = true := by
  rw [isDigitOf, digitValue_hexDigit digit h]
  exact decide_eq_true h

/-- Four digits are read as the number that they stand for. -/
theorem strtoul_hexDigits {a b c d : ℕ} (ha : a < 16) (hb : b < 16) (hc : c < 16) (hd : d < 16) :
    strtoul [hexDigit a, hexDigit b, hexDigit c, hexDigit d] 16 =
      UInt32.ofNat (((a * 16 + b) * 16 + c) * 16 + d) := by
  have hspace : [hexDigit a, hexDigit b, hexDigit c, hexDigit d].dropWhile isSpace =
      [hexDigit a, hexDigit b, hexDigit c, hexDigit d] :=
    List.dropWhile_cons_of_neg (by simp [isSpace_hexDigit a ha])
  have hfirst := hexDigit_ne a ha
  have hsecond := hexDigit_ne b hb
  simp only [List.mem_cons, not_or] at hfirst hsecond
  have hsign : sign [hexDigit a, hexDigit b, hexDigit c, hexDigit d] =
      (false, [hexDigit a, hexDigit b, hexDigit c, hexDigit d]) := by
    simp [sign, hfirst]
  have hprefix : skipHexPrefix [hexDigit a, hexDigit b, hexDigit c, hexDigit d] =
      [hexDigit a, hexDigit b, hexDigit c, hexDigit d] := by
    simp [skipHexPrefix, hsecond]
  have hdigits : [hexDigit a, hexDigit b, hexDigit c, hexDigit d].takeWhile (isDigitOf 16) =
      [hexDigit a, hexDigit b, hexDigit c, hexDigit d] := by
    simp [isDigitOf_hexDigit ha, isDigitOf_hexDigit hb, isDigitOf_hexDigit hc,
      isDigitOf_hexDigit hd]
  have hvalue : digitsValue 16 [hexDigit a, hexDigit b, hexDigit c, hexDigit d] =
      ((a * 16 + b) * 16 + c) * 16 + d := by
    simp [digitsValue, digitValue_hexDigit a ha, digitValue_hexDigit b hb,
      digitValue_hexDigit c hc, digitValue_hexDigit d hd]
  have hsmall : ((a * 16 + b) * 16 + c) * 16 + d < 4294967296 := by omega
  simp [strtoul, hspace, hsign, hprefix, hdigits, hvalue, hsmall]

/-- A value that is written with four digits is read back. -/
theorem strtoul_fourHexDigits (value : UInt16) :
    (strtoul (fourHexDigits value) 16).toUInt16 = value := by
  have hlt := value.toNat_lt
  rw [fourHexDigits, strtoul_hexDigits (by omega) (by omega) (by omega) (by omega)]
  apply UInt16.toNat_inj.1
  simp
  omega

/-- The characters of four digits. -/
theorem mem_fourHexDigits {value : UInt16} {c : Char} (h : c ∈ fourHexDigits value) :
    c ∉ [',', '-', '+', 'x', 'X', newline, Char.ofNat 0] := by
  have hlt := value.toNat_lt
  simp only [fourHexDigits, List.mem_cons, List.not_mem_nil, or_false] at h
  rcases h with rfl | rfl | rfl | rfl
  · exact hexDigit_ne _ (by omega)
  · exact hexDigit_ne _ (by omega)
  · exact hexDigit_ne _ (by omega)
  · exact hexDigit_ne _ (by omega)

end Values

/-! ## Settings as a file -/

section Rendering

/-- The tags name their fields, and fit into a line. -/
theorem fieldOfTag_tag (field : SettingsField) :
    fieldOfTag field.tag.toList = some field ∧ field.tag.toList.length ≤ 28 ∧
      ',' ∉ field.tag.toList ∧ newline ∉ field.tag.toList ∧ Char.ofNat 0 ∉ field.tag.toList := by
  cases field with
  | vid => decide
  | pid => decide
  | usagePage => decide
  | usageTlc => decide
  | usage report =>
      cases report with
      | fwUpdateVersion => decide
      | fwUpdateOfferResponse => decide
      | fwUpdateContentResponse => decide
      | fwUpdateOffer => decide
      | fwUpdateContent => decide

theorem not_mem_settingText {field : SettingsField} {c : Char} (htag : c ∉ field.tag.toList)
    (hcomma : c ≠ ',') (hc : c ∈ [',', '-', '+', 'x', 'X', newline, Char.ofNat 0])
    (value : UInt16) : c ∉ field.tag.toList ++ ',' :: fourHexDigits value := by
  rw [List.mem_append, List.mem_cons, not_or, not_or]
  exact ⟨htag, hcomma, fun hvalue => mem_fourHexDigits hvalue hc⟩

/-- The line that sets a field. -/
def settingLine (field : SettingsField) (value : UInt16) : Line where
  text := field.tag.toList ++ ',' :: fourHexDigits value
  oneLine :=
    not_mem_settingText (fieldOfTag_tag field).2.2.2.1 (by decide) (by simp) value

theorem settingLine_fits (field : SettingsField) (value : UInt16) :
    (settingLine field value).Fits := by
  have htag := (fieldOfTag_tag field).2.1
  simp only [Line.Fits, settingLine, lineCapacity, List.length_append, List.length_cons,
    fourHexDigits, List.length_nil]
  omega

/-- The line that sets a field sets it. -/
theorem lineSetting_settingLine (field : SettingsField) (value : UInt16) :
    lineSetting (settingLine field value).text = some (field, value) := by
  obtain ⟨hfield, _, htag, _, hnull⟩ := fieldOfTag_tag field
  have hnull : Char.ofNat 0 ∉ (settingLine field value).text :=
    not_mem_settingText hnull (by decide) (by simp) value
  have hcut : cString (settingLine field value).text = (settingLine field value).text := by
    have happend := cString_append_of_not_mem hnull []
    simpa [cString] using happend
  have hcomma : ',' ∉ fourHexDigits value := fun hmem => mem_fourHexDigits hmem (by simp)
  have hdigits : fourHexDigits value ≠ [] := List.cons_ne_nil _ _
  have hsplit : split ',' (.ofText (settingLine field value).text) =
      [field.tag.toList, fourHexDigits value] := by
    rw [settingLine, split_append htag, split_last hcomma hdigits]
  simp [lineSetting, hcut, hsplit, hfield, strtoul_fourHexDigits]

/-- The values that a file has to give: a report without a size is left out. -/
def ProtocolSettings.values (settings : ProtocolSettings) : SettingsField → Option UInt16
  | .vid => some settings.vid
  | .pid => some settings.pid
  | .usagePage => some settings.usagePage
  | .usageTlc => some settings.usageTlc
  | .usage report =>
      if (settings.reports report).size = 0 then none else some (settings.reports report).usage

/-- A file for the settings. -/
def ProtocolSettings.lines (settings : ProtocolSettings) : List Line :=
  settingsFields.filterMap fun field => (settings.values field).map (settingLine field)

/-- The text of that file. -/
def ProtocolSettings.text (settings : ProtocolSettings) : List Char :=
  fileText settings.lines

/-- A report that no line names, or one with its type and its size. -/
def ReportSettings.Readable (report : FwCfuUpdateReports) (settings : ReportSettings) : Prop :=
  settings = ProtocolSettings.zero.reports report ∨
    settings.id = 0 ∧ settings.size = report.reportSize ∧
      settings.inOutFeature = report.reportType

/-- Each report is as a file can leave it. -/
def ProtocolSettings.Readable (settings : ProtocolSettings) : Prop :=
  ∀ report, (settings.reports report).Readable report

/-- Every file leaves such settings. -/
theorem readable_settingsOf (value : SettingsField → Option UInt16) :
    (settingsOf value).Readable := by
  intro report
  cases h : value (.usage report) with
  | none => exact Or.inl (settingsOf_reports_none h)
  | some usage =>
      right
      rw [settingsOf_reports_some h]
      exact ⟨rfl, rfl, rfl⟩

theorem mem_settingsFields (field : SettingsField) : field ∈ settingsFields := by
  cases field with
  | usage report => cases report <;> simp [settingsFields]
  | _ => simp [settingsFields]

theorem reportSize_ne_zero (report : FwCfuUpdateReports) : report.reportSize ≠ 0 := by
  cases report <;> decide

/-- Readable settings are given by their values. -/
theorem settingsOf_values {settings : ProtocolSettings} (h : settings.Readable) :
    settingsOf settings.values = settings := by
  have hreports : ∀ report,
      (settingsOf settings.values).reports report = settings.reports report := by
    intro report
    rcases h report with hzero | ⟨hid, hsize, htype⟩
    · have hnone : settings.values (.usage report) = none := by
        simp [ProtocolSettings.values, hzero, ProtocolSettings.zero]
      rw [settingsOf_reports_none hnone, hzero]
    · have hsome : settings.values (.usage report) = some (settings.reports report).usage := by
        simp [ProtocolSettings.values, hsize, reportSize_ne_zero]
      rw [settingsOf_reports_some hsome, ← hid, ← hsize, ← htype]
  exact ProtocolSettings.ext rfl rfl rfl rfl (funext hreports)

/-- The lines of the file set the values. -/
theorem filterMap_lines (settings : ProtocolSettings) :
    (settings.lines.map Line.text).filterMap lineSetting =
      settingsFields.filterMap fun field =>
        (settings.values field).map fun value => (field, value) := by
  rw [ProtocolSettings.lines, List.map_filterMap, List.filterMap_filterMap]
  apply List.filterMap_congr
  intro field _
  cases settings.values field with
  | none => rfl
  | some value => simp [lineSetting_settingLine]

/-- What is written for some settings is read back as their values. -/
theorem readLines_text (settings : ProtocolSettings) :
    readLines (.ofText settings.text) .zero = settingsOf settings.values := by
  have hfits : ∀ line ∈ settings.lines, line.Fits := by
    intro line hline
    rw [ProtocolSettings.lines, List.mem_filterMap] at hline
    obtain ⟨field, _, hfield⟩ := hline
    rw [Option.map_eq_some_iff] at hfield
    obtain ⟨value, _, rfl⟩ := hfield
    exact settingLine_fits field value
  rw [ProtocolSettings.text, readLines_fileText hfits, applyLines_zero, filterMap_lines]
  congr 1
  funext field
  rw [lastWrite_listed, if_pos (mem_settingsFields field)]

/-- The settings that some file gives are the readable ones, and they are the ones that
survive being written to a file. -/
theorem readable_iff_text (settings : ProtocolSettings) :
    ((∃ text, readProtocolSettingsFile (some text) = (true, settings)) ↔ settings.Readable) ∧
      (readProtocolSettingsFile (some settings.text) = (true, settings) ↔
        settings.Readable) := by
  have hreadable : (∃ text, readProtocolSettingsFile (some text) = (true, settings)) →
      settings.Readable := by
    rintro ⟨text, hread⟩
    rw [readProtocolSettingsFile, readLines_ofText, Prod.mk.injEq] at hread
    rw [← hread.2]
    exact readable_settingsOf _
  have hround : settings.Readable →
      readProtocolSettingsFile (some settings.text) = (true, settings) := by
    intro h
    rw [readProtocolSettingsFile, readLines_text, settingsOf_values h]
  constructor
  · constructor
    · exact hreadable
    · intro h
      exact ⟨settings.text, hround h⟩
  · constructor
    · intro h
      exact hreadable ⟨settings.text, h⟩
    · exact hround

end Rendering

end Tool
end CFU
