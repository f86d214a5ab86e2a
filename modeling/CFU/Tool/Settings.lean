import CFU.Library.TextStream
import Mathlib.Data.List.Pairwise
import Mathlib.Logic.Function.Basic

/-!
# CFU tool - the settings file

The settings of the protocol are read from a file of tagged lines.  The tag ends at the
first comma, the value at the second one, and what follows is a comment.  A line is read
into a buffer of 512 bytes; a longer one makes the stream fail, and the loop takes that
for the end of the file.

Main results:

- Theorem {lit}`applyLine_cases`: a line writes the field of its tag or nothing.
- Theorem {lit}`SameSettings.applyLines_eq`: comments and the order of different tags
  do not matter for the lines of a file.
- Theorem {lit}`readLines_fileText`: when every line fits, each of them is applied.
- Theorem {lit}`settings_insensitive_iff`: which lines may stand in a file.
-/

namespace CFU
namespace Tool

open TextStream

/-! ## Settings -/

/-- {lit}`FwCfuUpdateReports` -/
inductive FwCfuUpdateReports where
  | fwUpdateVersion
  | fwUpdateOfferResponse
  | fwUpdateContentResponse
  | fwUpdateOffer
  | fwUpdateContent
deriving DecidableEq, Repr

/-- {lit}`HIDP_REPORT_TYPE` -/
inductive HidpReportType where
  | input
  | output
  | feature
deriving DecidableEq, Repr

/-- An entry of {lit}`Reports`, without its name. -/
structure ReportSettings where
  id : UInt8
  usage : UInt16
  size : UInt16
  inOutFeature : HidpReportType
deriving DecidableEq, Repr

/-- {lit}`CfuHidDeviceConfiguration` with all that a settings file can say. -/
@[ext]
structure ProtocolSettings where
  vid : UInt16
  pid : UInt16
  usagePage : UInt16
  usageTlc : UInt16
  reports : FwCfuUpdateReports → ReportSettings

/-- The settings after {lit}`memset`. -/
def ProtocolSettings.zero : ProtocolSettings where
  vid := 0
  pid := 0
  usagePage := 0
  usageTlc := 0
  reports := fun _ => { id := 0, usage := 0, size := 0, inOutFeature := .input }

/-- What a line of the file can set. -/
inductive SettingsField where
  | vid
  | pid
  | usagePage
  | usageTlc
  | usage (report : FwCfuUpdateReports)
deriving DecidableEq, Repr

/-- The tag of a field. -/
def SettingsField.tag : SettingsField → String
  | vid => "VID"
  | pid => "PID"
  | usagePage => "USAGEPAGE"
  | usageTlc => "USAGECOLLECTION"
  | usage .fwUpdateVersion => "VERSION_FEATURE_USAGE"
  | usage .fwUpdateContent => "CONTENT_OUTPUT_USAGE"
  | usage .fwUpdateContentResponse => "CONTENT_RESPONSE_INPUT_USAGE"
  | usage .fwUpdateOffer => "OFFER_OUTPUT_USAGE"
  | usage .fwUpdateOfferResponse => "OFFER_RESPONSE_INPUT_USAGE"

/-- The fields in the order of the comparisons. -/
def settingsFields : List SettingsField :=
  [.vid, .pid, .usagePage, .usageTlc, .usage .fwUpdateVersion, .usage .fwUpdateContent,
    .usage .fwUpdateContentResponse, .usage .fwUpdateOffer, .usage .fwUpdateOfferResponse]

/-- The type that the file gives to a report. -/
def FwCfuUpdateReports.reportType : FwCfuUpdateReports → HidpReportType
  | fwUpdateVersion => .feature
  | fwUpdateContent => .output
  | fwUpdateContentResponse => .input
  | fwUpdateOffer => .output
  | fwUpdateOfferResponse => .input

/-- The size in bytes that the file gives to a report. -/
def FwCfuUpdateReports.reportSize : FwCfuUpdateReports → UInt16
  | fwUpdateVersion => 60
  | fwUpdateContent => 60
  | fwUpdateContentResponse => 16
  | fwUpdateOffer => 16
  | fwUpdateOfferResponse => 16

/-- Write the value of a line. -/
def ProtocolSettings.assign (settings : ProtocolSettings) (value : UInt16) :
    SettingsField → ProtocolSettings
  | .vid => { settings with vid := value }
  | .pid => { settings with pid := value }
  | .usagePage => { settings with usagePage := value }
  | .usageTlc => { settings with usageTlc := value }
  | .usage report =>
      { settings with
        reports := Function.update settings.reports report
          { settings.reports report with
            usage := value
            inOutFeature := report.reportType
            size := report.reportSize } }

/-! ## Reading -/

/-- {lit}`StringUtil::comparecsi` -/
def comparecsi (a b : List Char) : Bool :=
  decide (a.map Char.toUpper = b.map Char.toUpper)

/-- {lit}`Split` -/
def split (delimiter : Char) (tokenStream : TextStream) : List (List Char) :=
  if _h : (tokenStream.getline delimiter tokenStream.rest.length).2.failbit = true then []
  else
    (tokenStream.getline delimiter tokenStream.rest.length).1 ::
      split delimiter (tokenStream.getline delimiter tokenStream.rest.length).2
termination_by tokenStream.remaining
decreasing_by exact getline_remaining_lt (Bool.eq_false_iff.2 _h)

/-- The characters in front of the terminating null character. -/
def cString (buffer : List Char) : List Char :=
  buffer.takeWhile fun c => decide (c ≠ Char.ofNat 0)

/-- The field that a tag names. -/
def fieldOfTag (tag : List Char) : Option SettingsField :=
  settingsFields.find? fun field => comparecsi tag field.tag.toList

/-- Write the value behind a tag. -/
def applyTag (tag value : List Char) (settings : ProtocolSettings) : ProtocolSettings :=
  match fieldOfTag tag with
  | some field => settings.assign (strtoul value 16).toUInt16 field
  | none => settings

/-- The body of the loop: a line with less than two tokens is skipped. -/
def applyLine (line : List Char) (settings : ProtocolSettings) : ProtocolSettings :=
  match split ',' (.ofText (cString line)) with
  | tag :: value :: _ => applyTag tag value settings
  | _ => settings

/-- The end of a line. -/
def newline : Char := Char.ofNat 10

/-- The characters that {lit}`char line[512]` holds in front of the null character. -/
def lineCapacity : ℕ := 511

/-- The loop over the lines. -/
def readLines (configStream : TextStream) (settings : ProtocolSettings) : ProtocolSettings :=
  if _h : (configStream.getline newline lineCapacity).2.failbit = true then settings
  else
    readLines (configStream.getline newline lineCapacity).2
      (applyLine (configStream.getline newline lineCapacity).1 settings)
termination_by configStream.remaining
decreasing_by exact getline_remaining_lt (Bool.eq_false_iff.2 _h)

/-- {lit}`ReadProtocolSettingsFile`, from the characters of the file when it can be
opened: the return value and the settings. -/
def readProtocolSettingsFile (file : Option (List Char)) : Bool × ProtocolSettings :=
  match file with
  | none => (false, .zero)
  | some text => (true, readLines (.ofText text) .zero)

/-! ## One line -/

section OneLine

/-- The text in front of the first comma, in upper case. -/
def lineTag (line : List Char) : List Char :=
  (line.takeWhile fun c => decide (c ≠ ',')).map Char.toUpper

theorem forall_ne_of_not_mem {c : Char} {text : List Char} (h : c ∉ text) :
    ∀ d ∈ text, decide (d ≠ c) = true := by
  intro d hd
  simp only [ne_eq, decide_eq_true_eq]
  rintro rfl
  exact h hd

theorem lineTag_append {tag : List Char} (htag : ',' ∉ tag) (rest : List Char) :
    lineTag (tag ++ ',' :: rest) = tag.map Char.toUpper := by
  rw [lineTag, List.takeWhile_append_of_pos (forall_ne_of_not_mem htag)]
  simp

theorem comparecsi_iff (a b : List Char) :
    comparecsi a b = true ↔ a.map Char.toUpper = b.map Char.toUpper := by
  simp [comparecsi]

/-- A field has one tag only. -/
theorem fieldOfTag_injective {tag tag' : List Char} {field : SettingsField}
    (h : fieldOfTag tag = some field) (h' : fieldOfTag tag' = some field) :
    tag.map Char.toUpper = tag'.map Char.toUpper := by
  unfold fieldOfTag at h h'
  have hfound := List.find?_some h
  have hfound' := List.find?_some h'
  rw [comparecsi_iff] at hfound hfound'
  rw [hfound, hfound']

/-- Different fields are written independently. -/
theorem assign_comm (settings : ProtocolSettings) (value value' : UInt16)
    {field field' : SettingsField} (hne : field ≠ field') :
    (settings.assign value field).assign value' field' =
      (settings.assign value' field').assign value field := by
  cases field <;> cases field' <;> try rfl
  · exact absurd rfl hne
  · exact absurd rfl hne
  · exact absurd rfl hne
  · exact absurd rfl hne
  · next report report' =>
      have hreport : report ≠ report' := fun heq => hne (congrArg _ heq)
      simp only [ProtocolSettings.assign, Function.update_of_ne hreport,
        Function.update_of_ne hreport.symm]
      rw [Function.update_comm hreport]

/-- Different tags are written independently. -/
theorem applyTag_comm (settings : ProtocolSettings) (value value' : List Char)
    {tag tag' : List Char} (hne : tag.map Char.toUpper ≠ tag'.map Char.toUpper) :
    applyTag tag value (applyTag tag' value' settings) =
      applyTag tag' value' (applyTag tag value settings) := by
  unfold applyTag
  cases hfield : fieldOfTag tag with
  | none => rfl
  | some field =>
      cases hfield' : fieldOfTag tag' with
      | none => rfl
      | some field' =>
          apply assign_comm
          rintro rfl
          exact hne (fieldOfTag_injective hfield hfield')

theorem split_append {token : List Char} (htoken : ',' ∉ token) (rest : List Char) :
    split ',' (.ofText (token ++ ',' :: rest)) = token :: split ',' (.ofText rest) := by
  have hlength : token.length ≤ (TextStream.ofText (token ++ ',' :: rest)).rest.length := by
    simp
  rw [split, getline_line htoken hlength]
  rfl

theorem split_nil : split ',' (.ofText []) = [] := by
  rw [split]
  rfl

/-- A stream with an error has no token. -/
theorem split_of_not_good {s : TextStream} (h : s.good = false) : split ',' s = [] := by
  rw [split, getline_of_not_good h]
  rfl

theorem split_last {token : List Char} (htoken : ',' ∉ token) (hne : token ≠ []) :
    split ',' (.ofText token) = [token] := by
  have hline := getline_last htoken (Nat.le_refl token.length) hne
  rw [split, ofText_rest, hline, split_of_not_good rfl]
  rfl

/-- A line without a comma in front of a null character is skipped. -/
theorem applyLine_of_noComma {line : List Char} (h : ',' ∉ cString line)
    (settings : ProtocolSettings) : applyLine line settings = settings := by
  unfold applyLine
  by_cases hnil : cString line = []
  · rw [hnil, split_nil]
  · rw [split_last h hnil]

theorem noComma_cString {line : List Char} (h : ',' ∉ line) : ',' ∉ cString line := by
  intro hmem
  exact h ((List.takeWhile_prefix _).subset hmem)

/-- A line writes the field of its tag, or nothing. -/
theorem applyLine_cases (line : List Char) :
    (∀ settings, applyLine line settings = settings) ∨
      ∃ tag value, tag.map Char.toUpper = lineTag line ∧
        ∀ settings, applyLine line settings = applyTag tag value settings := by
  by_cases hcomma : ',' ∈ cString line
  · obtain ⟨tag, rest, hcut, htag⟩ := List.eq_append_cons_of_mem hcomma
    have hline : line =
        tag ++ ',' :: (rest ++ line.dropWhile fun c => decide (c ≠ Char.ofNat 0)) := by
      rw [← List.cons_append, ← List.append_assoc, ← hcut]
      exact List.takeWhile_append_dropWhile.symm
    have hsplit : split ',' (.ofText (cString line)) = tag :: split ',' (.ofText rest) := by
      rw [hcut, split_append htag]
    cases hrest : split ',' (.ofText rest) with
    | nil =>
        left
        intro settings
        rw [applyLine, hsplit, hrest]
    | cons value others =>
        right
        refine ⟨tag, value, ?_, ?_⟩
        · rw [hline, lineTag_append htag]
        · intro settings
          rw [applyLine, hsplit, hrest]
  · left
    intro settings
    exact applyLine_of_noComma hcomma settings

/-- Lines with different tags can change places. -/
theorem applyLine_comm {line line' : List Char} (hne : lineTag line ≠ lineTag line')
    (settings : ProtocolSettings) :
    applyLine line (applyLine line' settings) = applyLine line' (applyLine line settings) := by
  rcases applyLine_cases line with h | ⟨tag, value, htag, h⟩
  · rw [h, h]
  · rcases applyLine_cases line' with h' | ⟨tag', value', htag', h'⟩
    · rw [h', h']
    · rw [h, h', h, h']
      apply applyTag_comm
      rwa [htag, htag']

/-- What stands in front of a null character decides what the line does. -/
theorem cString_append_of_mem {line : List Char} (h : Char.ofNat 0 ∈ line) (rest : List Char) :
    cString (line ++ rest) = cString line := by
  obtain ⟨front, back, rfl, hfront⟩ := List.eq_append_cons_of_mem h
  have hall := forall_ne_of_not_mem hfront
  unfold cString
  rw [List.append_assoc, List.takeWhile_append_of_pos hall, List.takeWhile_append_of_pos hall]
  simp

theorem cString_append_of_not_mem {line : List Char} (h : Char.ofNat 0 ∉ line)
    (rest : List Char) : cString (line ++ rest) = line ++ cString rest :=
  List.takeWhile_append_of_pos (forall_ne_of_not_mem h)

/-- The text behind the second comma does not matter. -/
theorem applyLine_comment {tag value : List Char} (htag : ',' ∉ tag) (hvalue : ',' ∉ value)
    (rest rest' : List Char) (settings : ProtocolSettings) :
    applyLine (tag ++ ',' :: (value ++ ',' :: rest)) settings =
      applyLine (tag ++ ',' :: (value ++ ',' :: rest')) settings := by
  have hsplit : ∀ rest, ∃ others,
      split ',' (.ofText (tag ++ ',' :: (value ++ ',' :: rest))) = tag :: value :: others := by
    intro rest
    rw [split_append htag, split_append hvalue]
    exact ⟨_, rfl⟩
  have hfront : ∀ rest, tag ++ ',' :: (value ++ ',' :: rest) =
      (tag ++ ',' :: (value ++ [','])) ++ rest := by
    intro rest
    simp
  by_cases hnull : Char.ofNat 0 ∈ tag ++ ',' :: (value ++ [','])
  · unfold applyLine
    rw [hfront rest, hfront rest', cString_append_of_mem hnull, cString_append_of_mem hnull]
  · obtain ⟨others, hothers⟩ := hsplit (cString rest)
    obtain ⟨others', hothers'⟩ := hsplit (cString rest')
    unfold applyLine
    rw [hfront rest, hfront rest', cString_append_of_not_mem hnull,
      cString_append_of_not_mem hnull, ← hfront, ← hfront, hothers, hothers']

end OneLine

/-! ## Files -/

section Files

/-- A line of a settings file. -/
structure Line where
  text : List Char
  oneLine : newline ∉ text

/-- The file with the given lines. -/
def fileText : List Line → List Char
  | [] => []
  | [line] => line.text
  | line :: next :: rest => line.text ++ newline :: fileText (next :: rest)

/-- Two lines that differ in the comment behind the second comma, or without a comma. -/
inductive Line.Rewords (line line' : Line) : Prop
  | comment (tag value rest rest' : List Char) (htag : ',' ∉ tag) (hvalue : ',' ∉ value)
      (hline : line.text = tag ++ ',' :: (value ++ ',' :: rest))
      (hline' : line'.text = tag ++ ',' :: (value ++ ',' :: rest'))
  | noComma (hline : ',' ∉ line.text) (hline' : ',' ∉ line'.text)

/-- Two lines with different tags. -/
def Line.DifferentTags (line line' : Line) : Prop :=
  lineTag line.text ≠ lineTag line'.text

instance : Std.Symm Line.DifferentTags where
  symm _ _ hne := Ne.symm hne

/-- Two files that differ in comments and in the order of lines with different tags. -/
inductive SameSettings : List Line → List Line → Prop
  | refl (lines : List Line) : SameSettings lines lines
  | permute (before after : List Line) {block block' : List Line} (hperm : block.Perm block')
      (htags : block.Pairwise Line.DifferentTags) :
      SameSettings (before ++ block ++ after) (before ++ block' ++ after)
  | reword (before after : List Line) {line line' : Line} (hline : line.Rewords line') :
      SameSettings (before ++ line :: after) (before ++ line' :: after)
  | trans {lines lines' lines'' : List Line} (h : SameSettings lines lines')
      (h' : SameSettings lines' lines'') : SameSettings lines lines''

/-- Apply lines in order. -/
def applyLines (lines : List Line) (settings : ProtocolSettings) : ProtocolSettings :=
  lines.foldl (fun settings line => applyLine line.text settings) settings

theorem applyLines_append (lines lines' : List Line) (settings : ProtocolSettings) :
    applyLines (lines ++ lines') settings = applyLines lines' (applyLines lines settings) :=
  List.foldl_append

/-- Lines with pairwise different tags can be applied in any order. -/
theorem applyLines_perm {lines lines' : List Line} (hperm : lines.Perm lines')
    (htags : lines.Pairwise Line.DifferentTags) (settings : ProtocolSettings) :
    applyLines lines settings = applyLines lines' settings := by
  apply hperm.foldl_eq'
  intro line hline line' hline' settings
  by_cases heq : line = line'
  · rw [heq]
  · have hne : lineTag line.text ≠ lineTag line'.text := htags.forall hline hline' heq
    exact applyLine_comm hne.symm settings

/-- A reworded line does what it did. -/
theorem Line.Rewords.applyLine_eq {line line' : Line} (h : line.Rewords line')
    (settings : ProtocolSettings) :
    applyLine line.text settings = applyLine line'.text settings := by
  cases h with
  | comment tag value rest rest' htag hvalue hline hline' =>
      rw [hline, hline']
      exact applyLine_comment htag hvalue rest rest' settings
  | noComma hline hline' =>
      rw [applyLine_of_noComma (noComma_cString hline),
        applyLine_of_noComma (noComma_cString hline')]

/-- Comments and the order of different tags do not matter. -/
theorem SameSettings.applyLines_eq {lines lines' : List Line} (h : SameSettings lines lines')
    (settings : ProtocolSettings) : applyLines lines settings = applyLines lines' settings := by
  induction h generalizing settings with
  | refl lines => rfl
  | permute before after hperm htags =>
      rw [applyLines_append, applyLines_append, applyLines_append, applyLines_append,
        applyLines_perm hperm htags]
  | reword before after hline =>
      rw [applyLines_append, applyLines_append]
      exact congrArg (applyLines after) (hline.applyLine_eq _)
  | trans _ _ ih ih' => rw [ih, ih']

/-- A line that the buffer can hold. -/
def Line.Fits (line : Line) : Prop :=
  line.text.length ≤ lineCapacity

theorem readLines_of_failbit {s : TextStream}
    (h : (s.getline newline lineCapacity).2.failbit = true) (settings : ProtocolSettings) :
    readLines s settings = settings := by
  rw [readLines, dif_pos h]

theorem readLines_of_getline {s next : TextStream} {line : List Char}
    (h : s.getline newline lineCapacity = (line, next)) (hnext : next.failbit = false)
    (settings : ProtocolSettings) :
    readLines s settings = readLines next (applyLine line settings) := by
  have hfail : ¬ (s.getline newline lineCapacity).2.failbit = true := by
    rw [h, hnext]
    exact Bool.false_ne_true
  rw [readLines, dif_neg hfail, h]

theorem fileText_cons (line : Line) (rest : List Line) :
    ∃ tail, fileText (line :: rest) = line.text ++ tail := by
  cases rest with
  | nil => exact ⟨[], (List.append_nil _).symm⟩
  | cons next rest => exact ⟨newline :: fileText (next :: rest), rfl⟩

/-- A line that fits is applied. -/
theorem readLines_cons {line : Line} (hline : line.Fits) (rest : List Line)
    (settings : ProtocolSettings) :
    readLines (.ofText (fileText (line :: rest))) settings =
      readLines (.ofText (fileText rest)) (applyLine line.text settings) := by
  cases rest with
  | nil =>
      have hend : readLines (.ofText []) (applyLine line.text settings) =
          applyLine line.text settings := readLines_of_failbit getline_nil _
      by_cases hnil : line.text = []
      · have hskip : applyLine line.text settings = settings := by
          rw [hnil]
          exact applyLine_of_noComma (noComma_cString (List.not_mem_nil)) settings
        rw [fileText, fileText, hend, hskip, hnil]
        exact readLines_of_failbit getline_nil _
      · have hline' := getline_last line.oneLine hline hnil
        rw [fileText, fileText, hend, readLines_of_getline hline' rfl]
        exact readLines_of_failbit rfl _
  | cons next rest =>
      exact readLines_of_getline (getline_line line.oneLine hline _) rfl settings

/-- A line that does not fit ends the loop. -/
theorem readLines_long {line : Line} (hline : ¬ line.Fits) (rest : List Line)
    (settings : ProtocolSettings) :
    readLines (.ofText (fileText (line :: rest))) settings = settings := by
  obtain ⟨tail, htail⟩ := fileText_cons line rest
  rw [htail]
  exact readLines_of_failbit (getline_long line.oneLine tail (Nat.lt_of_not_le hline)) settings

/-- When every line fits, each of them is applied. -/
theorem readLines_fileText {lines : List Line} (hlines : ∀ line ∈ lines, line.Fits)
    (settings : ProtocolSettings) :
    readLines (.ofText (fileText lines)) settings = applyLines lines settings := by
  induction lines generalizing settings with
  | nil => exact readLines_of_failbit getline_nil settings
  | cons line lines ih =>
      rw [List.forall_mem_cons] at hlines
      rw [readLines_cons hlines.1, ih hlines.2]
      rfl

/-- Two files of such lines with the same settings are read alike. -/
def InsensitiveFor (allowed : Line → Prop) : Prop :=
  ∀ lines lines', SameSettings lines lines' → (∀ line ∈ lines ++ lines', allowed line) →
    readProtocolSettingsFile (some (fileText lines)) =
      readProtocolSettingsFile (some (fileText lines'))

theorem applyLine_setting {tag value : List Char} (htag : ',' ∉ tag) (hvalue : ',' ∉ value)
    (hne : value ≠ []) (hcut : cString (tag ++ ',' :: value) = tag ++ ',' :: value)
    (settings : ProtocolSettings) :
    applyLine (tag ++ ',' :: value) settings = applyTag tag value settings := by
  rw [applyLine, hcut, split_append htag, split_last hvalue hne]

/-- The line {lit}`VID,1`. -/
def vidLine : Line where
  text := "VID".toList ++ ',' :: "1".toList
  oneLine := by decide

/-- The line {lit}`PID,1`. -/
def pidLine : Line where
  text := "PID".toList ++ ',' :: "1".toList
  oneLine := by decide

theorem vidLine_fits : vidLine.Fits := by
  show vidLine.text.length ≤ lineCapacity
  decide

theorem pidLine_fits : pidLine.Fits := by
  show pidLine.text.length ≤ lineCapacity
  decide

theorem applyLine_vidLine (settings : ProtocolSettings) :
    applyLine vidLine.text settings = { settings with vid := 1 } := by
  have hfield : fieldOfTag "VID".toList = some .vid := by decide
  have hvalue : (strtoul "1".toList 16).toUInt16 = 1 := by decide
  rw [vidLine, applyLine_setting (by decide) (by decide) (by decide) (by decide), applyTag, hfield]
  exact congrArg (settings.assign · .vid) hvalue

theorem applyLine_pidLine (settings : ProtocolSettings) :
    applyLine pidLine.text settings = { settings with pid := 1 } := by
  have hfield : fieldOfTag "PID".toList = some .pid := by decide
  have hvalue : (strtoul "1".toList 16).toUInt16 = 1 := by decide
  rw [pidLine, applyLine_setting (by decide) (by decide) (by decide) (by decide), applyTag, hfield]
  exact congrArg (settings.assign · .pid) hvalue

theorem sameSettings_swap {line line' : Line} (hne : line.DifferentTags line') :
    SameSettings [line, line'] [line', line] := by
  have hperm : [line, line'].Perm [line', line] := List.Perm.swap line' line []
  have htags : [line, line'].Pairwise Line.DifferentTags := by
    simpa using hne
  have hpermute := SameSettings.permute [] [] hperm htags
  simpa using hpermute

/-- A line that does not fit hides a setting behind it. -/
theorem not_insensitiveFor {line setting : Line} {settings : ProtocolSettings}
    (hline : ¬ line.Fits) (hsetting : setting.Fits) (hne : line.DifferentTags setting)
    (happly : applyLine setting.text .zero = settings) (hzero : settings ≠ .zero) :
    ¬ InsensitiveFor fun other => other = line ∨ other.Fits := by
  intro h
  have hallowed : ∀ other ∈ [line, setting] ++ [setting, line], other = line ∨ other.Fits := by
    intro other hother
    simp only [List.cons_append, List.nil_append, List.mem_cons, List.not_mem_nil, or_false]
      at hother
    rcases hother with rfl | rfl | rfl | rfl
    · exact Or.inl rfl
    · exact Or.inr hsetting
    · exact Or.inr hsetting
    · exact Or.inl rfl
  have hread := congrArg Prod.snd (h _ _ (sameSettings_swap hne) hallowed)
  have hhidden : readLines (.ofText (fileText [line, setting])) .zero = .zero :=
    readLines_long hline [setting] .zero
  have hseen : readLines (.ofText (fileText [setting, line])) .zero = settings := by
    rw [readLines_cons hsetting, readLines_long hline, happly]
  rw [readProtocolSettingsFile, readProtocolSettingsFile, hhidden, hseen] at hread
  exact hzero hread.symm

/-- The settings do not depend on comments and on the order of different tags for the
lines that fit, and a line that does not fit breaks this. -/
theorem settings_insensitive_iff (line : Line) :
    InsensitiveFor (fun other => other = line ∨ other.Fits) ↔ line.Fits := by
  constructor
  · intro h
    by_contra hline
    by_cases hvid : line.DifferentTags vidLine
    · apply not_insensitiveFor hline vidLine_fits hvid (applyLine_vidLine .zero) _ h
      intro heq
      exact absurd (congrArg ProtocolSettings.vid heq) (by decide)
    · have hpid : line.DifferentTags pidLine := by
        intro heq
        apply hvid
        unfold Line.DifferentTags
        rw [heq]
        decide
      apply not_insensitiveFor hline pidLine_fits hpid (applyLine_pidLine .zero) _ h
      intro heq
      exact absurd (congrArg ProtocolSettings.pid heq) (by decide)
  · intro hline lines lines' hsame hallowed
    have hfits : ∀ other ∈ lines ++ lines', other.Fits := by
      intro other hother
      rcases hallowed other hother with rfl | hfit
      · exact hline
      · exact hfit
    have hread : readLines (.ofText (fileText lines)) .zero = applyLines lines .zero :=
      readLines_fileText (fun other hother => hfits other (List.mem_append_left _ hother)) .zero
    have hread' : readLines (.ofText (fileText lines')) .zero = applyLines lines' .zero :=
      readLines_fileText (fun other hother => hfits other (List.mem_append_right _ hother)) .zero
    rw [readProtocolSettingsFile, readProtocolSettingsFile, hread, hread',
      hsame.applyLines_eq]

/-- A comment of 512 characters. -/
def longComment : Line where
  text := List.replicate 512 '#'
  oneLine := by
    intro hmem
    exact absurd (List.eq_of_mem_replicate hmem) (by decide)

/-- The settings behind a long comment are not read, and those in front of it are. -/
theorem setting_behind_longComment :
    SameSettings [longComment, vidLine] [vidLine, longComment] ∧
      (readProtocolSettingsFile (some (fileText [longComment, vidLine]))).2.vid = 0 ∧
      (readProtocolSettingsFile (some (fileText [vidLine, longComment]))).2.vid = 1 := by
  have hlong : ¬ longComment.Fits := by
    show ¬ (List.replicate 512 '#').length ≤ lineCapacity
    rw [List.length_replicate]
    decide
  have htags : longComment.DifferentTags vidLine := by
    unfold Line.DifferentTags
    decide
  have hhidden : readLines (.ofText (fileText [longComment, vidLine])) .zero = .zero :=
    readLines_long hlong [vidLine] .zero
  have hseen : readLines (.ofText (fileText [vidLine, longComment])) .zero =
      { ProtocolSettings.zero with vid := 1 } := by
    rw [readLines_cons vidLine_fits, readLines_long hlong, applyLine_vidLine]
  refine ⟨sameSettings_swap htags, ?_, ?_⟩
  · exact congrArg ProtocolSettings.vid hhidden
  · exact congrArg ProtocolSettings.vid hseen

end Files

end Tool
end CFU
