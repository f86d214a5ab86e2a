import CFU.Tool.DeviceSelect
import CFU.Tool.FwUpdate
import CFU.Tool.SettingsFields

/-!
# CFU tool - the command line

{lit}`_tmain` runs one of two commands.  An update reads the settings, searches for
devices, lets the user choose one, and offers it the image; the version command stops
behind the search.

Main results:

- Theorem {lit}`retrieved_nothing_iff`: the search succeeds without a device exactly when
  Windows returned a list without an interface.
- Theorem {lit}`parseOptions_eq`: which options set the two flags.
- Theorem {lit}`tmain_emptyVector_iff`: when the tool reads the first entry of an empty
  vector.
- Theorem {lit}`fwUpdateMain_of_selected`: an update that finds its device is the transfer
  to the device that was chosen.
-/

namespace CFU
namespace Tool

open ResultCode TextStream

/-! ## The program -/

section Program

variable {D : Type}

/-- The handles, the thread and the buffer of {lit}`FwUpdateOfferSrec` for a device path. -/
structure Opening where
  readEvent : Bool
  deviceRead : Bool
  deviceWrite : Bool
  readThread : Bool
  inputReportBuffer : List UInt8

/-- What the tool finds when it is started: the files by their paths, the list of the
interfaces, the standard input, and what is behind a device path. -/
structure Host (D : Type) where
  coInitializeEx : UInt32
  settingsFile : List Char → Option (List Char)
  binaryFile : List Char → Option (List UInt8)
  interfaceList : InterfaceList
  cin : TextStream
  opening : List Char → Opening
  populateReportId : List Char → HidpReportType → UInt16 → Option UInt8
  device : List Char → HidDevice D

/-- What goes wrong in memory while the tool runs. -/
inductive MainFault where
  | query (fault : QueryFault)
  | emptyVector
  | transfer (fault : Fault)
deriving DecidableEq, Repr

/-- How the tool ends: with its return value, with a fault, or not within the number of
rounds and waits that it was given. -/
inductive MainResult where
  | exited (ret : UInt32)
  | faulted (fault : MainFault)
  | unfinished
deriving DecidableEq, Repr

/-- {lit}`StringUtil::comparewsi` -/
def comparewsi (a b : List Char) : Bool :=
  decide (a.map Char.toUpper = b.map Char.toUpper)

/-- The entries of {lit}`Reports` that an update uses. -/
def ProtocolSettings.updateReports (settings : ProtocolSettings) : CfuHidDeviceConfiguration where
  fwUpdateOfferResponse :=
    ⟨(settings.reports .fwUpdateOfferResponse).id, (settings.reports .fwUpdateOfferResponse).size⟩
  fwUpdateContentResponse :=
    ⟨(settings.reports .fwUpdateContentResponse).id,
      (settings.reports .fwUpdateContentResponse).size⟩
  fwUpdateOffer := ⟨(settings.reports .fwUpdateOffer).id, (settings.reports .fwUpdateOffer).size⟩
  fwUpdateContent :=
    ⟨(settings.reports .fwUpdateContent).id, (settings.reports .fwUpdateContent).size⟩

/-- {lit}`PopulateReportId` for a report of the settings. -/
def Host.reportId (host : Host D) (devicePath : List Char) (settings : ProtocolSettings)
    (report : FwCfuUpdateReports) : Option UInt8 :=
  host.populateReportId devicePath (settings.reports report).inOutFeature
    (settings.reports report).usage

/-- The calls of {lit}`FwUpdateOfferSrec` in front of the offer. -/
def Host.setup (host : Host D) (devicePath : List Char) (settings : ProtocolSettings) : Setup where
  readEvent := (host.opening devicePath).readEvent
  deviceRead := (host.opening devicePath).deviceRead
  contentId := host.reportId devicePath settings .fwUpdateContent
  contentResponseId := host.reportId devicePath settings .fwUpdateContentResponse
  offerId := host.reportId devicePath settings .fwUpdateOffer
  offerResponseId := host.reportId devicePath settings .fwUpdateOfferResponse
  deviceWrite := (host.opening devicePath).deviceWrite
  readThread := (host.opening devicePath).readThread
  inputReportBuffer := (host.opening devicePath).inputReportBuffer

/-- {lit}`FwUpdateVersionRequest` -/
def fwUpdateVersionRequest (host : Host D) (argv : List (List Char)) : MainResult :=
  match argv with
  | [_, settingsPath] =>
      match readProtocolSettingsFile (host.settingsFile settingsPath) with
      | (false, _) => .exited eFail
      | (true, protocolSettings) =>
          match retrieveDevicesWithVersions host.interfaceList protocolSettings with
          | .error fault => .faulted (.query fault)
          | .ok (hr, _, _) => .exited hr
  | _ => .exited eInvalidArg

/-- {lit}`forceIgnoreVersion` and {lit}`forceReset` behind one more option. -/
def parseOption (flags : UInt8 × UInt8) (option : List Char) : UInt8 × UInt8 :=
  if comparewsi option "forceIgnoreVersion".toList then (1, flags.2)
  else if comparewsi option "forceReset".toList then (flags.1, 1)
  else flags

/-- The loop over the options. -/
def parseOptions (options : List (List Char)) : UInt8 × UInt8 :=
  options.foldl parseOption (0, 0)

/-- The return value for the outcome of the transfer. -/
def mainResultOf : Outcome → MainResult
  | .returned true => .exited sOk
  | .returned false => .exited eFail
  | .faulted fault => .faulted (.transfer fault)
  | .unfinished => .unfinished

/-- {lit}`FwUpdateMain` behind the selection of a device: {lit}`pInterface` is {lit}`none`
for {lit}`NULL`, which cannot be opened. -/
def updateInterface (host : Host D) (waits : ℕ) (protocolSettings : ProtocolSettings)
    (offerPath srecBinPath : List Char) (options : List (List Char))
    (pInterface : Option (List Char)) (d : D) : MainResult × D :=
  match pInterface with
  | none => (.exited eFail, d)
  | some devicePath =>
      let flags := parseOptions options
      let updated := fwUpdateOfferSrec (host.device devicePath)
        (host.setup devicePath protocolSettings) waits protocolSettings.updateReports
        (host.binaryFile offerPath) (host.binaryFile srecBinPath) flags.1 flags.2 d
      (mainResultOf updated.1, updated.2)

/-- {lit}`FwUpdateMain` behind the search. -/
def updateDevices (host : Host D) (rounds waits : ℕ) (protocolSettings : ProtocolSettings)
    (deviceInterfaces : List PathAndVersion) (offerPath srecBinPath : List Char)
    (options : List (List Char)) (d : D) : MainResult × D :=
  match deviceSelect rounds deviceInterfaces host.cin with
  | none => (.unfinished, d)
  | some selected =>
      -- the version of the first entry is read whether there is one or not
      match deviceInterfaces with
      | [] => (.faulted .emptyVector, d)
      | first :: rest =>
          updateInterface host waits protocolSettings offerPath srecBinPath options
            (selected.bind fun i => ((first :: rest)[i]?).map PathAndVersion.devicePath) d

/-- {lit}`FwUpdateMain`, with the arguments behind the name of the program. -/
def fwUpdateMain (host : Host D) (rounds waits : ℕ) (argv : List (List Char)) (d : D) :
    MainResult × D :=
  match argv with
  | _ :: settingsPath :: offerPath :: srecBinPath :: options =>
      match readProtocolSettingsFile (host.settingsFile settingsPath) with
      | (false, _) => (.exited eFail, d)
      | (true, protocolSettings) =>
          match retrieveDevicesWithVersions host.interfaceList protocolSettings with
          | .error fault => (.faulted (.query fault), d)
          | .ok (hr, deviceInterfaces, protocolSettings) =>
              if succeeded hr then
                updateDevices host rounds waits protocolSettings deviceInterfaces offerPath
                  srecBinPath options d
              else (.exited hr, d)
  | _ => (.exited eInvalidArg, d)

/-- {lit}`_tmain`, with the arguments behind the name of the program. -/
def tmain (host : Host D) (rounds waits : ℕ) (argv : List (List Char)) (d : D) : MainResult × D :=
  match argv with
  | [] => (.exited 0, d)
  | command :: _ =>
      -- the return value is {lit}`FALSE` when the library cannot be initialized
      if succeeded host.coInitializeEx then
        if comparewsi command "update".toList then fwUpdateMain host rounds waits argv d
        else if comparewsi command "version".toList then (fwUpdateVersionRequest host argv, d)
        else (.exited 0, d)
      else (.exited 0, d)

end Program

/-! ## The search -/

section Search

variable {interfaces : List HidInterface} {settings settings' : ProtocolSettings}

/-- The walk only appends, and without an entry it leaves the code of a failure. -/
theorem walkInterfaces_nothing {hr hr' : UInt32} {vectorInterfaces last : List PathAndVersion}
    (h : walkInterfaces interfaces hr vectorInterfaces settings = .ok (hr', last, settings')) :
    vectorInterfaces.length ≤ last.length ∧
      (last = [] → interfaces = [] ∧ hr' = hr ∨ succeeded hr' = false) := by
  induction interfaces generalizing hr vectorInterfaces settings with
  | nil =>
      rw [walkInterfaces, Except.ok.injEq, Prod.mk.injEq, Prod.mk.injEq] at h
      rw [h.1, h.2.1]
      exact ⟨Nat.le_refl _, fun _ => Or.inl ⟨rfl, rfl⟩⟩
  | cons i interfaces ih =>
      cases hversion : getVersion i settings with
      | error fault =>
          rw [walkInterfaces, hversion] at h
          simp at h
      | ok result =>
          obtain ⟨hr₁, version, settings₁⟩ := result
          rw [walkInterfaces_ok hversion] at h
          by_cases hsucceeded : succeeded hr₁ = true
          · rw [if_pos hsucceeded] at h
            have hlength := (ih h).1
            rw [List.length_append, List.length_singleton] at hlength
            constructor
            · omega
            · rintro rfl
              simp at hlength
          · rw [if_neg hsucceeded] at h
            obtain ⟨hlength, hcode⟩ := ih h
            refine ⟨hlength, fun hnil => Or.inr ?_⟩
            rcases hcode hnil with ⟨_, rfl⟩ | hfailed
            · simpa using hsucceeded
            · exact hfailed

/-- The search succeeds without a device exactly when the list has no interface. -/
theorem retrieved_nothing_iff (list : InterfaceList) (settings : ProtocolSettings) :
    (∃ hr settings', retrieveDevicesWithVersions list settings = .ok (hr, [], settings') ∧
      succeeded hr = true) ↔ list = .retrieved [] := by
  constructor
  · rintro ⟨hr, settings', hsearch, hsucceeded⟩
    by_cases hretrieved : ∃ interfaces, list = .retrieved interfaces
    · obtain ⟨interfaces, rfl⟩ := hretrieved
      cases hwalk : walkInterfaces interfaces sOk [] settings with
      | error fault =>
          rw [retrieveDevicesWithVersions, hwalk] at hsearch
          simp at hsearch
      | ok result =>
          obtain ⟨hr₁, devices, settings₁⟩ := result
          rw [retrieveDevicesWithVersions_ok hwalk, Except.ok.injEq, Prod.mk.injEq,
            Prod.mk.injEq] at hsearch
          obtain ⟨hcode, hnil, _⟩ := hsearch
          rw [hnil, List.isEmpty_nil, if_pos rfl] at hcode
          rcases (walkInterfaces_nothing hwalk).2 hnil with ⟨rfl, _⟩ | hfailed
          · rfl
          · rw [hcode, hsucceeded] at hfailed
            simp at hfailed
    · obtain ⟨hr₁, hfail, hfailed⟩ := retrieveDevicesWithVersions_not_retrieved
        (fun interfaces h => hretrieved ⟨interfaces, h⟩) settings
      rw [hfail, Except.ok.injEq, Prod.mk.injEq] at hsearch
      rw [hsearch.1, hsucceeded] at hfailed
      simp at hfailed
  · rintro rfl
    exact ⟨sOk, settings, rfl, by decide⟩

/-- A query changes no report but that of the version. -/
theorem reports_of_getVersion {i : HidInterface} {hr : UInt32} {version : VersionReport}
    (h : getVersion i settings = .ok (hr, version, settings')) {report : FwCfuUpdateReports}
    (hreport : report ≠ .fwUpdateVersion) :
    settings'.reports report = settings.reports report := by
  have hjudge : ∀ {settings : ProtocolSettings}
      {answer : Except QueryFault (Option (List UInt8 × ℕ))},
      judgeFeatureReport settings answer = .ok (hr, version, settings') →
        settings' = settings := by
    intro settings answer hanswer
    unfold judgeFeatureReport at hanswer
    split at hanswer
    · simp at hanswer
    · simp only [Except.ok.injEq, Prod.mk.injEq] at hanswer
      exact hanswer.2.2.symm
    · split at hanswer
      · simp only [Except.ok.injEq, Prod.mk.injEq] at hanswer
        exact hanswer.2.2.symm
      · simp only [Except.ok.injEq, Prod.mk.injEq] at hanswer
        exact hanswer.2.2.symm
  have hsame : ∀ {hr₁ : UInt32} {version₁ : VersionReport},
      (Except.ok (hr₁, version₁, settings) : Except QueryFault _) =
          .ok (hr, version, settings') →
        settings'.reports report = settings.reports report := by
    intro hr₁ version₁ hkept
    rw [Except.ok.injEq, Prod.mk.injEq, Prod.mk.injEq] at hkept
    rw [hkept.2.2]
  unfold getVersion at h
  split at h
  · split at h
    · exact hsame h
    · split at h
      · exact hsame h
      · unfold getOpenedVersion at h
        split at h
        · split at h
          · split at h
            · split at h
              · exact hsame h
              · rw [hjudge h]
                simp [ProtocolSettings.setReportId, Function.update_of_ne hreport]
            · exact hsame h
          · exact hsame h
        · exact hsame h
  · exact hsame h

/-- The walk changes no report but that of the version. -/
theorem reports_of_walkInterfaces {hr hr' : UInt32}
    {vectorInterfaces last : List PathAndVersion}
    (h : walkInterfaces interfaces hr vectorInterfaces settings = .ok (hr', last, settings'))
    {report : FwCfuUpdateReports} (hreport : report ≠ .fwUpdateVersion) :
    settings'.reports report = settings.reports report := by
  induction interfaces generalizing hr vectorInterfaces settings with
  | nil =>
      rw [walkInterfaces, Except.ok.injEq, Prod.mk.injEq, Prod.mk.injEq] at h
      rw [h.2.2]
  | cons i interfaces ih =>
      cases hversion : getVersion i settings with
      | error fault =>
          rw [walkInterfaces, hversion] at h
          simp at h
      | ok result =>
          obtain ⟨hr₁, version, settings₁⟩ := result
          rw [walkInterfaces_ok hversion] at h
          rw [← reports_of_getVersion hversion hreport]
          split at h
          · exact ih h
          · exact ih h

end Search

/-! ## The options -/

section Options

/-- No option sets both flags. -/
theorem not_both_options {option : List Char}
    (h : comparewsi option "forceIgnoreVersion".toList = true) :
    comparewsi option "forceReset".toList = false := by
  unfold comparewsi at h ⊢
  rw [decide_eq_true_eq] at h
  rw [h]
  decide

/-- A flag is set when some option names it, in any order and in any case. -/
theorem parseOptions_eq (options : List (List Char)) :
    parseOptions options =
      (if options.any fun option => comparewsi option "forceIgnoreVersion".toList then 1 else 0,
        if options.any fun option => comparewsi option "forceReset".toList then 1 else 0) := by
  have hloop : ∀ flags : UInt8 × UInt8, options.foldl parseOption flags =
      (if options.any fun option => comparewsi option "forceIgnoreVersion".toList then 1
          else flags.1,
        if options.any fun option => comparewsi option "forceReset".toList then 1
          else flags.2) := by
    induction options with
    | nil => simp
    | cons option options ih =>
        intro flags
        rw [List.foldl_cons, ih, parseOption, List.any_cons, List.any_cons]
        cases hignore : comparewsi option "forceIgnoreVersion".toList with
        | true =>
            rw [not_both_options hignore, if_pos rfl, Bool.true_or, Bool.false_or, if_pos rfl,
              ite_self]
        | false =>
            rw [if_neg Bool.false_ne_true, Bool.false_or]
            cases hreset : comparewsi option "forceReset".toList with
            | true => rw [if_pos rfl, Bool.true_or, if_pos rfl, ite_self]
            | false => rw [if_neg Bool.false_ne_true, Bool.false_or]
  exact hloop (0, 0)

end Options

/-! ## Runs -/

section Runs

variable {D : Type} (host : Host D) (rounds waits : ℕ)

theorem mainResultOf_ne_emptyVector (outcome : Outcome) :
    mainResultOf outcome ≠ .faulted .emptyVector := by
  cases outcome with
  | returned ret => cases ret <;> simp [mainResultOf]
  | faulted fault => simp [mainResultOf]
  | unfinished => simp [mainResultOf]

theorem updateInterface_ne_emptyVector (protocolSettings : ProtocolSettings)
    (offerPath srecBinPath : List Char) (options : List (List Char))
    (pInterface : Option (List Char)) (d : D) :
    (updateInterface host waits protocolSettings offerPath srecBinPath options pInterface d).1 ≠
      .faulted .emptyVector := by
  cases pInterface with
  | none => simp [updateInterface]
  | some devicePath => exact mainResultOf_ne_emptyVector _

theorem updateDevices_emptyVector_iff (protocolSettings : ProtocolSettings)
    (deviceInterfaces : List PathAndVersion) (offerPath srecBinPath : List Char)
    (options : List (List Char)) (d : D) :
    (updateDevices host rounds waits protocolSettings deviceInterfaces offerPath srecBinPath
      options d).1 = .faulted .emptyVector ↔ deviceInterfaces = [] := by
  unfold updateDevices
  constructor
  · intro h
    split at h
    · simp at h
    · split at h
      · rfl
      · exact absurd h (updateInterface_ne_emptyVector _ _ _ _ _ _ _ _)
  · rintro rfl
    rfl

/-- When an update reads the version of a device that was not found. -/
theorem fwUpdateMain_emptyVector_iff (argv : List (List Char)) (d : D) :
    (fwUpdateMain host rounds waits argv d).1 = .faulted .emptyVector ↔
      host.interfaceList = .retrieved [] ∧
        ∃ command settingsPath offerPath srecBinPath options,
          argv = command :: settingsPath :: offerPath :: srecBinPath :: options ∧
            (host.settingsFile settingsPath).isSome = true := by
  unfold fwUpdateMain
  split
  · next command settingsPath offerPath srecBinPath options =>
      cases hfile : host.settingsFile settingsPath with
      | none => simp [readProtocolSettingsFile, hfile]
      | some text =>
          simp only [readProtocolSettingsFile]
          generalize readLines (.ofText text) .zero = settings
          have hnothing := retrieved_nothing_iff host.interfaceList settings
          have hargv : ∃ command' settingsPath' offerPath' srecBinPath' options',
              command :: settingsPath :: offerPath :: srecBinPath :: options =
                  command' :: settingsPath' :: offerPath' :: srecBinPath' :: options' ∧
                (host.settingsFile settingsPath').isSome = true :=
            ⟨_, _, _, _, _, rfl, by rw [hfile]; rfl⟩
          rw [and_iff_left hargv, ← hnothing]
          cases hsearch : retrieveDevicesWithVersions host.interfaceList settings with
          | error fault => simp
          | ok result =>
              obtain ⟨hr, deviceInterfaces, settings'⟩ := result
              dsimp only
              by_cases hsucceeded : succeeded hr = true
              · rw [if_pos hsucceeded, updateDevices_emptyVector_iff]
                constructor
                · rintro rfl
                  exact ⟨hr, settings', rfl, hsucceeded⟩
                · rintro ⟨hr', settings'', heq, _⟩
                  rw [Except.ok.injEq, Prod.mk.injEq, Prod.mk.injEq] at heq
                  exact heq.2.1
              · rw [if_neg hsucceeded]
                constructor
                · intro h
                  simp at h
                · rintro ⟨hr', settings'', heq, hsucceeded'⟩
                  rw [Except.ok.injEq, Prod.mk.injEq] at heq
                  rw [heq.1] at hsucceeded
                  exact absurd hsucceeded' hsucceeded
  · next hargv =>
      constructor
      · intro h
        simp at h
      · rintro ⟨_, command, settingsPath, offerPath, srecBinPath, options, rfl, _⟩
        exact absurd rfl (hargv _ _ _ _ _)

theorem fwUpdateVersionRequest_ne_emptyVector (argv : List (List Char)) :
    fwUpdateVersionRequest host argv ≠ .faulted .emptyVector := by
  unfold fwUpdateVersionRequest
  split
  · split
    · simp
    · split
      · simp
      · simp
  · simp

theorem tmain_update {command : List Char} {rest : List (List Char)}
    (hinitialized : succeeded host.coInitializeEx = true)
    (hupdate : comparewsi command "update".toList = true) (d : D) :
    tmain host rounds waits (command :: rest) d =
      fwUpdateMain host rounds waits (command :: rest) d := by
  rw [tmain, if_pos hinitialized, if_pos hupdate]

/-- An update that finds its device is the transfer to the one that was chosen. -/
theorem fwUpdateMain_of_selected {command settingsPath offerPath srecBinPath : List Char}
    {options : List (List Char)} {protocolSettings settings : ProtocolSettings}
    (hread : readProtocolSettingsFile (host.settingsFile settingsPath) = (true, protocolSettings))
    {hr : UInt32} {deviceInterfaces : List PathAndVersion}
    (hsearch : retrieveDevicesWithVersions host.interfaceList protocolSettings =
      .ok (hr, deviceInterfaces, settings)) (hsucceeded : succeeded hr = true)
    {i : ℕ} (hselect : deviceSelect rounds deviceInterfaces host.cin = some (some i))
    {chosen : PathAndVersion} (hchosen : deviceInterfaces[i]? = some chosen) (d : D) :
    fwUpdateMain host rounds waits (command :: settingsPath :: offerPath :: srecBinPath :: options)
        d =
      updateInterface host waits settings offerPath srecBinPath options
        (some chosen.devicePath) d := by
  cases deviceInterfaces with
  | nil => simp at hchosen
  | cons first rest =>
      simp only [fwUpdateMain, hread, hsearch, hsucceeded, if_true, updateDevices, hselect,
        Option.bind_some, hchosen, Option.map_some]

/-- A selection among devices is one of them. -/
theorem deviceSelect_chosen {deviceInterfaces : List PathAndVersion} (hne : deviceInterfaces ≠ [])
    {selected : Option ℕ}
    (hselect : deviceSelect rounds deviceInterfaces host.cin = some selected) :
    ∃ i chosen, selected = some i ∧ deviceInterfaces[i]? = some chosen := by
  have hpos : 0 < deviceInterfaces.length := List.length_pos_iff.2 hne
  unfold deviceSelect at hselect
  rw [if_neg (Nat.ne_of_gt hpos)] at hselect
  split at hselect
  · rw [Option.some.injEq] at hselect
    exact ⟨0, _, hselect.symm, List.getElem?_eq_getElem hpos⟩
  · rw [Option.map_eq_some_iff] at hselect
    obtain ⟨selection, hloop, hselection⟩ := hselect
    have hrange : 0 ≤ selection ∧ selection < deviceInterfaces.length ∧ selection ≤ intMax := by
      cases hcin : host.cin.good with
      | true =>
          rw [eq_ofText hcin] at hloop
          exact chosen_range hpos (selectLoop_returns hpos hloop)
      | false =>
          rw [selectLoop_spins hcin hpos] at hloop
          simp at hloop
    have hindex := toSize_of_nonneg hrange.1 hrange.2.2
    have hlt : toSize selection < deviceInterfaces.length := by omega
    exact ⟨toSize selection, _, hselection.symm, List.getElem?_eq_getElem hlt⟩

/-- The tool reads the first entry of an empty vector exactly when an update with its
arguments and its settings file meets a list without an interface: in every other case
without a device the code of the search is that of a failure. -/
theorem tmain_emptyVector_iff (argv : List (List Char)) (d : D) :
    (tmain host rounds waits argv d).1 = .faulted .emptyVector ↔
      succeeded host.coInitializeEx = true ∧ host.interfaceList = .retrieved [] ∧
        ∃ command settingsPath offerPath srecBinPath options,
          argv = command :: settingsPath :: offerPath :: srecBinPath :: options ∧
            comparewsi command "update".toList = true ∧
            (host.settingsFile settingsPath).isSome = true := by
  constructor
  · intro h
    cases argv with
    | nil => simp [tmain] at h
    | cons command rest =>
        by_cases hinitialized : succeeded host.coInitializeEx = true
        · by_cases hupdate : comparewsi command "update".toList = true
          · rw [tmain_update host rounds waits hinitialized hupdate,
              fwUpdateMain_emptyVector_iff] at h
            obtain ⟨hlist, command', settingsPath, offerPath, srecBinPath, options, hargv,
              hfile⟩ := h
            rw [List.cons.injEq] at hargv
            refine ⟨hinitialized, hlist, command, settingsPath, offerPath, srecBinPath, options,
              ?_, hupdate, hfile⟩
            rw [hargv.2]
          · rw [tmain, if_pos hinitialized, if_neg hupdate] at h
            split at h
            · exact absurd h (fwUpdateVersionRequest_ne_emptyVector host _)
            · simp at h
        · rw [tmain, if_neg hinitialized] at h
          simp at h
  · rintro ⟨hinitialized, hlist, command, settingsPath, offerPath, srecBinPath, options, rfl,
      hupdate, hfile⟩
    rw [tmain_update host rounds waits hinitialized hupdate, fwUpdateMain_emptyVector_iff]
    exact ⟨hlist, command, settingsPath, offerPath, srecBinPath, options, rfl, hfile⟩

end Runs

end Tool
end CFU
