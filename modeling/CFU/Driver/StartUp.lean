import CFU.Driver.Registry

/-!
# CFU driver - from the registry to the modules

When its device is added, the driver reads its configuration and the names of the
firmware files from the registry, and instantiates the modules that do the updates.
They ask it for the files by their indexes in the collection.

Main results:

- Theorem {lit}`enumerateAll_iff`: when the registry yields a configuration and firmware.
- Theorem {lit}`deviceModulesAdd_iff`: when the modules are added, and with which values.
- Theorem {lit}`modules_serve_files`: the modules that are added get the files that the
  registry names, each under the index of its subkey.
-/

namespace CFU
namespace Driver

open ResultCode EventRuns

variable {Name : Type}

/-! ## The configuration -/

section Configuration

/-- {lit}`HID_TRANSPORT_PROTOCOL` -/
inductive HidTransportProtocol where
  | invalid
  | usb
  | btle
  | maximum
deriving DecidableEq, Repr

/-- The cast of an {lit}`ULONG`. -/
def HidTransportProtocol.ofULong (protocol : UInt32) : HidTransportProtocol :=
  if protocol = 0 then invalid
  else if protocol = 1 then usb
  else if protocol = 2 then btle
  else maximum

/-- What {lit}`WdfRegistryQueryULong` returns and stores. -/
structure ULongQuery where
  status : UInt32
  value : UInt32
deriving DecidableEq, Repr

/-- The value, or the default when it cannot be read. -/
def ULongQuery.valueOr (query : ULongQuery) (default : UInt32) : UInt32 :=
  if ntSuccess query.status then query.value else default

/-- The queries of {lit}`Registry_DeviceConfigurationGet`. -/
structure ConfigurationQueries where
  numberOfInputReports : ULongQuery
  supportResumeOnConnect : ULongQuery
  supportProtocolSkipOptimization : ULongQuery
  protocol : ULongQuery
deriving DecidableEq, Repr

def numberOfInputReportReadSimultaneouslyDefault : UInt32 := 2
def enableResumeOnConnectFeatureDefault : UInt32 := 0
def enableProtocolTransactionSkipOptimizationFeatureDefault : UInt32 := 0

/-- {lit}`HID_TRANSPORT_PROTOCOL_DEFAULT` is {lit}`HID_TRANSPORT_PROTOCOL_USB`. -/
def hidTransportProtocolDefault : UInt32 := 1

/-- {lit}`STATUS_INVALID_PARAMETER` -/
def statusInvalidParameter : UInt32 := 0xC000000D

/-- {lit}`CFU_HID_TRANSPORT_CONIGURATION` and {lit}`CFU_PROTOCOL_CONIGURATION` -/
structure DeviceConfiguration where
  protocol : HidTransportProtocol
  numberOfInputReportReadsPended : UInt32
  supportResumeOnConnect : Bool
  supportProtocolTransactionSkipOptimization : Bool
deriving DecidableEq, Repr

/-- The configuration of a context that was just created. -/
def DeviceConfiguration.zero : DeviceConfiguration where
  protocol := .invalid
  numberOfInputReportReadsPended := 0
  supportResumeOnConnect := false
  supportProtocolTransactionSkipOptimization := false

/-- The configuration that the values of the registry and the defaults make. -/
def ConfigurationQueries.configuration (q : ConfigurationQueries) : DeviceConfiguration where
  protocol := .ofULong (q.protocol.valueOr hidTransportProtocolDefault)
  numberOfInputReportReadsPended :=
    q.numberOfInputReports.valueOr numberOfInputReportReadSimultaneouslyDefault
  supportResumeOnConnect :=
    decide (0 < q.supportResumeOnConnect.valueOr enableResumeOnConnectFeatureDefault)
  supportProtocolTransactionSkipOptimization :=
    decide (0 < q.supportProtocolSkipOptimization.valueOr
      enableProtocolTransactionSkipOptimizationFeatureDefault)

/-- {lit}`Registry_DeviceConfigurationGet`: the status, and the configuration behind it.
The status of the last query is left when it succeeds. -/
def registryDeviceConfigurationGet (q : ConfigurationQueries)
    (configuration : DeviceConfiguration) : UInt32 × DeviceConfiguration :=
  let protocol := q.protocol.valueOr hidTransportProtocolDefault
  if decide (protocol ≤ 0) || decide (3 ≤ protocol) then (statusInvalidParameter, configuration)
  else
    (if ntSuccess q.protocol.status then q.protocol.status else statusSuccess, q.configuration)

/-- The protocol can be used: none is named, or one of the two. -/
def ConfigurationQueries.Usable (q : ConfigurationQueries) : Prop :=
  ntSuccess q.protocol.status = true → q.protocol.value = 1 ∨ q.protocol.value = 2

theorem registryDeviceConfigurationGet_of_usable {q : ConfigurationQueries} (h : q.Usable)
    (configuration : DeviceConfiguration) :
    ntSuccess (registryDeviceConfigurationGet q configuration).1 = true ∧
      (registryDeviceConfigurationGet q configuration).2 = q.configuration ∧
      (q.configuration.protocol = .usb ∨ q.configuration.protocol = .btle) := by
  unfold registryDeviceConfigurationGet ConfigurationQueries.configuration ULongQuery.valueOr
  by_cases hstatus : ntSuccess q.protocol.status = true
  · rcases h hstatus with hvalue | hvalue
    · simp [hstatus, hvalue, HidTransportProtocol.ofULong]
    · simp [hstatus, hvalue, HidTransportProtocol.ofULong]
  · have hzero : ntSuccess statusSuccess = true := by decide
    simp [hstatus, hidTransportProtocolDefault, HidTransportProtocol.ofULong, hzero]

theorem registryDeviceConfigurationGet_of_not_usable {q : ConfigurationQueries}
    (h : ¬ q.Usable) (configuration : DeviceConfiguration) :
    registryDeviceConfigurationGet q configuration =
      (statusInvalidParameter, configuration) := by
  unfold ConfigurationQueries.Usable at h
  rw [Classical.not_imp, not_or] at h
  obtain ⟨hstatus, hone, htwo⟩ := h
  have hrange : q.protocol.value ≤ 0 ∨ 3 ≤ q.protocol.value := by
    rw [UInt32.le_iff_toNat_le, UInt32.le_iff_toNat_le]
    rw [← UInt32.toNat_inj] at hone htwo
    have h0 : (0 : UInt32).toNat = 0 := rfl
    have h1 : (1 : UInt32).toNat = 1 := rfl
    have h2 : (2 : UInt32).toNat = 2 := rfl
    have h3 : (3 : UInt32).toNat = 3 := rfl
    omega
  unfold registryDeviceConfigurationGet ULongQuery.valueOr
  rw [if_pos hstatus]
  dsimp only
  rcases hrange with hlow | hhigh
  · rw [decide_eq_true hlow, Bool.true_or, if_pos rfl]
  · rw [decide_eq_true hhigh, Bool.or_true, if_pos rfl]

end Configuration

/-! ## The registry -/

section Enumeration

/-- The outcomes of the calls when the device is added. -/
structure StartOutcomes (Name : Type) where
  device : Bool
  openDeviceKey : UInt32
  queries : ConfigurationQueries
  openRootKey : UInt32
  registry : RegistryOutcomes (FirmwareKey Name)

/-- {lit}`DEVICE_CONTEXT`, without the handles of the modules. -/
structure DeviceContext (Name : Type) where
  configuration : DeviceConfiguration
  firmwareBlobCollection : List (DriverFirmwareInformation Name)

/-- The context behind {lit}`WdfCollectionCreate`. -/
def DeviceContext.created : DeviceContext Name where
  configuration := .zero
  firmwareBlobCollection := []

/-- {lit}`Registry_DeviceRegistryEnumerateAllFirwareSubKeys`: the status, and the context
behind it. -/
def registryDeviceRegistryEnumerateAllFirwareSubKeys (o : StartOutcomes Name)
    (deviceContext : DeviceContext Name) : UInt32 × DeviceContext Name :=
  if o.device then
    if ntSuccess o.openDeviceKey then
      let configured := registryDeviceConfigurationGet o.queries deviceContext.configuration
      let deviceContext := { deviceContext with configuration := configured.2 }
      if ntSuccess configured.1 then
        if ntSuccess o.openRootKey then
          let enumerated := registrySubKeysFromHandleEnumerate registryFirmwareInformationEnumerate
            o.registry deviceContext.firmwareBlobCollection
          (enumerated.ntStatus,
            { deviceContext with firmwareBlobCollection := enumerated.context })
        else (o.openRootKey, deviceContext)
      else (configured.1, deviceContext)
    else (o.openDeviceKey, deviceContext)
  else (statusInvalidParameter, deviceContext)

/-- The keys of the subkeys that were read and stored, in the order of the enumeration. -/
def StartOutcomes.storedKeys (o : StartOutcomes Name) : List (FirmwareKey Name) :=
  (o.registry.subKeys.map SubKeyOutcome.firmwareInformationSubkey).filter FirmwareKey.isStored

/-- The entries of the stored keys. -/
theorem filterMap_entry (o : StartOutcomes Name) :
    (o.registry.subKeys.filterMap fun subKey => subKey.firmwareInformationSubkey.entry) =
      o.storedKeys.map FirmwareKey.firmwareInformation := by
  unfold StartOutcomes.storedKeys
  induction o.registry.subKeys with
  | nil => rfl
  | cons subKey rest ih =>
      rw [List.map_cons]
      by_cases hstored : subKey.firmwareInformationSubkey.isStored = true
      · have hentry : subKey.firmwareInformationSubkey.entry =
            some subKey.firmwareInformationSubkey.firmwareInformation := if_pos hstored
        simp only [List.filterMap_cons, hentry, List.filter_cons_of_pos hstored, List.map_cons, ih]
      · have hentry : subKey.firmwareInformationSubkey.entry = none := if_neg hstored
        simp only [List.filterMap_cons, hentry, List.filter_cons_of_neg hstored, ih]

/-- The registry can be read up to the last subkey. -/
structure StartOutcomes.Readable (o : StartOutcomes Name) : Prop where
  device : o.device = true
  openDeviceKey : ntSuccess o.openDeviceKey = true
  usable : o.queries.Usable
  openRootKey : ntSuccess o.openRootKey = true
  memoryCreate : o.registry.subKeys ≠ [] → ntSuccess o.registry.memoryCreate = true
  opens : ∀ subKey ∈ o.registry.subKeys, subKey.opens = true

/-- The context behind a registry that can be read. -/
theorem enumerateAll_of_readable {o : StartOutcomes Name} (h : o.Readable) :
    ntSuccess (registryDeviceRegistryEnumerateAllFirwareSubKeys o .created).1 = true ∧
      (registryDeviceRegistryEnumerateAllFirwareSubKeys o .created).2 =
        { configuration := o.queries.configuration
          firmwareBlobCollection := o.storedKeys.map FirmwareKey.firmwareInformation } := by
  obtain ⟨hstatus, hconfiguration, -⟩ :=
    registryDeviceConfigurationGet_of_usable h.usable DeviceConfiguration.zero
  have hrun : registryDeviceRegistryEnumerateAllFirwareSubKeys o .created =
      ((registrySubKeysFromHandleEnumerate registryFirmwareInformationEnumerate o.registry
          []).ntStatus,
        { configuration := o.queries.configuration
          firmwareBlobCollection := (registrySubKeysFromHandleEnumerate
            registryFirmwareInformationEnumerate o.registry []).context }) := by
    simp [registryDeviceRegistryEnumerateAllFirwareSubKeys, DeviceContext.created, h.device,
      h.openDeviceKey, hstatus, hconfiguration, h.openRootKey]
  rw [hrun]
  by_cases hnil : o.registry.subKeys = []
  · rw [enumerate_noSubKeys [] hnil]
    have hstored : o.storedKeys = [] := by simp [StartOutcomes.storedKeys, hnil]
    rw [hstored]
    exact ⟨ntSuccess_win32Error _, rfl⟩
  · have hmemory := h.memoryCreate hnil
    rw [enumerate_loop [] hnil hmemory]
    constructor
    · show ntSuccess (subKeysLoop _ _ _ _).ntStatus = true
      rw [← Bool.not_eq_false, subKeysLoop_failed_iff hmemory]
      rintro ⟨subKey, hmem, hclosed⟩
      rw [h.opens subKey hmem] at hclosed
      simp at hclosed
    · have hcollection := subKeysLoop_collection h.opens o.registry.memoryCreate []
      rw [List.nil_append, filterMap_entry] at hcollection
      rw [← hcollection]
      rfl

/-- The enumeration returns a status of success exactly when the registry can be read. -/
theorem enumerateAll_iff (o : StartOutcomes Name) :
    ntSuccess (registryDeviceRegistryEnumerateAllFirwareSubKeys o .created).1 = true ↔
      o.Readable := by
  constructor
  · intro h
    unfold registryDeviceRegistryEnumerateAllFirwareSubKeys at h
    have hinvalid : ntSuccess statusInvalidParameter = false := by decide
    by_cases hdevice : o.device = true
    swap
    · simp [hdevice, hinvalid] at h
    by_cases hopen : ntSuccess o.openDeviceKey = true
    swap
    · simp [hdevice, hopen] at h
    by_cases husable : o.queries.Usable
    swap
    · simp [hdevice, hopen, registryDeviceConfigurationGet_of_not_usable husable, hinvalid] at h
    have hstatus := (registryDeviceConfigurationGet_of_usable husable
      (DeviceContext.created : DeviceContext Name).configuration).1
    by_cases hroot : ntSuccess o.openRootKey = true
    swap
    · simp [hdevice, hopen, hstatus, hroot] at h
    simp only [hdevice, hopen, hstatus, hroot, if_true] at h
    refine ⟨hdevice, hopen, husable, hroot, ?_, ?_⟩
    · intro hne
      by_contra hmemory
      rw [enumerate_noMemory _ hne (Bool.eq_false_iff.2 hmemory)] at h
      exact hmemory h
    · intro subKey hmem
      have hne : o.registry.subKeys ≠ [] := List.ne_nil_of_mem hmem
      by_contra hclosed
      by_cases hmemory : ntSuccess o.registry.memoryCreate = true
      · rw [enumerate_loop _ hne hmemory] at h
        have hfailed : ntSuccess (subKeysLoop registryFirmwareInformationEnumerate
            o.registry.subKeys o.registry.memoryCreate []).ntStatus = false :=
          (subKeysLoop_failed_iff hmemory []).2 ⟨subKey, hmem, Bool.eq_false_iff.2 hclosed⟩
        exact absurd (h.symm.trans hfailed) (by decide)
      · rw [enumerate_noMemory _ hne (Bool.eq_false_iff.2 hmemory)] at h
        exact hmemory h
  · intro h
    exact (enumerateAll_of_readable h).1

end Enumeration

/-! ## The modules -/

section Modules

/-- {lit}`DMF_CONFIG_ComponentFirmwareUpdate` and
{lit}`DMF_CONFIG_ComponentFirmwareUpdateHidTransport`, without the callbacks. -/
structure ModulesConfig where
  supportResumeOnConnect : Bool
  supportProtocolTransactionSkipOptimization : Bool
  numberOfFirmwareComponents : ℕ
  protocol : HidTransportProtocol
  numberOfInputReportReadsPended : UInt32
  payloadFillAlignment : UInt32
deriving DecidableEq, Repr

/-- The configuration of the modules for a context. -/
def DeviceContext.modulesConfig (deviceContext : DeviceContext Name) : ModulesConfig where
  supportResumeOnConnect := deviceContext.configuration.supportResumeOnConnect
  supportProtocolTransactionSkipOptimization :=
    deviceContext.configuration.supportProtocolTransactionSkipOptimization
  numberOfFirmwareComponents := deviceContext.firmwareBlobCollection.length
  protocol := deviceContext.configuration.protocol
  numberOfInputReportReadsPended := deviceContext.configuration.numberOfInputReportReadsPended
  payloadFillAlignment := 1

/-- {lit}`ComponentFirmwareUpdateDeviceModulesAdd`: the configuration of the modules when
they are added, and the context behind it. -/
def componentFirmwareUpdateDeviceModulesAdd (o : StartOutcomes Name)
    (deviceContext : DeviceContext Name) : Option ModulesConfig × DeviceContext Name :=
  let enumerated := registryDeviceRegistryEnumerateAllFirwareSubKeys o deviceContext
  if ntSuccess enumerated.1 then
    if enumerated.2.firmwareBlobCollection.length = 0 then (none, enumerated.2)
    else (some enumerated.2.modulesConfig, enumerated.2)
  else (none, enumerated.2)

/-- The values of the modules for a registry that can be read. -/
def StartOutcomes.modulesConfig (o : StartOutcomes Name) : ModulesConfig where
  supportResumeOnConnect := o.queries.configuration.supportResumeOnConnect
  supportProtocolTransactionSkipOptimization :=
    o.queries.configuration.supportProtocolTransactionSkipOptimization
  numberOfFirmwareComponents := o.storedKeys.length
  protocol := o.queries.configuration.protocol
  numberOfInputReportReadsPended := o.queries.configuration.numberOfInputReportReadsPended
  payloadFillAlignment := 1

/-- The context behind a registry that can be read holds the stored subkeys. -/
theorem collection_of_readable {o : StartOutcomes Name} (h : o.Readable) :
    (componentFirmwareUpdateDeviceModulesAdd o .created).2.firmwareBlobCollection =
      o.storedKeys.map FirmwareKey.firmwareInformation := by
  obtain ⟨hstatus, hcontext⟩ := enumerateAll_of_readable h
  unfold componentFirmwareUpdateDeviceModulesAdd
  rw [if_pos hstatus, hcontext]
  split
  · rfl
  · rfl

/-- When and with which values the modules are added. -/
theorem deviceModulesAdd_iff (o : StartOutcomes Name) (config : ModulesConfig) :
    (componentFirmwareUpdateDeviceModulesAdd o .created).1 = some config ↔
      o.Readable ∧ o.storedKeys ≠ [] ∧ config = o.modulesConfig := by
  unfold componentFirmwareUpdateDeviceModulesAdd
  by_cases hreadable : o.Readable
  · obtain ⟨hstatus, hcontext⟩ := enumerateAll_of_readable hreadable
    rw [if_pos hstatus, hcontext]
    by_cases hstored : o.storedKeys = []
    · simp [hstored]
    · have hlength : o.storedKeys.length ≠ 0 := by simpa using hstored
      simp only [List.length_map, hlength, if_false, Option.some.injEq]
      constructor
      · intro hconfig
        refine ⟨hreadable, hstored, ?_⟩
        rw [← hconfig]
        simp [DeviceContext.modulesConfig, StartOutcomes.modulesConfig]
      · rintro ⟨-, -, rfl⟩
        simp [DeviceContext.modulesConfig, StartOutcomes.modulesConfig]
  · have hstatus : ¬ ntSuccess
        (registryDeviceRegistryEnumerateAllFirwareSubKeys o .created).1 = true := by
      rw [enumerateAll_iff]
      exact hreadable
    simp [hstatus, hreadable]

end Modules

/-! ## The files -/

section Files

/-- The names of the files of an entry. -/
def DriverFirmwareInformation.names (firmwareInformation : DriverFirmwareInformation Name) :
    Name × Name :=
  (firmwareInformation.offerFileName, firmwareInformation.payloadFileName)

/-- The file name that the key of a subkey has for a side. -/
def FirmwareKey.fileName (key : FirmwareKey Name) (side : Side) : Name :=
  key.firmwareInformation.fileName side

/-- Nothing is cached in a collection from the registry. -/
theorem get_storedKeys (keys : List (FirmwareKey Name)) :
    (keys.map FirmwareKey.firmwareInformation).get =
      Driver.firmwareBlobCollection fun i =>
        ((keys.map FirmwareKey.firmwareInformation).get i).names := by
  funext i
  simp [Driver.firmwareBlobCollection, DriverFirmwareInformation.names,
    FirmwareKey.firmwareInformation]

/-- The calls for a collection from the registry get whole files. -/
theorem stored_files_served {keys : List (FirmwareKey Name)} (files : Name → List UInt8)
    (calls : List (GetCall (keys.map FirmwareKey.firmwareInformation).length))
    (hreads : ∀ call ∈ calls, ∀ key, keys[call.firmwarePairIndex.val]? = some key →
      ReadsFile (files (key.fileName call.side)) call.ops)
    (hwhole : ∀ t ∈ trace step (keys.map FirmwareKey.firmwareInformation).get calls,
      ¬ FailsHalfWay t.before t.event) :
    ∀ t ∈ trace step (keys.map FirmwareKey.firmwareInformation).get calls,
      ∀ buffer, t.output = .success buffer →
        ∃ key, keys[t.event.firmwarePairIndex.val]? = some key ∧
          buffer = files (key.fileName t.event.side) := by
  have hkey : ∀ call : GetCall (keys.map FirmwareKey.firmwareInformation).length,
      ∃ key, keys[call.firmwarePairIndex.val]? = some key ∧
        calledFile files (fun i => ((keys.map FirmwareKey.firmwareInformation).get i).names)
            call =
          files (key.fileName call.side) := by
    intro call
    have hlt : call.firmwarePairIndex.val < keys.length := by
      simpa using call.firmwarePairIndex.isLt
    refine ⟨keys[call.firmwarePairIndex.val], List.getElem?_eq_getElem hlt, ?_⟩
    unfold calledFile
    rw [← get_storedKeys]
    simp [FirmwareKey.fileName]
  have hfiles : ∀ call ∈ calls, ReadsFile (calledFile files
      (fun i => ((keys.map FirmwareKey.firmwareInformation).get i).names) call) call.ops := by
    intro call hcall
    obtain ⟨key, hget, hfile⟩ := hkey call
    rw [hfile]
    exact hreads call hcall key hget
  rw [get_storedKeys] at hwhole ⊢
  have hcaches := forall_trace_of_guarded
    (CachesFiles files fun i => ((keys.map FirmwareKey.firmwareInformation).get i).names)
    (fun t => ¬ FailsHalfWay t.before t.event) hwhole (cachesFiles_empty files _)
    fun collection call collection' hcall hguard hbefore hafter =>
      (step_faithful hbefore (hfiles call hcall) hguard).2 collection' hafter
  intro t ht buffer hsuccess
  have hstep := eq_transition_of_mem_trace ht
  have hcall := event_mem_of_mem_trace ht
  obtain ⟨key, hget, hfile⟩ := hkey t.event
  refine ⟨key, hget, ?_⟩
  have hfaithful := (step_faithful (hcaches t ht).1 (hfiles t.event hcall) (hwhole t ht)).1
  rw [hstep] at hsuccess
  rw [← hfile]
  exact hfaithful.success buffer hsuccess

/-- The modules are added exactly when the registry can be read up to its last subkey and
some subkey was stored.  They count the stored subkeys, and their protocol is valid.  Every
call that succeeds gets the whole file that the subkey with its index names, as long as the
files stay the same and no read fails half way. -/
theorem modules_serve_files (o : StartOutcomes Name) :
    ((componentFirmwareUpdateDeviceModulesAdd o .created).1.isSome = true ↔
        o.Readable ∧ o.storedKeys ≠ []) ∧
      ∀ config, (componentFirmwareUpdateDeviceModulesAdd o .created).1 = some config →
        config = o.modulesConfig ∧ (config.protocol = .usb ∨ config.protocol = .btle) ∧
        ∀ (files : Name → List UInt8)
          (calls : List (GetCall (componentFirmwareUpdateDeviceModulesAdd o
            .created).2.firmwareBlobCollection.length)),
          (∀ call ∈ calls, ∀ key, o.storedKeys[call.firmwarePairIndex.val]? = some key →
            ReadsFile (files (key.fileName call.side)) call.ops) →
          (∀ t ∈ trace step (componentFirmwareUpdateDeviceModulesAdd o
              .created).2.firmwareBlobCollection.get calls,
            ¬ FailsHalfWay t.before t.event) →
          ∀ t ∈ trace step (componentFirmwareUpdateDeviceModulesAdd o
              .created).2.firmwareBlobCollection.get calls,
            ∀ buffer, t.output = .success buffer →
              ∃ key, o.storedKeys[t.event.firmwarePairIndex.val]? = some key ∧
                buffer = files (key.fileName t.event.side) := by
  have hadds := deviceModulesAdd_iff o
  constructor
  · rw [Option.isSome_iff_exists]
    constructor
    · rintro ⟨config, hadded⟩
      obtain ⟨hreadable, hstored, -⟩ := (hadds config).1 hadded
      exact ⟨hreadable, hstored⟩
    · rintro ⟨hreadable, hstored⟩
      exact ⟨o.modulesConfig, (hadds _).2 ⟨hreadable, hstored, rfl⟩⟩
  · intro config hadded
    obtain ⟨hreadable, -, hconfig⟩ := (hadds config).1 hadded
    have hprotocol :=
      (registryDeviceConfigurationGet_of_usable hreadable.usable .zero).2.2
    have hcollection := collection_of_readable hreadable
    refine ⟨hconfig, ?_, ?_⟩
    · rw [hconfig]
      exact hprotocol
    · intro files calls hreads hwhole
      generalize (componentFirmwareUpdateDeviceModulesAdd o .created).2.firmwareBlobCollection =
        collection at calls hcollection hreads hwhole ⊢
      subst hcollection
      exact stored_files_served files calls hreads hwhole

/-- A subkey with the two files of the sample, or without an offer when {lit}`queryOffer`
fails. -/
def sampleKey (queryOffer : UInt32) : FirmwareKey Side where
  createOfferFileName := 0
  createPayloadFileName := 0
  queryOffer := queryOffer
  offerFileName := .offer
  queryPayload := 0
  payloadFileName := .payload
  memoryCreate := 0
  collectionAdd := 0

/-- The second of two subkeys is stored, and no configuration can be read. -/
def sampleStart : StartOutcomes Side where
  device := true
  openDeviceKey := 0
  queries := ⟨⟨0xC0000034, 0⟩, ⟨0xC0000034, 0⟩, ⟨0xC0000034, 0⟩, ⟨0xC0000034, 0⟩⟩
  openRootKey := 0
  registry :=
    { regQueryInfoKey := .success
      memoryCreate := 0
      subKeys :=
        [⟨.success, "MCU".toList, 0, sampleKey 0xC0000034⟩,
          ⟨.success, "SUB_COMPONENT0".toList, 0, sampleKey 0⟩] }

theorem mem_readInParts {call : GetCall 1} (h : call ∈ readInParts) :
    call = offerCall [some [1], some [2, 3]] ∨ call = offerCall [] := by
  simpa [readInParts] using h

theorem modules_serve_files_sampleStart :
    (componentFirmwareUpdateDeviceModulesAdd sampleStart .created).1 =
        some sampleStart.modulesConfig ∧
      sampleStart.modulesConfig.numberOfFirmwareComponents = 1 ∧
      ∀ t ∈ trace step (componentFirmwareUpdateDeviceModulesAdd sampleStart
          .created).2.firmwareBlobCollection.get readInParts,
        ∀ buffer, t.output = .success buffer →
          ∃ key, sampleStart.storedKeys[t.event.firmwarePairIndex.val]? = some key ∧
            buffer = sampleFiles (key.fileName t.event.side) := by
  have hadded : (componentFirmwareUpdateDeviceModulesAdd sampleStart .created).1 =
      some sampleStart.modulesConfig := rfl
  refine ⟨hadded, rfl, ?_⟩
  apply ((modules_serve_files sampleStart).2 _ hadded).2.2 sampleFiles readInParts
  · intro call hcall key hkey
    rcases mem_readInParts hcall with rfl | rfl
    · cases hkey
      exact ⟨by rintro _ ⟨⟩; rfl, by decide, by decide, trivial⟩
    · cases hkey
      exact ⟨by rintro _ ⟨⟩; rfl, trivial⟩
  · rintro t ht ⟨-, hread⟩
    obtain ⟨fileSize, hsize, hfails⟩ := hread.readFile
    rcases mem_readInParts (event_mem_of_mem_trace ht) with hcall | hcall
    · rw [hcall] at hfails
      exact hfails.2.2
    · rw [hcall] at hfails
      exact hfails

end Files

end Driver
end CFU
