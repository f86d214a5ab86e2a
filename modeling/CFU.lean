import CFU.Library.Runs
import CFU.Library.Components
import CFU.Library.Simulation
import CFU.Library.Schedules
import CFU.Library.LabelledPaths
import CFU.Library.Stores
import CFU.Library.SignalledQueue
import CFU.Library.IntrusiveList
import CFU.Library.KeyedWrites
import CFU.Library.Bytes
import CFU.Library.InputStream
import CFU.Library.Reading
import CFU.Library.TextStream
import CFU.Library.ResultCodes
import CFU.Firmware.UpdateMachine
import CFU.Firmware.CallLog
import CFU.Firmware.FlashContents
import CFU.Firmware.SwapGate
import CFU.Firmware.Hosts
import CFU.Firmware.OfferInterference
import CFU.Firmware.SuccessfulCalls
import CFU.Firmware.FailSafeTimer
import CFU.Firmware.UpdateDeadline
import CFU.Firmware.ContentAnswers
import CFU.Firmware.OfferAnswers
import CFU.Firmware.VersionReport
import CFU.Firmware.RegistrationList
import CFU.Firmware.WireFormat
import CFU.Simulator.Reports
import CFU.Simulator.Device
import CFU.Simulator.CommittedVersions
import CFU.Simulator.UpdatedComponents
import CFU.Simulator.ResponseDelivery
import CFU.Simulator.ResponseProgress
import CFU.Simulator.PacketReads
import CFU.Tool.Reports
import CFU.Tool.SrecParser
import CFU.Tool.FwUpdate
import CFU.Tool.PayloadCalls
import CFU.Tool.ParserBounds
import CFU.Tool.Exchange
import CFU.Tool.FinishedTransfer
import CFU.Tool.Script
import CFU.Tool.ExpectedReports
import CFU.Tool.ReadThread
import CFU.Tool.ReadThreadProc
import CFU.Tool.LockStep
import CFU.Tool.SimilarDevices
import CFU.Tool.Rebasing
import CFU.Tool.Settings
import CFU.Tool.SettingsFields
import CFU.Tool.Discovery
import CFU.Tool.DeviceSelect
import CFU.Tool.Main
import CFU.Transfer.WireAgreement
import CFU.Transfer.ReportLayouts
import CFU.Transfer.BlockPlan
import CFU.Transfer.EngineDevice
import CFU.Transfer.SendingLoop
import CFU.Transfer.EndToEnd
import CFU.Transfer.AcceptedPayload
import CFU.Transfer.SessionSeries
import CFU.Transfer.FlashImage
import CFU.Transfer.SharedDevice
import CFU.Transfer.CommandLine
import CFU.Transfer.SimulatedDevice
import CFU.Transfer.SimulatedSeries
import CFU.Transfer.VersionQuery
import CFU.Transfer.EngineVersions
import CFU.Transfer.ConcurrentExchange
import CFU.Transfer.ScheduledExchange
import CFU.Driver.FirmwareFiles
import CFU.Driver.FileReads
import CFU.Driver.Registry
import CFU.Driver.StartUp
