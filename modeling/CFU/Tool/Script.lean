import CFU.Tool.Exchange

/-!
# CFU tool - scripted devices

Whatever a device does during a run of the tool, it may be written down as a
script: for each report, given those before it, whether {lit}`SetOutputReport`
takes it and what the waits behind it yield.  The tool waits a bounded number of
times behind a report in the model, so a script has as many entries for it at most;
when they are used up, the waits time out.

Main results:

- Theorem {lit}`awaitContentResponse_exhausted`: without further entries the tool
  keeps waiting.
-/

namespace CFU
namespace Tool

open Buffer LittleEndian

/-! ## Scripts -/

/-- What a device does behind each report: {lit}`takes` and {lit}`deliveries` are given
all reports that were sent; a delivery is {lean}`none` when the wait times out. -/
structure Script (waits : ℕ) where
  takes : List (List UInt8) → Bool
  deliveries : List (List UInt8) → List (Option (List UInt8))
  length_deliveries_le (sent : List (List UInt8)) : (deliveries sent).length ≤ waits

/-- The reports that were sent, and what the waits are still to yield. -/
structure ScriptState where
  sent : List (List UInt8)
  pending : List (Option (List UInt8))

variable {waits : ℕ}

/-- The device that follows a script. -/
def Script.device (script : Script waits) : HidDevice ScriptState where
  setOutputReport report s :=
    (script.takes (s.sent ++ [report]),
      ⟨s.sent ++ [report], script.deliveries (s.sent ++ [report])⟩)
  waitForReadEvent s :=
    match s.pending with
    | [] => (none, s)
    | delivery :: pending => (delivery, { s with pending := pending })

/-- The run of the tool on a script, with its log. -/
def Script.run (script : Script waits) (setup : Setup)
    (protocolSettings : CfuHidDeviceConfiguration) (offerPath srecBinPath : Option (List UInt8))
    (forceIgnoreVersion forceReset : UInt8) : Outcome × Logged ScriptState :=
  fwUpdateOfferSrec script.device.logged setup waits protocolSettings offerPath srecBinPath
    forceIgnoreVersion forceReset ⟨⟨[], []⟩, []⟩

section Waits

variable (script : Script waits) (sent : List (List UInt8))
  (pending : List (Option (List UInt8))) (log : List Exchange)

theorem script_setOutputReport (report : List UInt8) :
    script.device.logged.setOutputReport report ⟨⟨sent, pending⟩, log⟩ =
      (script.takes (sent ++ [report]),
        ⟨⟨sent ++ [report], script.deliveries (sent ++ [report])⟩,
          log ++ [.sent report (script.takes (sent ++ [report]))]⟩) :=
  rfl

theorem script_exhausted :
    script.device.logged.waitForReadEvent ⟨⟨sent, []⟩, log⟩ =
      (none, ⟨⟨sent, []⟩, log ++ [.timedOut]⟩) :=
  rfl

theorem script_timedOut :
    script.device.logged.waitForReadEvent ⟨⟨sent, none :: pending⟩, log⟩ =
      (none, ⟨⟨sent, pending⟩, log ++ [.timedOut]⟩) :=
  rfl

theorem script_received (inputReport : List UInt8) :
    script.device.logged.waitForReadEvent ⟨⟨sent, some inputReport :: pending⟩, log⟩ =
      (some inputReport, ⟨⟨sent, pending⟩, log ++ [.received inputReport]⟩) :=
  rfl

/-- Without further entries the tool keeps waiting. -/
theorem awaitContentResponse_exhausted (sequenceNumber : UInt16) (waits' : ℕ)
    (inputReportBuffer : List UInt8) :
    awaitContentResponse script.device.logged sequenceNumber waits' inputReportBuffer
        ⟨⟨sent, []⟩, log⟩ =
      (.waiting, inputReportBuffer, ⟨⟨sent, []⟩, log ++ List.replicate waits' .timedOut⟩) := by
  induction waits' generalizing log with
  | zero => rw [List.replicate_zero, List.append_nil, awaitContentResponse]
  | succ waits' ih =>
      rw [awaitContentResponse_timedOut (script_exhausted script sent log), ih,
        List.append_assoc, List.singleton_append, List.replicate_succ]

end Waits

end Tool
end CFU
