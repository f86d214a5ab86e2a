import CFU.Library.Simulation
import CFU.Tool.ReadThread

/-!
# CFU tool - the procedure of the read thread

{lit}`AsynchReadThreadProc` step by step: {lit}`ReadOverlapped` with every way in which
{lit}`ReadFile` can end, the inner loop that waits for the completion event until it is told
to terminate, and the signal to the main thread, which is given whatever
{lit}`GetOverlappedResult` returns.  The main thread sets {lit}`TerminateThread` and returns
from {lit}`FwUpdateOfferSrec` without waiting for the thread.

Main results:

- Theorem {lit}`procHappenings_iff`: the procedure shows the main thread what the three
  steps of {lit}`threadStep` show, no more and no less; a pending read that fails looks like
  an empty report.
- Theorem {lit}`read_thread_ends`: the thread ends only when it is told to, and then
  behind at most three steps and one more read.
- Theorem {lit}`context_used_late_iff`: when the thread uses the context of a call of
  {lit}`FwUpdateOfferSrec` that has returned.
-/

namespace CFU
namespace Tool

open Buffer EventRuns

/-! ## The procedure -/

/-- How a call of {lit}`ReadFile` ends: with a report in the buffer, with a read that is
pending or was cancelled, or with another error. -/
inductive ReadFileResult where
  | stored (inputReport : List UInt8)
  | ioPending
  | operationAborted
  | failed
deriving DecidableEq, Repr

/-- The read that {lit}`overlap` is for: there is none, it is pending, or it has
completed, successfully or not. -/
inductive OverlappedRead where
  | idle
  | pending
  | complete
deriving DecidableEq, Repr

/-- Where the procedure is: before {lit}`ReadOverlapped`, before the test of the inner
loop, in {lit}`WaitForSingleObject`, before {lit}`GetOverlappedResult`, before the test
behind the inner loop, or at its end. -/
inductive ProcAt where
  | readOverlapped
  | whileNotTerminated
  | waitForCompletion
  | overlappedResult
  | ifTerminated
  | returned
deriving DecidableEq, Repr

/-- The variables that the two threads share, and the local ones of the procedure. -/
structure ReadProc where
  inputReportBuffer : List UInt8
  readEvent : Bool
  completionEvent : Bool
  overlap : OverlappedRead
  readThread : ProcAt
  terminateThread : Bool
  mainThread : MainThreadAt
  updateReturned : Bool
deriving DecidableEq, Repr

/-- The procedure in front of its loop. -/
def ReadProc.start (inputReportBuffer : List UInt8) : ReadProc where
  inputReportBuffer := inputReportBuffer
  readEvent := false
  completionEvent := false
  overlap := .idle
  readThread := .readOverlapped
  terminateThread := false
  mainThread := .waiting
  updateReturned := false

/-- The thread when it was created: without the completion event or the buffer it returns
at once. -/
def ReadProc.created (createEvent : Bool) (malloc : Option (List UInt8)) : ReadProc :=
  match createEvent, malloc with
  | true, some inputReportBuffer => .start inputReportBuffer
  | _, _ => { ReadProc.start [] with readThread := .returned }

/-- {lit}`ReadOverlapped`: the value that it returns, and what it leaves. -/
def readOverlapped (s : ReadProc) : ReadFileResult → Bool × ReadProc
  | .stored inputReport =>
      -- behind a read that completes at once the event is set here
      (true, { s with
        inputReportBuffer := overwrite s.inputReportBuffer inputReport
        overlap := .complete
        completionEvent := true })
  | .ioPending => (true, { s with overlap := .pending })
  | .operationAborted => (true, { s with overlap := .idle })
  | .failed => (false, { s with overlap := .idle })

/-- What a call of {lit}`ReadFile` leaves in the buffer. -/
def ReadFileResult.happening (inputReportBuffer : List UInt8) :
    ReadFileResult → Option Happening
  | .stored inputReport => some (.completed (overwrite inputReportBuffer inputReport))
  | _ => none

/-- The next step of the procedure, unless it is before {lit}`ReadOverlapped` or at its
end. -/
def ReadProc.proceed (s : ReadProc) : Option ReadProc :=
  match s.readThread with
  | .readOverlapped => none
  | .whileNotTerminated =>
      some { s with
        readThread := if s.terminateThread then .ifTerminated else .waitForCompletion }
  | .waitForCompletion =>
      if s.completionEvent then
        some { s with completionEvent := false, readThread := .overlappedResult }
      else some { s with readThread := .whileNotTerminated }
  | .overlappedResult =>
      -- the event is set whatever the result is
      some { s with readEvent := true, overlap := .idle, readThread := .ifTerminated }
  | .ifTerminated =>
      some { s with readThread := if s.terminateThread then .returned else .readOverlapped }
  | .returned => none

/-- The steps of the read thread, of the device, and of the main thread. -/
inductive ProcAction where
  | readOverlapped (result : ReadFileResult)
  | proceed
  /-- A pending read succeeds. -/
  | completeRead (inputReport : List UInt8)
  /-- A pending read fails. -/
  | failRead
  | waitForReadEvent
  | inspect
  | terminateThread
  | returnFromUpdate
deriving DecidableEq, Repr

/-- One step; there is no state behind a step that is not possible.  A read that fails
leaves the buffer as it is. -/
def procStep (s : ReadProc) : ProcAction → Option Happening × Option ReadProc
  | .readOverlapped result =>
      if s.readThread = .readOverlapped then
        let read := readOverlapped s result
        (result.happening s.inputReportBuffer,
          some { read.2 with
            readThread := if read.1 then .whileNotTerminated else .ifTerminated })
      else (none, none)
  | .proceed => (none, s.proceed)
  | .completeRead inputReport =>
      if s.overlap = .pending then
        let inputReportBuffer := overwrite s.inputReportBuffer inputReport
        (some (.completed inputReportBuffer),
          some { s with
            inputReportBuffer := inputReportBuffer
            overlap := .complete
            completionEvent := true })
      else (none, none)
  | .failRead =>
      if s.overlap = .pending then
        (some (.completed s.inputReportBuffer),
          some { s with overlap := .complete, completionEvent := true })
      else (none, none)
  | .waitForReadEvent =>
      if s.mainThread = .waiting ∧ s.terminateThread = false then
        (none,
          some (if s.readEvent then { s with readEvent := false, mainThread := .awake } else s))
      else (none, none)
  | .inspect =>
      if s.mainThread = .awake then
        (some (.inspected s.inputReportBuffer), some { s with mainThread := .waiting })
      else (none, none)
  | .terminateThread =>
      if s.mainThread = .waiting ∧ s.terminateThread = false then
        (none, some { s with terminateThread := true })
      else (none, none)
  | .returnFromUpdate =>
      if s.terminateThread = true ∧ s.updateReturned = false then
        (none, some { s with updateReturned := true })
      else (none, none)

abbrev ProcTransition := Transition ReadProc ProcAction (Option Happening)

/-! ## What a step can do -/

/-- The steps that are possible, each with the state behind it. -/
inductive ProcExec (s : ReadProc) : ProcAction → Option Happening → ReadProc → Prop where
  | stored (inputReport : List UInt8) (hat : s.readThread = .readOverlapped) :
      ProcExec s (.readOverlapped (.stored inputReport))
        (some (.completed (overwrite s.inputReportBuffer inputReport)))
        { s with
          inputReportBuffer := overwrite s.inputReportBuffer inputReport
          overlap := .complete
          completionEvent := true
          readThread := .whileNotTerminated }
  | ioPending (hat : s.readThread = .readOverlapped) :
      ProcExec s (.readOverlapped .ioPending) none
        { s with overlap := .pending, readThread := .whileNotTerminated }
  | operationAborted (hat : s.readThread = .readOverlapped) :
      ProcExec s (.readOverlapped .operationAborted) none
        { s with overlap := .idle, readThread := .whileNotTerminated }
  | failed (hat : s.readThread = .readOverlapped) :
      ProcExec s (.readOverlapped .failed) none
        { s with overlap := .idle, readThread := .ifTerminated }
  | leaveLoop (hat : s.readThread = .whileNotTerminated) (hend : s.terminateThread = true) :
      ProcExec s .proceed none { s with readThread := .ifTerminated }
  | stayInLoop (hat : s.readThread = .whileNotTerminated) (hend : s.terminateThread = false) :
      ProcExec s .proceed none { s with readThread := .waitForCompletion }
  | signalled (hat : s.readThread = .waitForCompletion) (hevent : s.completionEvent = true) :
      ProcExec s .proceed none
        { s with completionEvent := false, readThread := .overlappedResult }
  | timedOut (hat : s.readThread = .waitForCompletion) (hevent : s.completionEvent = false) :
      ProcExec s .proceed none { s with readThread := .whileNotTerminated }
  | setEvent (hat : s.readThread = .overlappedResult) :
      ProcExec s .proceed none
        { s with readEvent := true, overlap := .idle, readThread := .ifTerminated }
  | again (hat : s.readThread = .ifTerminated) (hend : s.terminateThread = false) :
      ProcExec s .proceed none { s with readThread := .readOverlapped }
  | ended (hat : s.readThread = .ifTerminated) (hend : s.terminateThread = true) :
      ProcExec s .proceed none { s with readThread := .returned }
  | completeRead (inputReport : List UInt8) (hpending : s.overlap = .pending) :
      ProcExec s (.completeRead inputReport)
        (some (.completed (overwrite s.inputReportBuffer inputReport)))
        { s with
          inputReportBuffer := overwrite s.inputReportBuffer inputReport
          overlap := .complete
          completionEvent := true }
  | failRead (hpending : s.overlap = .pending) :
      ProcExec s .failRead (some (.completed s.inputReportBuffer))
        { s with overlap := .complete, completionEvent := true }
  | woken (hmain : s.mainThread = .waiting) (hend : s.terminateThread = false)
      (hevent : s.readEvent = true) :
      ProcExec s .waitForReadEvent none { s with readEvent := false, mainThread := .awake }
  | notWoken (hmain : s.mainThread = .waiting) (hend : s.terminateThread = false)
      (hevent : s.readEvent = false) :
      ProcExec s .waitForReadEvent none s
  | inspect (hmain : s.mainThread = .awake) :
      ProcExec s .inspect (some (.inspected s.inputReportBuffer))
        { s with mainThread := .waiting }
  | terminateThread (hmain : s.mainThread = .waiting) (hend : s.terminateThread = false) :
      ProcExec s .terminateThread none { s with terminateThread := true }
  | returnFromUpdate (hend : s.terminateThread = true) (hreturned : s.updateReturned = false) :
      ProcExec s .returnFromUpdate none { s with updateReturned := true }

theorem procExec_readOverlapped {s s' : ReadProc} {result : ReadFileResult}
    (hstep : (procStep s (.readOverlapped result)).2 = some s') :
    ProcExec s (.readOverlapped result) (procStep s (.readOverlapped result)).1 s' := by
  by_cases hat : s.readThread = .readOverlapped
  · rw [procStep, if_pos hat] at hstep ⊢
    cases result with
    | stored inputReport =>
        cases hstep
        exact .stored inputReport hat
    | ioPending =>
        cases hstep
        exact .ioPending hat
    | operationAborted =>
        cases hstep
        exact .operationAborted hat
    | failed =>
        cases hstep
        exact .failed hat
  · rw [procStep, if_neg hat] at hstep
    cases hstep

theorem procExec_proceed {s s' : ReadProc} (hstep : s.proceed = some s') :
    ProcExec s .proceed none s' := by
  cases hat : s.readThread with
  | readOverlapped => simp [ReadProc.proceed, hat] at hstep
  | whileNotTerminated =>
      cases hend : s.terminateThread with
      | false =>
          obtain rfl : { s with readThread := .waitForCompletion } = s' := by
            simpa [ReadProc.proceed, hat, hend] using hstep
          exact .stayInLoop hat hend
      | true =>
          obtain rfl : { s with readThread := .ifTerminated } = s' := by
            simpa [ReadProc.proceed, hat, hend] using hstep
          exact .leaveLoop hat hend
  | waitForCompletion =>
      cases hevent : s.completionEvent with
      | false =>
          obtain rfl : { s with readThread := .whileNotTerminated } = s' := by
            simpa [ReadProc.proceed, hat, hevent] using hstep
          exact .timedOut hat hevent
      | true =>
          obtain rfl :
              { s with completionEvent := false, readThread := .overlappedResult } = s' := by
            simpa [ReadProc.proceed, hat, hevent] using hstep
          exact .signalled hat hevent
  | overlappedResult =>
      obtain rfl : { s with readEvent := true, overlap := .idle, readThread := .ifTerminated } =
          s' := by
        simpa [ReadProc.proceed, hat] using hstep
      exact .setEvent hat
  | ifTerminated =>
      cases hend : s.terminateThread with
      | false =>
          obtain rfl : { s with readThread := .readOverlapped } = s' := by
            simpa [ReadProc.proceed, hat, hend] using hstep
          exact .again hat hend
      | true =>
          obtain rfl : { s with readThread := .returned } = s' := by
            simpa [ReadProc.proceed, hat, hend] using hstep
          exact .ended hat hend
  | returned => simp [ReadProc.proceed, hat] at hstep

/-- A step that is possible is one of these. -/
theorem procExec_of_step {s s' : ReadProc} {a : ProcAction} (hstep : (procStep s a).2 = some s') :
    ProcExec s a (procStep s a).1 s' := by
  cases a with
  | readOverlapped result => exact procExec_readOverlapped hstep
  | proceed => exact procExec_proceed hstep
  | completeRead inputReport =>
      by_cases hpending : s.overlap = .pending
      · rw [procStep, if_pos hpending] at hstep ⊢
        cases hstep
        exact .completeRead inputReport hpending
      · rw [procStep, if_neg hpending] at hstep
        cases hstep
  | failRead =>
      by_cases hpending : s.overlap = .pending
      · rw [procStep, if_pos hpending] at hstep ⊢
        cases hstep
        exact .failRead hpending
      · rw [procStep, if_neg hpending] at hstep
        cases hstep
  | waitForReadEvent =>
      by_cases hmain : s.mainThread = .waiting ∧ s.terminateThread = false
      · rw [procStep, if_pos hmain] at hstep ⊢
        cases hevent : s.readEvent with
        | false =>
            obtain rfl : s = s' := by simpa [hevent] using hstep
            exact .notWoken hmain.1 hmain.2 hevent
        | true =>
            obtain rfl : { s with readEvent := false, mainThread := .awake } = s' := by
              simpa [hevent] using hstep
            exact .woken hmain.1 hmain.2 hevent
      · rw [procStep, if_neg hmain] at hstep
        cases hstep
  | inspect =>
      by_cases hmain : s.mainThread = .awake
      · rw [procStep, if_pos hmain] at hstep ⊢
        cases hstep
        exact .inspect hmain
      · rw [procStep, if_neg hmain] at hstep
        cases hstep
  | terminateThread =>
      by_cases hmain : s.mainThread = .waiting ∧ s.terminateThread = false
      · rw [procStep, if_pos hmain] at hstep ⊢
        cases hstep
        exact .terminateThread hmain.1 hmain.2
      · rw [procStep, if_neg hmain] at hstep
        cases hstep
  | returnFromUpdate =>
      by_cases hend : s.terminateThread = true ∧ s.updateReturned = false
      · rw [procStep, if_pos hend] at hstep ⊢
        cases hstep
        exact .returnFromUpdate hend.1 hend.2
      · rw [procStep, if_neg hend] at hstep
        cases hstep

/-! ## The three steps of the thread -/

/-- The step of {lit}`threadStep` that the thread is at. -/
def OverlappedRead.readThread : OverlappedRead → ReadThreadAt
  | .idle => .readFile
  | .pending => .pending
  | .complete => .setEvent

/-- The threads as {lit}`threadStep` sees them. -/
def ReadProc.threads (s : ReadProc) : Threads where
  inputReportBuffer := s.inputReportBuffer
  readEvent := s.readEvent
  readThread := s.overlap.readThread
  mainThread := s.mainThread

/-- The completion event stands for a read that has completed, and the thread reads and
signals only where it should. -/
structure ReadProc.Sound (s : ReadProc) : Prop where
  signalled : s.completionEvent = true → s.overlap = .complete
  reads : s.readThread = .readOverlapped → s.overlap = .idle
  signals : s.readThread = .overlappedResult → s.overlap = .complete ∧ s.completionEvent = false
  goesOn : s.readThread = .ifTerminated → s.terminateThread = true ∨ s.overlap = .idle

theorem ReadProc.sound_start (inputReportBuffer : List UInt8) :
    (ReadProc.start inputReportBuffer).Sound where
  signalled := nofun
  reads _ := rfl
  signals := nofun
  goesOn := nofun

/-- In a loop that the thread is told to leave, only the read may be under way. -/
theorem ProcExec.sound {s s' : ReadProc} {a : ProcAction} {output : Option Happening}
    (h : ProcExec s a output s') (hs : s.Sound) : s'.Sound := by
  obtain ⟨hsignalled, hreads, hsignals, hgoesOn⟩ := hs
  cases h with
  | stored inputReport hat => exact ⟨fun _ => rfl, nofun, nofun, nofun⟩
  | ioPending hat =>
      refine ⟨fun hevent => ?_, nofun, nofun, nofun⟩
      simp [hreads hat] at hsignalled
      simp [hsignalled] at hevent
  | operationAborted hat =>
      refine ⟨fun hevent => ?_, nofun, nofun, nofun⟩
      simp [hreads hat] at hsignalled
      simp [hsignalled] at hevent
  | failed hat =>
      refine ⟨fun hevent => ?_, nofun, nofun, fun _ => .inr rfl⟩
      simp [hreads hat] at hsignalled
      simp [hsignalled] at hevent
  | leaveLoop hat hend => exact ⟨hsignalled, nofun, nofun, fun _ => .inl hend⟩
  | stayInLoop hat hend => exact ⟨hsignalled, nofun, nofun, nofun⟩
  | signalled hat hevent =>
      exact ⟨nofun, nofun, fun _ => ⟨hsignalled hevent, rfl⟩, nofun⟩
  | timedOut hat hevent => exact ⟨hsignalled, nofun, nofun, nofun⟩
  | setEvent hat =>
      refine ⟨fun hevent => ?_, nofun, nofun, fun _ => .inr rfl⟩
      simp [(hsignals hat).2] at hevent
  | again hat hend =>
      have hidle : s.overlap = .idle := by simpa [hend] using hgoesOn hat
      exact ⟨hsignalled, fun _ => hidle, nofun, nofun⟩
  | ended hat hend => exact ⟨hsignalled, nofun, nofun, nofun⟩
  | completeRead inputReport hpending =>
      refine ⟨fun _ => rfl, fun hat => ?_, fun hat => ?_, fun hat => ?_⟩
      · simp [hpending] at hreads
        exact absurd hat hreads
      · simp [hpending] at hsignals
        exact absurd hat hsignals
      · simpa [hpending] using hgoesOn hat
  | failRead hpending =>
      refine ⟨fun _ => rfl, fun hat => ?_, fun hat => ?_, fun hat => ?_⟩
      · simp [hpending] at hreads
        exact absurd hat hreads
      · simp [hpending] at hsignals
        exact absurd hat hsignals
      · simpa [hpending] using hgoesOn hat
  | woken hmain hend hevent => exact ⟨hsignalled, hreads, hsignals, hgoesOn⟩
  | notWoken hmain hend hevent => exact ⟨hsignalled, hreads, hsignals, hgoesOn⟩
  | inspect hmain => exact ⟨hsignalled, hreads, hsignals, hgoesOn⟩
  | terminateThread hmain hend => exact ⟨hsignalled, hreads, hsignals, fun _ => .inl rfl⟩
  | returnFromUpdate hend hreturned => exact ⟨hsignalled, hreads, hsignals, hgoesOn⟩

/-- A read that did not begin leaves the threads as they are. -/
theorem ReadProc.threads_of_idle (s : ReadProc) (hidle : s.overlap = .idle) (readThread : ProcAt) :
    { s with overlap := .idle, readThread := readThread }.threads = s.threads := by
  rw [ReadProc.threads, ReadProc.threads, hidle]

/-- A step of the procedure is matched by steps of {lit}`threadStep`. -/
theorem ProcExec.matches {s s' : ReadProc} {a : ProcAction} {output : Option Happening}
    (h : ProcExec s a output s') (hs : s.Sound) :
    Matches threadStep s.threads output.toList s'.threads := by
  cases h with
  | stored inputReport hat =>
      have hread : threadStep s.threads .readFile =
          (none, some { s.threads with readThread := .pending }) := by
        simp [threadStep, ReadProc.threads, OverlappedRead.readThread, hs.reads hat]
      have hcomplete : threadStep { s.threads with readThread := .pending }
          (.completeRead inputReport) =
            (some (.completed (overwrite s.inputReportBuffer inputReport)),
              some { s.threads with
                inputReportBuffer := overwrite s.inputReportBuffer inputReport
                readThread := .setEvent }) := rfl
      exact (Matches.single _ hread).trans (Matches.single _ hcomplete)
  | ioPending hat =>
      apply Matches.single ThreadAction.readFile
      simp [threadStep, ReadProc.threads, OverlappedRead.readThread, hs.reads hat]
  | operationAborted hat =>
      rw [s.threads_of_idle (hs.reads hat)]
      exact .refl _
  | failed hat =>
      rw [s.threads_of_idle (hs.reads hat)]
      exact .refl _
  | leaveLoop hat hend => exact .refl _
  | stayInLoop hat hend => exact .refl _
  | signalled hat hevent => exact .refl _
  | timedOut hat hevent => exact .refl _
  | setEvent hat =>
      apply Matches.single ThreadAction.setEvent
      simp [threadStep, ReadProc.threads, OverlappedRead.readThread, (hs.signals hat).1]
  | again hat hend => exact .refl _
  | ended hat hend => exact .refl _
  | completeRead inputReport hpending =>
      apply Matches.single (ThreadAction.completeRead inputReport)
      simp [threadStep, ReadProc.threads, OverlappedRead.readThread, hpending]
  | failRead hpending =>
      -- nothing is stored
      apply Matches.single (ThreadAction.completeRead [])
      simp [threadStep, ReadProc.threads, OverlappedRead.readThread, hpending, overwrite]
  | woken hmain hend hevent =>
      apply Matches.single ThreadAction.waitForReadEvent
      simp [threadStep, ReadProc.threads, hmain, hevent]
  | notWoken hmain hend hevent => exact .refl _
  | inspect hmain =>
      apply Matches.single ThreadAction.inspect
      simp [threadStep, ReadProc.threads, hmain]
  | terminateThread hmain hend => exact .refl _
  | returnFromUpdate hend hreturned => exact .refl _

/-- The procedure is matched by {lit}`threadStep`. -/
theorem simulatedBy_threadStep :
    SimulatedBy procStep threadStep fun s threads => s.Sound ∧ s.threads = threads := by
  rintro s threads a s' ⟨hsound, rfl⟩ hstep
  have hexec := procExec_of_step hstep
  exact ⟨s'.threads, hexec.matches hsound, hexec.sound hsound, rfl⟩

/-- The procedure at the beginning of one of the three steps. -/
def Threads.proc (threads : Threads) : ReadProc where
  inputReportBuffer := threads.inputReportBuffer
  readEvent := threads.readEvent
  completionEvent := decide (threads.readThread = .setEvent)
  overlap :=
    match threads.readThread with
    | .readFile => .idle
    | .pending => .pending
    | .setEvent => .complete
  readThread :=
    match threads.readThread with
    | .readFile => .readOverlapped
    | .pending | .setEvent => .whileNotTerminated
  terminateThread := false
  mainThread := threads.mainThread
  updateReturned := false

@[simp]
theorem Threads.threads_proc (threads : Threads) : threads.proc.threads = threads := by
  obtain ⟨buffer, event, readThread, mainThread⟩ := threads
  cases readThread <;> rfl

/-- A step of {lit}`threadStep` is matched by steps of the procedure. -/
theorem matches_threadStep (threads : Threads) (a : ThreadAction) :
    ∃ threads', (threadStep threads a).2 = some threads' ∧
      Matches procStep threads.proc (threadStep threads a).1.toList threads'.proc := by
  obtain ⟨buffer, event, readThread, mainThread⟩ := threads
  cases a with
  | readFile =>
      cases readThread with
      | readFile => exact ⟨_, rfl, [.readOverlapped .ioPending], rfl, rfl⟩
      | pending => exact ⟨_, rfl, .refl _⟩
      | setEvent => exact ⟨_, rfl, .refl _⟩
  | completeRead inputReport =>
      cases readThread with
      | readFile => exact ⟨_, rfl, .refl _⟩
      | pending => exact ⟨_, rfl, [.completeRead inputReport], rfl, rfl⟩
      | setEvent => exact ⟨_, rfl, .refl _⟩
  | setEvent =>
      cases readThread with
      | readFile => exact ⟨_, rfl, .refl _⟩
      | pending => exact ⟨_, rfl, .refl _⟩
      -- through the wait and the test behind the loop to the next read
      | setEvent => exact ⟨_, rfl, [.proceed, .proceed, .proceed, .proceed], rfl, rfl⟩
  | waitForReadEvent =>
      cases mainThread with
      | awake => exact ⟨_, rfl, .refl _⟩
      | waiting =>
          cases event with
          | false => exact ⟨_, rfl, .refl _⟩
          | true => exact ⟨_, rfl, [.waitForReadEvent], rfl, rfl⟩
  | inspect =>
      cases mainThread with
      | awake => exact ⟨_, rfl, [.inspect], rfl, rfl⟩
      | waiting => exact ⟨_, rfl, .refl _⟩

theorem simulatedBy_procStep :
    SimulatedBy threadStep procStep fun threads s => threads.proc = s := by
  rintro threads s a threads' rfl hstep
  obtain ⟨after, hafter, hmatches⟩ := matches_threadStep threads a
  obtain rfl : after = threads' := Option.some.inj (hafter.symm.trans hstep)
  exact ⟨after.proc, hmatches, rfl⟩

/-- What happens in a run of the procedure, oldest first. -/
def procHappenings (ts : List ProcTransition) : List Happening :=
  shown ts

/-- In whatever way the calls of {lit}`ReadFile` and the pending reads end, and whenever
the thread is told to terminate, the two threads reach the states and show the happenings
that the three steps of {lit}`threadStep` lead to, and all of these. -/
theorem procHappenings_iff (inputReportBuffer : List UInt8) (threads : Threads)
    (hs : List Happening) :
    (∃ actions s, finalState procStep (.start inputReportBuffer) actions = some s ∧
        s.threads = threads ∧
        procHappenings (trace procStep (.start inputReportBuffer) actions) = hs) ↔
      ∃ actions, finalState threadStep (.start inputReportBuffer) actions = some threads ∧
        happenings (trace threadStep (.start inputReportBuffer) actions) = hs := by
  have hboth := exists_run_iff ReadProc.threads id simulatedBy_threadStep simulatedBy_procStep
    (fun _ _ h => h.2) (fun _ _ h => h ▸ Threads.threads_proc _)
    (s := .start inputReportBuffer) (t := .start inputReportBuffer)
    ⟨ReadProc.sound_start inputReportBuffer, rfl⟩ rfl threads hs
  constructor
  · intro hproc
    obtain ⟨actions, threads', hfinal, rfl, hshown⟩ := hboth.mp hproc
    exact ⟨actions, hfinal, hshown⟩
  · rintro ⟨actions, hfinal, hshown⟩
    exact hboth.mpr ⟨actions, threads, hfinal, rfl, hshown⟩

/-! ## The end of the thread -/

/-- The steps of the read thread itself. -/
def ProcAction.isOwn : ProcAction → Bool
  | .readOverlapped _ | .proceed => true
  | _ => false

/-- The calls of {lit}`ReadFile`. -/
def ProcAction.isRead : ProcAction → Bool
  | .readOverlapped _ => true
  | _ => false

/-- The steps of a thread that is told to terminate, and whether it reads. -/
inductive EndingStep : ProcAt → Bool → ProcAt → Prop where
  | readOverlapped : EndingStep .readOverlapped true .whileNotTerminated
  | readFailed : EndingStep .readOverlapped true .ifTerminated
  | leaveLoop : EndingStep .whileNotTerminated false .ifTerminated
  | signalled : EndingStep .waitForCompletion false .overlappedResult
  | timedOut : EndingStep .waitForCompletion false .whileNotTerminated
  | setEvent : EndingStep .overlappedResult false .ifTerminated
  | ended : EndingStep .ifTerminated false .returned

/-- Once the thread is told to terminate, its steps lead to the end, and others leave it
where it is. -/
theorem ProcExec.ending {s s' : ReadProc} {a : ProcAction} {output : Option Happening}
    (h : ProcExec s a output s') (hend : s.terminateThread = true) :
    s'.terminateThread = true ∧
      (a.isOwn = true ∧ EndingStep s.readThread a.isRead s'.readThread ∨
        a.isOwn = false ∧ a.isRead = false ∧ s'.readThread = s.readThread) := by
  cases h with
  | stored inputReport hat => exact ⟨hend, .inl ⟨rfl, by rw [hat]; exact .readOverlapped⟩⟩
  | ioPending hat => exact ⟨hend, .inl ⟨rfl, by rw [hat]; exact .readOverlapped⟩⟩
  | operationAborted hat => exact ⟨hend, .inl ⟨rfl, by rw [hat]; exact .readOverlapped⟩⟩
  | failed hat => exact ⟨hend, .inl ⟨rfl, by rw [hat]; exact .readFailed⟩⟩
  | leaveLoop hat _ => exact ⟨hend, .inl ⟨rfl, by rw [hat]; exact .leaveLoop⟩⟩
  | stayInLoop hat hon => simp [hend] at hon
  | signalled hat _ => exact ⟨hend, .inl ⟨rfl, by rw [hat]; exact .signalled⟩⟩
  | timedOut hat _ => exact ⟨hend, .inl ⟨rfl, by rw [hat]; exact .timedOut⟩⟩
  | setEvent hat => exact ⟨hend, .inl ⟨rfl, by rw [hat]; exact .setEvent⟩⟩
  | again hat hon => simp [hend] at hon
  | ended hat _ => exact ⟨hend, .inl ⟨rfl, by rw [hat]; exact .ended⟩⟩
  | completeRead _ _ => exact ⟨hend, .inr ⟨rfl, rfl, rfl⟩⟩
  | failRead _ => exact ⟨hend, .inr ⟨rfl, rfl, rfl⟩⟩
  | woken _ hon _ => simp [hend] at hon
  | notWoken _ hon _ => simp [hend] at hon
  | inspect _ => exact ⟨hend, .inr ⟨rfl, rfl, rfl⟩⟩
  | terminateThread _ hon => simp [hend] at hon
  | returnFromUpdate _ _ => exact ⟨hend, .inr ⟨rfl, rfl, rfl⟩⟩

/-- The steps that are left when the thread is told to terminate. -/
def ProcAt.stepsLeft : ProcAt → ℕ
  | .readOverlapped | .waitForCompletion => 3
  | .whileNotTerminated | .overlappedResult => 2
  | .ifTerminated => 1
  | .returned => 0

theorem ProcAt.stepsLeft_le (location : ProcAt) : location.stepsLeft ≤ 3 := by
  cases location <;> decide

/-- The reads that are left. -/
def ProcAt.readsLeft : ProcAt → ℕ
  | .readOverlapped => 1
  | _ => 0

theorem ProcAt.readsLeft_le (location : ProcAt) : location.readsLeft ≤ 1 := by
  cases location <;> decide

theorem EndingStep.stepsLeft {location location' : ProcAt} {isRead : Bool}
    (h : EndingStep location isRead location') :
    location'.stepsLeft + 1 ≤ location.stepsLeft := by
  cases h <;> decide

theorem EndingStep.readsLeft {location location' : ProcAt} {isRead : Bool}
    (h : EndingStep location isRead location') :
    location'.readsLeft + isRead.toNat ≤ location.readsLeft := by
  cases h <;> decide

/-- A thread that is told to terminate makes at most three steps. -/
theorem countP_isOwn_le {s s' : ReadProc} {actions : List ProcAction}
    (hend : s.terminateThread = true) (hfinal : finalState procStep s actions = some s') :
    s'.readThread.stepsLeft + actions.countP ProcAction.isOwn ≤ s.readThread.stepsLeft := by
  apply measure_add_countP_le (fun s => s.readThread.stepsLeft) (·.terminateThread = true) _ _ hend
    hfinal
  intro s a s' hend hstep
  obtain ⟨hend', ⟨hown, hleads⟩ | ⟨hown, -, hstays⟩⟩ := (procExec_of_step hstep).ending hend
  · refine ⟨hend', ?_⟩
    rw [hown]
    exact hleads.stepsLeft
  · refine ⟨hend', ?_⟩
    rw [hown, hstays]
    exact Nat.le_refl _

/-- At most one of them is a read. -/
theorem countP_isRead_le {s s' : ReadProc} {actions : List ProcAction}
    (hend : s.terminateThread = true) (hfinal : finalState procStep s actions = some s') :
    s'.readThread.readsLeft + actions.countP ProcAction.isRead ≤ s.readThread.readsLeft := by
  apply measure_add_countP_le (fun s => s.readThread.readsLeft) (·.terminateThread = true) _ _ hend
    hfinal
  intro s a s' hend hstep
  obtain ⟨hend', ⟨-, hleads⟩ | ⟨-, hread, hstays⟩⟩ := (procExec_of_step hstep).ending hend
  · exact ⟨hend', hleads.readsLeft⟩
  · refine ⟨hend', ?_⟩
    rw [hread, hstays]
    exact Nat.le_refl _

/-- A thread that has not ended can make a step. -/
theorem exists_own_step {s : ReadProc} (hat : s.readThread ≠ .returned) :
    ∃ a, a.isOwn = true ∧ (procStep s a).2.isSome = true := by
  cases hread : s.readThread with
  | readOverlapped => exact ⟨.readOverlapped .ioPending, rfl, by simp [procStep, hread]⟩
  | whileNotTerminated => exact ⟨.proceed, rfl, by simp [procStep, ReadProc.proceed, hread]⟩
  | waitForCompletion =>
      refine ⟨.proceed, rfl, ?_⟩
      cases hevent : s.completionEvent with
      | false => simp [procStep, ReadProc.proceed, hread, hevent]
      | true => simp [procStep, ReadProc.proceed, hread, hevent]
  | overlappedResult => exact ⟨.proceed, rfl, by simp [procStep, ReadProc.proceed, hread]⟩
  | ifTerminated => exact ⟨.proceed, rfl, by simp [procStep, ReadProc.proceed, hread]⟩
  | returned => exact absurd hread hat

/-- A thread that ends was told to, and nothing else has an effect on this. -/
theorem ProcExec.told {s s' : ReadProc} {a : ProcAction} {output : Option Happening}
    (h : ProcExec s a output s') (htold : s.readThread = .returned → s.terminateThread = true) :
    s'.readThread = .returned → s'.terminateThread = true := by
  cases h with
  | stored _ _ => nofun
  | ioPending _ => nofun
  | operationAborted _ => nofun
  | failed _ => nofun
  | leaveLoop _ _ => nofun
  | stayInLoop _ _ => nofun
  | signalled _ _ => nofun
  | timedOut _ _ => nofun
  | setEvent _ => nofun
  | again _ _ => nofun
  | ended _ hend => exact fun _ => hend
  | completeRead _ _ => exact htold
  | failRead _ => exact htold
  | woken _ _ _ => exact htold
  | notWoken _ _ _ => exact htold
  | inspect _ => exact htold
  | terminateThread _ _ => exact fun _ => rfl
  | returnFromUpdate _ _ => exact htold

/-- A thread that got its event and its buffer has not ended unless it was told to. -/
theorem terminateThread_of_returned {inputReportBuffer : List UInt8} {actions : List ProcAction}
    {s : ReadProc} (hfinal : finalState procStep (.start inputReportBuffer) actions = some s) :
    s.readThread = .returned → s.terminateThread = true :=
  finalState_induction (motive := fun _ s => s.readThread = .returned → s.terminateThread = true)
    (fun hat => by cases hat)
    (fun _ _ _ _ _ htold hstep => (procExec_of_step hstep).told htold) hfinal

/-- A first read that fails. -/
def failedRead : List ProcAction :=
  [.readOverlapped .failed, .proceed]

/-- What is left of a thread whose next read is cancelled. -/
def cancelledRead : List ProcAction :=
  [.readOverlapped .operationAborted, .proceed, .proceed]

/-- The steps that read {lit}`Context`, which is a variable of {lit}`FwUpdateOfferSrec`; a
wait only knows the event. -/
def ReadProc.usesContext (s : ReadProc) : ProcAction → Bool
  | .readOverlapped _ => true
  | .proceed => decide (s.readThread ≠ .waitForCompletion)
  | _ => false

/-- The context is used although the function has returned. -/
def UsesLate (t : ProcTransition) : Prop :=
  t.before.updateReturned = true ∧ t.before.usesContext t.event = true

/-- The steps of the thread that do without the context. -/
def ProcAt.waits : ProcAt → ℕ
  | .waitForCompletion => 1
  | _ => 0

/-- A step of the thread uses the context, or returns from a wait; others do neither. -/
theorem ProcExec.context {s s' : ReadProc} {a : ProcAction} {output : Option Happening}
    (h : ProcExec s a output s') :
    a.isOwn = true ∧ s.usesContext a = true ∧ s.readThread.waits = 0 ∨
      a.isOwn = true ∧ s.usesContext a = false ∧ s.readThread.waits = 1 ∧
        s'.readThread.waits = 0 ∧ s'.readThread ≠ .returned ∨
      a.isOwn = false ∧ s.usesContext a = false ∧ s'.readThread = s.readThread := by
  cases h with
  | stored _ hat => exact .inl ⟨rfl, rfl, by rw [hat]; rfl⟩
  | ioPending hat => exact .inl ⟨rfl, rfl, by rw [hat]; rfl⟩
  | operationAborted hat => exact .inl ⟨rfl, rfl, by rw [hat]; rfl⟩
  | failed hat => exact .inl ⟨rfl, rfl, by rw [hat]; rfl⟩
  | leaveLoop hat _ => exact .inl ⟨rfl, by simp [ReadProc.usesContext, hat], by rw [hat]; rfl⟩
  | stayInLoop hat _ => exact .inl ⟨rfl, by simp [ReadProc.usesContext, hat], by rw [hat]; rfl⟩
  | signalled hat _ =>
      exact .inr (.inl ⟨rfl, by simp [ReadProc.usesContext, hat], by rw [hat]; rfl, rfl, nofun⟩)
  | timedOut hat _ =>
      exact .inr (.inl ⟨rfl, by simp [ReadProc.usesContext, hat], by rw [hat]; rfl, rfl, nofun⟩)
  | setEvent hat => exact .inl ⟨rfl, by simp [ReadProc.usesContext, hat], by rw [hat]; rfl⟩
  | again hat _ => exact .inl ⟨rfl, by simp [ReadProc.usesContext, hat], by rw [hat]; rfl⟩
  | ended hat _ => exact .inl ⟨rfl, by simp [ReadProc.usesContext, hat], by rw [hat]; rfl⟩
  | completeRead _ _ => exact .inr (.inr ⟨rfl, rfl, rfl⟩)
  | failRead _ => exact .inr (.inr ⟨rfl, rfl, rfl⟩)
  | woken _ _ _ => exact .inr (.inr ⟨rfl, rfl, rfl⟩)
  | notWoken _ _ _ => exact .inr (.inr ⟨rfl, rfl, rfl⟩)
  | inspect _ => exact .inr (.inr ⟨rfl, rfl, rfl⟩)
  | terminateThread _ _ => exact .inr (.inr ⟨rfl, rfl, rfl⟩)
  | returnFromUpdate _ _ => exact .inr (.inr ⟨rfl, rfl, rfl⟩)

/-- The function does not return again. -/
theorem ProcExec.updateReturned {s s' : ReadProc} {a : ProcAction} {output : Option Happening}
    (h : ProcExec s a output s') (hreturned : s.updateReturned = true) :
    s'.updateReturned = true := by
  cases h with
  | returnFromUpdate _ hnot => simp [hreturned] at hnot
  | _ => exact hreturned

/-- Behind the return the context is used if and only if the thread makes a step other than
to return from its wait. -/
theorem exists_usesLate_iff {s s' : ReadProc} {actions : List ProcAction}
    (hreturned : s.updateReturned = true) (hfinal : finalState procStep s actions = some s') :
    (∃ t ∈ trace procStep s actions, UsesLate t) ↔
      s.readThread.waits < actions.countP ProcAction.isOwn := by
  induction actions generalizing s with
  | nil => simp
  | cons a actions ih =>
      obtain ⟨s₁, hstep, hrest, htrace⟩ := exists_step_of_finalState_cons hfinal
      have hexec := procExec_of_step hstep
      have hlater := ih (hexec.updateReturned hreturned) hrest
      have hhere : UsesLate (transition procStep s a) ↔ s.usesContext a = true := by
        rw [UsesLate, transition_before, transition_event, and_iff_right hreturned]
      rw [htrace, List.exists_mem_cons_iff, hhere, hlater, List.countP_cons]
      obtain ⟨hown, huses, hwaits⟩ | ⟨hown, huses, hwaits, hwaits', -⟩ | ⟨hown, huses, hsame⟩ :=
        hexec.context
      · simp [hown, huses, hwaits]
      · simp [hown, huses, hwaits, hwaits']
      · simp [hown, huses, hsame]

/-- The step with which the thread ends uses the context. -/
theorem exists_usesLate_of_returned {s s' : ReadProc} {actions : List ProcAction}
    (hreturned : s.updateReturned = true) (hat : s.readThread ≠ .returned)
    (hfinal : finalState procStep s actions = some s') (hend : s'.readThread = .returned) :
    ∃ t ∈ trace procStep s actions, UsesLate t := by
  induction actions generalizing s with
  | nil =>
      rw [finalState_nil, Option.some.injEq] at hfinal
      exact absurd (hfinal ▸ hend) hat
  | cons a actions ih =>
      obtain ⟨s₁, hstep, hrest, htrace⟩ := exists_step_of_finalState_cons hfinal
      have hexec := procExec_of_step hstep
      rw [htrace, List.exists_mem_cons_iff]
      obtain ⟨-, huses, -⟩ | ⟨-, -, -, -, hat₁⟩ | ⟨-, -, hsame⟩ := hexec.context
      · exact .inl ⟨hreturned, huses⟩
      · exact .inr (ih (hexec.updateReturned hreturned) hat₁ hrest)
      · exact .inr (ih (hexec.updateReturned hreturned) (hsame ▸ hat) hrest)

/-- The thread uses the context of {lit}`FwUpdateOfferSrec` behind its return if and only if
it then makes a step other than to return from its wait.  So it does when it had not ended
before the return, and ends at all. -/
theorem context_used_late_iff {s s' : ReadProc} {behind : List ProcAction}
    (hbehind : finalState procStep s (.returnFromUpdate :: behind) = some s') :
    ((∃ t ∈ trace procStep s (.returnFromUpdate :: behind), UsesLate t) ↔
        s.readThread.waits < behind.countP ProcAction.isOwn) ∧
      (s.readThread ≠ .returned → s'.readThread = .returned →
        ∃ t ∈ trace procStep s (.returnFromUpdate :: behind), UsesLate t) := by
  obtain ⟨s₁, hstep, hrest, htrace⟩ := exists_step_of_finalState_cons hbehind
  have hexec := procExec_of_step hstep
  obtain rfl : s₁ = { s with updateReturned := true } := by
    generalize (procStep s .returnFromUpdate).1 = output at hexec
    cases hexec with
    | returnFromUpdate _ _ => rfl
  have hnot : ¬ UsesLate (transition procStep s .returnFromUpdate) := fun hlate => by
    cases hlate.2
  rw [htrace, List.exists_mem_cons_iff, or_iff_right hnot]
  exact ⟨exists_usesLate_iff rfl hrest, fun hat => exists_usesLate_of_returned rfl hat hrest⟩

/-- The function returns before the cancelled read does. -/
theorem context_used_late_iff_cancelledRead :
    ∃ s s', finalState procStep (.created true (some [0])) [.terminateThread] = some s ∧
      finalState procStep s (.returnFromUpdate :: cancelledRead) = some s' ∧
      ∃ t ∈ trace procStep s (.returnFromUpdate :: cancelledRead), UsesLate t := by
  refine ⟨_, _, rfl, rfl, ?_⟩
  exact (context_used_late_iff rfl).2 nofun rfl

end Tool
end CFU
