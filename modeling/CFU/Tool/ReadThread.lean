import CFU.Library.Bytes
import CFU.Library.Runs

/-!
# CFU tool - the read thread

The read thread lets {lit}`ReadFile` complete into {lit}`InputReportBuffer`, signals the
auto-reset event {lit}`readEvent`, and reads again.  The main thread waits for the event
and inspects the buffer.  The fifth step of the read thread's comment, to block until
the main thread has displayed the data, is not in the code, so a read may complete
before the report in the buffer was inspected.

Main results:

- Theorem {lit}`inStep_of_run`: as long as reads complete quietly, the threads take turns.
- Theorem {lit}`eachInspectedOnce_iff`: each report is inspected exactly once if and only
  if every read completes with the event clear and the main thread waiting.
- Theorem {lit}`EachInspectedOnce.completed_eq`: then the main thread sees the completed
  reads in order.
-/

namespace CFU
namespace Tool

open Buffer EventRuns

/-! ## The two threads -/

/-- Where the read thread is: before {lit}`ReadFile`, in a read that is pending, or
before {lit}`SetEvent`. -/
inductive ReadThreadAt where
  | readFile
  | pending
  | setEvent
deriving DecidableEq, Repr

/-- Where the main thread is: in {lit}`WaitForSingleObject`, or behind it. -/
inductive MainThreadAt where
  | waiting
  | awake
deriving DecidableEq, Repr

structure Threads where
  inputReportBuffer : List UInt8
  readEvent : Bool
  readThread : ReadThreadAt
  mainThread : MainThreadAt
deriving DecidableEq, Repr

/-- The atomic steps of both threads, and of the device that completes a read. -/
inductive ThreadAction where
  | readFile
  | completeRead (inputReport : List UInt8)
  | setEvent
  | waitForReadEvent
  | inspect
deriving DecidableEq, Repr

/-- A read left some bytes in the buffer, or the main thread saw them there. -/
inductive Happening where
  | completed (inputReportBuffer : List UInt8)
  | inspected (inputReportBuffer : List UInt8)
deriving DecidableEq, Repr

/-- One atomic step.  A thread that is elsewhere, or a wait that times out, changes
nothing. -/
def threadStep (s : Threads) : ThreadAction → Option Happening × Option Threads
  | .readFile =>
      match s.readThread with
      | .readFile => (none, some { s with readThread := .pending })
      | _ => (none, some s)
  | .completeRead inputReport =>
      match s.readThread with
      | .pending =>
          let inputReportBuffer := overwrite s.inputReportBuffer inputReport
          (some (.completed inputReportBuffer),
            some { s with inputReportBuffer := inputReportBuffer, readThread := .setEvent })
      | _ => (none, some s)
  | .setEvent =>
      match s.readThread with
      | .setEvent => (none, some { s with readEvent := true, readThread := .readFile })
      | _ => (none, some s)
  | .waitForReadEvent =>
      match s.mainThread, s.readEvent with
      -- the event resets itself when it releases the thread
      | .waiting, true => (none, some { s with readEvent := false, mainThread := .awake })
      | _, _ => (none, some s)
  | .inspect =>
      match s.mainThread with
      | .awake =>
          (some (.inspected s.inputReportBuffer), some { s with mainThread := .waiting })
      | .waiting => (none, some s)

/-- The threads when the read thread has allocated the buffer. -/
def Threads.start (inputReportBuffer : List UInt8) : Threads where
  inputReportBuffer := inputReportBuffer
  readEvent := false
  readThread := .readFile
  mainThread := .waiting

abbrev ThreadTransition := Transition Threads ThreadAction (Option Happening)

/-- What happens in a run, oldest first. -/
def happenings (ts : List ThreadTransition) : List Happening :=
  ts.filterMap Transition.output

/-! ## Each report once -/

/-- The report in the buffer until it is inspected: what it is after some happenings. -/
def uninspected : Option (List UInt8) → List Happening → Option (List UInt8)
  | report, [] => report
  | _, .completed buffer :: hs => uninspected (some buffer) hs
  | _, .inspected _ :: hs => uninspected none hs

/-- Reads complete only when nothing is left to inspect, and an inspection sees what
the read before it left. -/
def InTurn : Option (List UInt8) → List Happening → Prop
  | _, [] => True
  | none, .completed buffer :: hs => InTurn (some buffer) hs
  | some report, .inspected buffer :: hs => buffer = report ∧ InTurn none hs
  | some _, .completed _ :: _ => False
  | none, .inspected _ :: _ => False

/-- Each report that completes a read is inspected exactly once before the next read
completes. -/
def EachInspectedOnce (hs : List Happening) : Prop :=
  InTurn none hs

theorem uninspected_append (report : Option (List UInt8)) (hs : List Happening)
    (h : Happening) :
    uninspected report (hs ++ [h]) = uninspected (uninspected report hs) [h] := by
  induction hs generalizing report with
  | nil => rfl
  | cons first hs ih =>
      cases first with
      | completed buffer => exact ih (some buffer)
      | inspected buffer => exact ih none

theorem inTurn_append (report : Option (List UInt8)) (hs : List Happening) (h : Happening) :
    InTurn report (hs ++ [h]) ↔ InTurn report hs ∧ InTurn (uninspected report hs) [h] := by
  induction hs generalizing report with
  | nil => simp [InTurn, uninspected]
  | cons first hs ih =>
      cases first with
      | completed buffer =>
          cases report with
          | none => exact ih (some buffer)
          | some report => simp [InTurn]
      | inspected buffer =>
          cases report with
          | none => simp [InTurn]
          | some report =>
              rw [List.cons_append, InTurn, InTurn, ih none, and_assoc]
              rfl

/-- A read may complete once nothing is left to inspect. -/
theorem eachInspectedOnce_append_completed (hs : List Happening) (buffer : List UInt8) :
    EachInspectedOnce (hs ++ [.completed buffer]) ↔
      EachInspectedOnce hs ∧ uninspected none hs = none := by
  rw [EachInspectedOnce, inTurn_append, EachInspectedOnce]
  cases uninspected none hs with
  | none => simp [InTurn]
  | some report => simp [InTurn]

/-- An inspection sees the report that is left. -/
theorem eachInspectedOnce_append_inspected (hs : List Happening) (buffer : List UInt8) :
    EachInspectedOnce (hs ++ [.inspected buffer]) ↔
      EachInspectedOnce hs ∧ uninspected none hs = some buffer := by
  rw [EachInspectedOnce, inTurn_append, EachInspectedOnce]
  cases uninspected none hs with
  | none => simp [InTurn]
  | some report => simp [InTurn, eq_comm]

/-! ## Quiet reads -/

/-- A read completes while the event is clear and the main thread waits. -/
def QuietRead (t : ThreadTransition) : Prop :=
  ∀ buffer, t.output = some (.completed buffer) →
    t.before.readEvent = false ∧ t.before.mainThread = .waiting

/-- Who is to move: the read thread reads, or the report of the last read is in the
buffer and exactly one of the two threads and the event knows of it. -/
def WhoseTurn (s : Threads) : Option (List UInt8) → Prop
  | none => s.readThread ≠ .setEvent ∧ s.readEvent = false ∧ s.mainThread = .waiting
  | some report => s.inputReportBuffer = report ∧
      (s.readThread = .setEvent ∧ s.readEvent = false ∧ s.mainThread = .waiting ∨
        s.readThread ≠ .setEvent ∧ s.readEvent = true ∧ s.mainThread = .waiting ∨
        s.readThread ≠ .setEvent ∧ s.readEvent = false ∧ s.mainThread = .awake)

/-- As long as reads complete quietly, reads and inspections alternate and the threads
take turns. -/
def InStep (ts : List ThreadTransition) (s : Threads) : Prop :=
  (EachInspectedOnce (happenings ts) ↔ ∀ t ∈ ts, QuietRead t) ∧
    ((∀ t ∈ ts, QuietRead t) → WhoseTurn s (uninspected none (happenings ts)))

/-- A step in which nothing happens. -/
theorem InStep.silent {ts : List ThreadTransition} {s s' : Threads} {a : ThreadAction}
    (h : InStep ts s) (hsilent : (threadStep s a).1 = none)
    (hturn : ∀ report, WhoseTurn s report → WhoseTurn s' report) :
    InStep (ts ++ [transition threadStep s a]) s' := by
  have hquiet : (∀ t ∈ ts ++ [transition threadStep s a], QuietRead t) ↔ ∀ t ∈ ts, QuietRead t := by
    rw [List.forall_mem_append]
    simp [QuietRead, hsilent]
  have hsame : happenings (ts ++ [transition threadStep s a]) = happenings ts := by
    simp [happenings, hsilent]
  rw [InStep, hsame, hquiet]
  exact ⟨h.1, fun hq => hturn _ (h.2 hq)⟩

/-- In a pending read nothing is left to inspect exactly when it is quiet. -/
theorem WhoseTurn.eq_none_iff {s : Threads} {report : Option (List UInt8)}
    (h : WhoseTurn s report) (hpending : s.readThread = .pending) :
    report = none ↔ s.readEvent = false ∧ s.mainThread = .waiting := by
  cases report with
  | none => exact iff_of_true rfl h.2
  | some report =>
      apply iff_of_false (Option.some_ne_none report)
      rintro ⟨hevent, hmain⟩
      obtain ⟨-, ⟨hset, -⟩ | ⟨-, hset, -⟩ | ⟨-, -, hawake⟩⟩ := h
      · simp [hpending] at hset
      · simp [hevent] at hset
      · simp [hmain] at hawake

/-- A thread that is awake has a report to inspect. -/
theorem WhoseTurn.of_awake {s : Threads} {report : Option (List UInt8)}
    (h : WhoseTurn s report) (hawake : s.mainThread = .awake) :
    report = some s.inputReportBuffer ∧ s.readThread ≠ .setEvent ∧ s.readEvent = false := by
  cases report with
  | none => simp [WhoseTurn, hawake] at h
  | some report =>
      obtain ⟨hbuffer, ⟨-, -, hwaiting⟩ | ⟨-, -, hwaiting⟩ | ⟨hread, hevent, -⟩⟩ := h
      · simp [hawake] at hwaiting
      · simp [hawake] at hwaiting
      · exact ⟨congrArg some hbuffer.symm, hread, hevent⟩

theorem InStep.completeRead {ts : List ThreadTransition} {s s' : Threads}
    (h : InStep ts s) (hpending : s.readThread = .pending) (inputReport : List UInt8)
    (hs' : s' = { s with
      inputReportBuffer := overwrite s.inputReportBuffer inputReport
      readThread := .setEvent }) :
    InStep (ts ++ [transition threadStep s (.completeRead inputReport)]) s' := by
  have hquiet : (∀ t ∈ ts ++ [transition threadStep s (.completeRead inputReport)],
      QuietRead t) ↔
        (∀ t ∈ ts, QuietRead t) ∧ s.readEvent = false ∧ s.mainThread = .waiting := by
    rw [List.forall_mem_append]
    simp [QuietRead, threadStep, hpending]
  have hhappened : happenings (ts ++ [transition threadStep s (.completeRead inputReport)]) =
      happenings ts ++ [.completed (overwrite s.inputReportBuffer inputReport)] := by
    simp [happenings, threadStep, hpending]
  rw [InStep, hquiet, hhappened, eachInspectedOnce_append_completed, h.1]
  constructor
  · apply and_congr_right
    intro hq
    exact (h.2 hq).eq_none_iff hpending
  · rintro ⟨-, hevent, hmain⟩
    rw [uninspected_append, hs']
    exact ⟨rfl, .inl ⟨rfl, hevent, hmain⟩⟩

theorem InStep.inspect {ts : List ThreadTransition} {s s' : Threads}
    (h : InStep ts s) (hawake : s.mainThread = .awake)
    (hs' : s' = { s with mainThread := .waiting }) :
    InStep (ts ++ [transition threadStep s .inspect]) s' := by
  have hquiet : (∀ t ∈ ts ++ [transition threadStep s .inspect], QuietRead t) ↔
      ∀ t ∈ ts, QuietRead t := by
    rw [List.forall_mem_append]
    simp [QuietRead, threadStep, hawake]
  have hhappened : happenings (ts ++ [transition threadStep s .inspect]) =
      happenings ts ++ [.inspected s.inputReportBuffer] := by
    simp [happenings, threadStep, hawake]
  rw [InStep, hquiet, hhappened, eachInspectedOnce_append_inspected, h.1]
  constructor
  · apply and_iff_left_of_imp
    intro hq
    exact ((h.2 hq).of_awake hawake).1
  · intro hq
    obtain ⟨-, hread, hevent⟩ := (h.2 hq).of_awake hawake
    rw [uninspected_append, hs']
    exact ⟨hread, hevent, rfl⟩

/-- A thread that is elsewhere changes nothing. -/
theorem InStep.stay {ts : List ThreadTransition} {s s' : Threads} {a : ThreadAction}
    (h : InStep ts s) (hstay : threadStep s a = (none, some s))
    (hstep : (threadStep s a).2 = some s') :
    InStep (ts ++ [transition threadStep s a]) s' := by
  rw [hstay] at hstep
  cases hstep
  exact h.silent (by rw [hstay]) fun _ => id

/-- Every step keeps the threads in step. -/
theorem InStep.step {ts : List ThreadTransition} {s s' : Threads} {a : ThreadAction}
    (h : InStep ts s) (hstep : (threadStep s a).2 = some s') :
    InStep (ts ++ [transition threadStep s a]) s' := by
  cases a with
  | readFile =>
      cases hread : s.readThread with
      | readFile =>
          obtain rfl : { s with readThread := .pending } = s' := by
            simpa [threadStep, hread] using hstep
          apply h.silent (by simp [threadStep, hread])
          intro report hturn
          cases report with
          | none => simpa [WhoseTurn, hread] using hturn
          | some report => simpa [WhoseTurn, hread] using hturn
      | pending => exact h.stay (by simp [threadStep, hread]) hstep
      | setEvent => exact h.stay (by simp [threadStep, hread]) hstep
  | completeRead inputReport =>
      cases hread : s.readThread with
      | readFile => exact h.stay (by simp [threadStep, hread]) hstep
      | pending =>
          apply h.completeRead hread inputReport
          simpa [threadStep, hread, eq_comm] using hstep
      | setEvent => exact h.stay (by simp [threadStep, hread]) hstep
  | setEvent =>
      cases hread : s.readThread with
      | readFile => exact h.stay (by simp [threadStep, hread]) hstep
      | pending => exact h.stay (by simp [threadStep, hread]) hstep
      | setEvent =>
          obtain rfl : { s with readEvent := true, readThread := .readFile } = s' := by
            simpa [threadStep, hread] using hstep
          apply h.silent (by simp [threadStep, hread])
          intro report hturn
          cases report with
          | none => exact absurd hread hturn.1
          | some report =>
              have hwaiting : s.inputReportBuffer = report ∧ s.readEvent = false ∧
                  s.mainThread = .waiting := by
                simpa [WhoseTurn, hread] using hturn
              exact ⟨hwaiting.1, .inr (.inl ⟨nofun, rfl, hwaiting.2.2⟩)⟩
  | waitForReadEvent =>
      cases hmain : s.mainThread with
      | awake => exact h.stay (by simp [threadStep, hmain]) hstep
      | waiting =>
          cases hevent : s.readEvent with
          | false => exact h.stay (by simp [threadStep, hmain, hevent]) hstep
          | true =>
              obtain rfl : { s with readEvent := false, mainThread := .awake } = s' := by
                simpa [threadStep, hmain, hevent] using hstep
              apply h.silent (by simp [threadStep, hmain, hevent])
              intro report hturn
              cases report with
              | none => simp [WhoseTurn, hevent] at hturn
              | some report => simpa [WhoseTurn, hmain, hevent] using hturn
  | inspect =>
      cases hmain : s.mainThread with
      | waiting => exact h.stay (by simp [threadStep, hmain]) hstep
      | awake =>
          apply h.inspect hmain
          simpa [threadStep, hmain, eq_comm] using hstep

/-! ## Runs of both threads -/

theorem inStep_start (inputReportBuffer : List UInt8) :
    InStep [] (.start inputReportBuffer) := by
  refine ⟨?_, fun _ => ⟨nofun, rfl, rfl⟩⟩
  simp [happenings, EachInspectedOnce, InTurn]

/-- No step stops the threads. -/
theorem exists_threadStep (s : Threads) (a : ThreadAction) :
    ∃ s', (threadStep s a).2 = some s' := by
  obtain ⟨buffer, event, readThread, mainThread⟩ := s
  cases a <;> cases readThread <;> cases mainThread <;> cases event <;> exact ⟨_, rfl⟩

/-- Every order of steps keeps the threads in step. -/
theorem inStep_of_run (inputReportBuffer : List UInt8) (actions : List ThreadAction) :
    ∃ s, finalState threadStep (.start inputReportBuffer) actions = some s ∧
      InStep (trace threadStep (.start inputReportBuffer) actions) s := by
  obtain ⟨s, hfinal⟩ : ∃ s, finalState threadStep (.start inputReportBuffer) actions = some s := by
    induction actions using List.reverseRecOn with
    | nil => exact ⟨_, rfl⟩
    | append_singleton actions a ih =>
        obtain ⟨s, hreach⟩ := ih
        obtain ⟨s', hstep⟩ := exists_threadStep s a
        exact ⟨s', by rw [finalState_append_singleton, hreach, Option.bind_some, hstep]⟩
  refine ⟨s, hfinal, ?_⟩
  exact history_of_step InStep (inStep_start inputReportBuffer)
    (fun _ _ _ _ hpre hstep => hpre.step hstep) hfinal

/-- In every order of steps of the two threads, each report is inspected exactly once
before the next read completes if and only if each read completes while the event is
clear and the main thread waits. -/
theorem eachInspectedOnce_iff (inputReportBuffer : List UInt8) (actions : List ThreadAction) :
    EachInspectedOnce (happenings (trace threadStep (.start inputReportBuffer) actions)) ↔
      ∀ t ∈ trace threadStep (.start inputReportBuffer) actions, QuietRead t := by
  obtain ⟨s, -, hturn⟩ := inStep_of_run inputReportBuffer actions
  exact hturn.1

/-- The main thread comes too late to the first of two reads. -/
theorem lateInspection_misses_report :
    ¬ EachInspectedOnce (happenings (trace threadStep (.start [0]) [.readFile, .completeRead [1],
      .setEvent, .readFile, .completeRead [2], .setEvent, .waitForReadEvent, .inspect])) :=
  id

/-! ## Reports in order -/

/-- What the reads left in the buffer. -/
def completedReads (hs : List Happening) : List (List UInt8) :=
  hs.filterMap fun
    | .completed buffer => some buffer
    | .inspected _ => none

/-- What the main thread saw there. -/
def inspectedReads (hs : List Happening) : List (List UInt8) :=
  hs.filterMap fun
    | .completed _ => none
    | .inspected buffer => some buffer

theorem InTurn.completed_eq {report : Option (List UInt8)} {hs : List Happening}
    (h : InTurn report hs) :
    report.toList ++ completedReads hs = inspectedReads hs ++ (uninspected report hs).toList := by
  induction hs generalizing report with
  | nil => simp [completedReads, inspectedReads, uninspected]
  | cons first hs ih =>
      cases first with
      | completed buffer =>
          cases report with
          | none => exact ih h
          | some report => exact h.elim
      | inspected buffer =>
          cases report with
          | none => exact h.elim
          | some report =>
              obtain ⟨rfl, hrest⟩ := h
              exact congrArg (List.cons buffer) (ih hrest)

/-- When each report is inspected once, the main thread sees the completed reads in
order, up to the last of them. -/
theorem EachInspectedOnce.completed_eq {hs : List Happening} (h : EachInspectedOnce hs) :
    completedReads hs = inspectedReads hs ++ (uninspected none hs).toList :=
  InTurn.completed_eq h

end Tool
end CFU
