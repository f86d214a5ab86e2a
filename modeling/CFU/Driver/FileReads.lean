import CFU.Driver.FirmwareFiles

/-!
# CFU driver - the exits of a file read

{lit}`Firmware_FileContentRead` returns what the last system call before its exit left in
a variable.  When the buffer of a file cannot be allocated that is the value of
{lit}`GetFileSizeEx`, so the callers take a handle that is not there.  The loop over
{lit}`ReadFile` ends when every read makes progress; a read that succeeds without a byte
is met by an assertion and nothing else.

Main results:

- Theorem {lit}`no_missing_buffer_iff`: when the callers never ask for the buffer of no
  handle.
- Definition {lit}`fileReads`: the reads that the loop makes.
- Theorem {lit}`read_loop_ends_iff`: when the loop ends, keeps its assertion and hands out
  what was delivered.
-/

namespace CFU
namespace Driver

open Buffer EventRuns

/-! ## Buffers that cannot be allocated -/

/-- {lit}`TRUE` comes with a valid memory object. -/
def ReturnsMemory (ops : FileOps) : Prop :=
  ∀ fileContentMemory, firmwareFileContentRead ops = some (true, fileContentMemory) →
    fileContentMemory ≠ none

/-- The file was opened and its size is known, but there is no buffer for it. -/
structure AllocationFails (ops : FileOps) : Prop where
  createFile : ops.createFile = true
  getFileSizeEx : ops.getFileSizeEx ≠ none
  memoryCreate : ops.memoryCreate = none

section Allocation

variable {ops : FileOps}

/-- The value of {lit}`GetFileSizeEx` is returned then. -/
theorem firmwareFileContentRead_of_allocationFails (h : AllocationFails ops) :
    firmwareFileContentRead ops = some (true, none) := by
  obtain ⟨fileSize, hsize⟩ := Option.ne_none_iff_exists'.mp h.getFileSizeEx
  simp [firmwareFileContentRead, h.createFile, hsize, h.memoryCreate]

/-- Every other exit with {lit}`TRUE` is behind the loop, and leaves the buffer. -/
theorem allocationFails_of_read (h : firmwareFileContentRead ops = some (true, none)) :
    AllocationFails ops := by
  unfold firmwareFileContentRead at h
  cases hopen : ops.createFile with
  | false => simp [hopen] at h
  | true =>
      cases hsize : ops.getFileSizeEx with
      | none => simp [hopen, hsize] at h
      | some fileSize =>
          cases hfresh : ops.memoryCreate with
          | none => exact ⟨hopen, by simp [hsize], hfresh⟩
          | some fresh => simp [hopen, hsize, hfresh] at h

theorem returnsMemory_iff (ops : FileOps) : ReturnsMemory ops ↔ ¬ AllocationFails ops := by
  constructor
  · intro hreturns hfails
    exact hreturns none (firmwareFileContentRead_of_allocationFails hfails) rfl
  · rintro hmemory fileContentMemory hread rfl
    exact hmemory (allocationFails_of_read hread)

/-- A call asks for the buffer of no handle exactly when it finds nothing cached and
cannot allocate. -/
theorem contentGet_noHandle_iff (ops : FileOps) (content : Option (List UInt8)) :
    (contentGet ops content).1 = .noHandle ↔ content = none ∧ AllocationFails ops := by
  cases content with
  | some memory => simp [contentGet, wdfMemoryGetBuffer]
  | none =>
      constructor
      · intro houtcome
        refine ⟨rfl, allocationFails_of_read ?_⟩
        unfold contentGet at houtcome
        cases hread : firmwareFileContentRead ops with
        | none => simp [hread] at houtcome
        | some result =>
            obtain ⟨returnValue, memory⟩ := result
            cases returnValue with
            | false => simp [hread] at houtcome
            | true =>
                cases memory with
                | none => rfl
                | some buffer => simp [hread, wdfMemoryGetBuffer] at houtcome
      · rintro ⟨-, hfails⟩
        rw [contentGet, firmwareFileContentRead_of_allocationFails hfails]
        rfl

/-- {lit}`Firmware_FileContentRead` returns {lit}`TRUE` with a memory object, and in a
sequence of calls no buffer of {lit}`WDF_NO_HANDLE` is asked for, exactly when no file
that is read is one that was opened and measured but has no buffer. -/
theorem no_missing_buffer_iff {Name : Type} {m : ℕ} (pairs : Fin m → Name × Name) :
    (∀ ops, ReturnsMemory ops ↔ ¬ AllocationFails ops) ∧
      ∀ calls,
        (∀ t ∈ trace step (firmwareBlobCollection pairs) calls, t.output ≠ .noHandle) ↔
          ∀ t ∈ trace step (firmwareBlobCollection pairs) calls,
            ¬ (cached t.before t.event = none ∧ AllocationFails t.event.ops) := by
  refine ⟨returnsMemory_iff, ?_⟩
  intro calls
  have houtput : ∀ t ∈ trace step (firmwareBlobCollection pairs) calls,
      t.output = .noHandle ↔ cached t.before t.event = none ∧ AllocationFails t.event.ops := by
    intro t ht
    have hstep : t.output = (getFile t.before t.event).1 := by
      rw [eq_transition_of_mem_trace ht]
      rfl
    rw [hstep, getFile_outcome, contentGet_noHandle_iff]
  constructor
  · intro hnever t ht hfails
    exact hnever t ht ((houtput t ht).mpr hfails)
  · intro hnever t ht hmissing
    exact hnever t ht ((houtput t ht).mp hmissing)

/-- An offer file without bytes, for which {lit}`WdfMemoryCreate` has no buffer. -/
def emptyOfferCall : GetCall 1 where
  side := .offer
  firmwarePairIndex := onlyPair
  ops :=
    { createFile := true
      getFileSizeEx := some 0
      memoryCreate := none
      readFile := [] }

/-- The read of an empty offer returns {lit}`TRUE` without a memory object, and the
caller asks for its buffer. -/
theorem empty_offer_has_no_buffer :
    ¬ ReturnsMemory emptyOfferCall.ops ∧
      ¬ ∀ t ∈ trace step (firmwareBlobCollection samplePairs) [emptyOfferCall],
        t.output ≠ .noHandle := by
  constructor
  · intro hreturns
    exact hreturns none rfl rfl
  · intro hnever
    exact hnever _ List.mem_cons_self rfl

end Allocation

/-! ## The reads of the loop -/

/-- One {lit}`ReadFile`: where it stores, what it asks for, what it stores if it
succeeds, and the number of bytes that remain behind it. -/
structure FileRead where
  readBuffer : ℕ
  sizeOfOneRead : ℕ
  stored : Option (List UInt8)
  bytesRemaining : ℕ

/-- The reads that the loop makes. -/
def fileReads : List (Option (List UInt8)) → ReadLoop → List FileRead
  | [], _ => []
  | outcome :: outcomes, l =>
      if l.bytesRemaining = 0 then []
      else
        match outcome with
        | none => [⟨l.readBuffer, sizeOfOneRead l.bytesRemaining, none, l.bytesRemaining⟩]
        | some offered =>
            ⟨l.readBuffer, sizeOfOneRead l.bytesRemaining, some (l.delivered offered),
              (l.store offered).bytesRemaining⟩ :: fileReads outcomes (l.store offered)

/-- The bytes that the reads delivered. -/
def deliveredBytes (reads : List FileRead) : List UInt8 :=
  reads.flatMap fun r => r.stored.getD []

/-- The first outcomes of a sequence. -/
def firstOutcomes (outcomes : ℕ → Option (List UInt8)) (n : ℕ) : List (Option (List UInt8)) :=
  (List.range n).map outcomes

/-- The loop on a file of some size: it ends, its reads store inside the buffer and keep
the assertion, and when it ends with {lit}`TRUE` nothing remains and the buffer holds
what was delivered. -/
structure ReadsThrough (fileSize : ℕ) (fresh : ℕ → UInt8)
    (outcomes : ℕ → Option (List UInt8)) : Prop where
  ends : ∃ n l, readLoop (firstOutcomes outcomes n) (.start fileSize fresh) = some l
  inside : ∀ n, ∀ r ∈ fileReads (firstOutcomes outcomes n) (.start fileSize fresh),
    r.readBuffer + r.sizeOfOneRead ≤ fileSize ∧
      ∀ bytes, r.stored = some bytes → bytes.length ≤ r.sizeOfOneRead
  assertion : ∀ n, ∀ r ∈ fileReads (firstOutcomes outcomes n) (.start fileSize fresh),
    r.stored = some [] → r.bytesRemaining = 0
  whole : ∀ n l, readLoop (firstOutcomes outcomes n) (.start fileSize fresh) = some l →
    l.returnValue = true →
      l.bytesRemaining = 0 ∧ l.fileContentBuffer =
        deliveredBytes (fileReads (firstOutcomes outcomes n) (.start fileSize fresh))

/-- One of these reads succeeds without a byte while bytes remain. -/
def StallsWithin : List (Option (List UInt8)) → ℕ → Prop
  | [], _ => False
  | none :: _, _ => False
  | some offered :: outcomes, bytesRemaining =>
      0 < bytesRemaining ∧
        (offered = [] ∨ StallsWithin outcomes
          (bytesRemaining - (offered.take (sizeOfOneRead bytesRemaining)).length))

section Loop

variable {l l' : ReadLoop} {offered : List UInt8} {outcomes : ℕ → Option (List UInt8)}

@[simp]
theorem firstOutcomes_zero (outcomes : ℕ → Option (List UInt8)) :
    firstOutcomes outcomes 0 = [] :=
  rfl

/-- The first outcome, and those behind it. -/
theorem firstOutcomes_succ (outcomes : ℕ → Option (List UInt8)) (n : ℕ) :
    firstOutcomes outcomes (n + 1) =
      outcomes 0 :: firstOutcomes (fun k => outcomes (k + 1)) n := by
  rw [firstOutcomes, List.range_succ_eq_map, List.map_cons, List.map_map]
  rfl

theorem sizeOfOneRead_le (bytesRemaining : ℕ) : sizeOfOneRead bytesRemaining ≤ bytesRemaining := by
  unfold sizeOfOneRead
  split <;> omega

theorem sizeOfOneRead_pos {bytesRemaining : ℕ} (h : 0 < bytesRemaining) :
    0 < sizeOfOneRead bytesRemaining := by
  unfold sizeOfOneRead
  split
  · exact h
  · exact Nat.succ_pos _

theorem length_delivered_le (l : ReadLoop) (offered : List UInt8) :
    (l.delivered offered).length ≤ sizeOfOneRead l.bytesRemaining :=
  List.length_take_le _ _

/-- A read that succeeds with a byte makes progress. -/
theorem store_bytesRemaining_lt (hopen : 0 < l.bytesRemaining) (hbyte : offered ≠ []) :
    (l.store offered).bytesRemaining < l.bytesRemaining := by
  have hsize := sizeOfOneRead_pos hopen
  have hoffered := List.length_pos_of_ne_nil hbyte
  have hdelivered : 0 < (l.delivered offered).length := by
    rw [ReadLoop.delivered, List.length_take]
    omega
  show l.bytesRemaining - (l.delivered offered).length < l.bytesRemaining
  omega

/-- The loop ends if no read stalls it. -/
theorem readLoop_ends
    (hmoves : ∀ n, ¬ StallsWithin (firstOutcomes outcomes n) l.bytesRemaining) :
    ∃ n l', readLoop (firstOutcomes outcomes n) l = some l' := by
  -- by the number of bytes that remain
  induction hremaining : l.bytesRemaining using Nat.strongRecOn
    generalizing l outcomes with
  | _ bytesRemaining ih =>
      by_cases hdone : l.bytesRemaining = 0
      · exact ⟨0, l, readLoop_done hdone _⟩
      · have hopen : 0 < l.bytesRemaining := Nat.pos_of_ne_zero hdone
        cases houtcome : outcomes 0 with
        | none =>
            refine ⟨1, { l with returnValue := false }, ?_⟩
            rw [firstOutcomes_succ, houtcome, readLoop, if_neg hdone]
        | some offered =>
            have hbyte : offered ≠ [] := by
              rintro rfl
              apply hmoves 1
              rw [firstOutcomes_succ, houtcome]
              exact ⟨hopen, .inl rfl⟩
            have hless : (l.store offered).bytesRemaining < bytesRemaining := by
              rw [← hremaining]
              exact store_bytesRemaining_lt hopen hbyte
            have hrest : ∀ n, ¬ StallsWithin (firstOutcomes (fun k => outcomes (k + 1)) n)
                (l.store offered).bytesRemaining := by
              intro n hstalls
              apply hmoves (n + 1)
              rw [firstOutcomes_succ, houtcome]
              exact ⟨hopen, .inr hstalls⟩
            obtain ⟨n, l', hrun⟩ := ih _ hless hrest rfl
            refine ⟨n + 1, l', ?_⟩
            rw [firstOutcomes_succ, houtcome, readLoop, if_neg hdone]
            exact hrun

/-- What is stored and what remains make up the buffer. -/
structure SpansFile (fileSize : ℕ) (l : ReadLoop) : Prop where
  position : l.readBuffer + l.bytesRemaining = fileSize
  length : l.fileContentBuffer.length = fileSize

theorem spansFile_start (fileSize : ℕ) (fresh : ℕ → UInt8) :
    SpansFile fileSize (.start fileSize fresh) where
  position := Nat.zero_add fileSize
  length := by simp [ReadLoop.start]

theorem SpansFile.store {fileSize : ℕ} (h : SpansFile fileSize l) (offered : List UInt8) :
    SpansFile fileSize (l.store offered) := by
  have hposition := h.position
  have hdelivered := length_delivered_le l offered
  have hsize := sizeOfOneRead_le l.bytesRemaining
  constructor
  · show l.readBuffer + (l.delivered offered).length +
      (l.bytesRemaining - (l.delivered offered).length) = fileSize
    omega
  · rw [← h.length]
    apply length_storeAt
    rw [h.length]
    omega

/-- When nothing remains, the part that is stored is the buffer. -/
theorem SpansFile.take_of_done {fileSize : ℕ} (h : SpansFile fileSize l)
    (hdone : l.bytesRemaining = 0) :
    l.fileContentBuffer.take l.readBuffer = l.fileContentBuffer := by
  have hposition := h.position
  apply List.take_of_length_le
  rw [h.length]
  omega

/-- Every read is inside the buffer. -/
theorem fileReads_inside {fileSize : ℕ} (h : SpansFile fileSize l)
    (os : List (Option (List UInt8))) :
    ∀ r ∈ fileReads os l, r.readBuffer + r.sizeOfOneRead ≤ fileSize ∧
      ∀ bytes, r.stored = some bytes → bytes.length ≤ r.sizeOfOneRead := by
  induction os generalizing l with
  | nil => simp [fileReads]
  | cons outcome os ih =>
      have hposition := h.position
      have hsize := sizeOfOneRead_le l.bytesRemaining
      have hinside : l.readBuffer + sizeOfOneRead l.bytesRemaining ≤ fileSize := by omega
      intro r hr
      by_cases hdone : l.bytesRemaining = 0
      · simp [fileReads, hdone] at hr
      · cases outcome with
        | none =>
            rw [fileReads, if_neg hdone, List.mem_singleton] at hr
            rw [hr]
            exact ⟨hinside, by simp⟩
        | some offered =>
            rw [fileReads, if_neg hdone, List.mem_cons] at hr
            rcases hr with rfl | hr
            · refine ⟨hinside, ?_⟩
              rintro bytes ⟨⟩
              exact length_delivered_le l offered
            · exact ih (h.store offered) r hr

/-- A read of some remaining bytes stores nothing only if there is nothing to store. -/
theorem delivered_eq_nil_iff (hopen : 0 < l.bytesRemaining) (offered : List UInt8) :
    l.delivered offered = [] ↔ offered = [] := by
  have hsize := sizeOfOneRead_pos hopen
  rw [ReadLoop.delivered, List.take_eq_nil_iff]
  constructor
  · rintro (hzero | hnil)
    · omega
    · exact hnil
  · exact .inr

/-- The assertion fails if one of the reads stalls the loop. -/
theorem assertion_fails_iff (os : List (Option (List UInt8))) (l : ReadLoop) :
    (∃ r ∈ fileReads os l, r.stored = some [] ∧ r.bytesRemaining ≠ 0) ↔
      StallsWithin os l.bytesRemaining := by
  induction os generalizing l with
  | nil => simp [fileReads, StallsWithin]
  | cons outcome os ih =>
      by_cases hdone : l.bytesRemaining = 0
      · cases outcome with
        | none => simp [fileReads, StallsWithin, hdone]
        | some offered => simp [fileReads, StallsWithin, hdone]
      · cases outcome with
        | none => simp [fileReads, StallsWithin, hdone]
        | some offered =>
            have hopen : 0 < l.bytesRemaining := Nat.pos_of_ne_zero hdone
            have hremaining : (l.store offered).bytesRemaining =
                l.bytesRemaining - (l.delivered offered).length := rfl
            rw [fileReads, if_neg hdone]
            simp only [List.exists_mem_cons_iff]
            constructor
            · rintro (⟨hstored, -⟩ | hrest)
              · rw [Option.some.injEq, delivered_eq_nil_iff hopen] at hstored
                exact ⟨hopen, .inl hstored⟩
              · exact ⟨hopen, .inr ((ih _).mp hrest)⟩
            · rintro ⟨-, hnil | hrest⟩
              · have hnothing := (delivered_eq_nil_iff hopen offered).mpr hnil
                refine .inl ⟨congrArg some hnothing, ?_⟩
                show (l.store offered).bytesRemaining ≠ 0
                rw [hremaining, hnothing]
                exact hdone
              · exact .inr ((ih _).mpr hrest)

/-- When the loop ends with {lit}`TRUE`, the buffer is full, and the reads delivered what
was stored in it. -/
theorem readLoop_whole {fileSize : ℕ} (h : SpansFile fileSize l)
    {os : List (Option (List UInt8))} (hrun : readLoop os l = some l')
    (htrue : l'.returnValue = true) :
    l'.bytesRemaining = 0 ∧ l'.fileContentBuffer =
      l.fileContentBuffer.take l.readBuffer ++ deliveredBytes (fileReads os l) := by
  induction os generalizing l with
  | nil =>
      by_cases hdone : l.bytesRemaining = 0
      · rw [readLoop_done hdone, Option.some.injEq] at hrun
        rw [← hrun]
        exact ⟨hdone, by simp [fileReads, deliveredBytes, h.take_of_done hdone]⟩
      · rw [readLoop, if_neg hdone] at hrun
        cases hrun
  | cons outcome os ih =>
      by_cases hdone : l.bytesRemaining = 0
      · rw [readLoop_done hdone, Option.some.injEq] at hrun
        rw [← hrun]
        exact ⟨hdone, by simp [fileReads, hdone, deliveredBytes, h.take_of_done hdone]⟩
      · cases outcome with
        | none =>
            rw [readLoop, if_neg hdone, Option.some.injEq] at hrun
            rw [← hrun] at htrue
            cases htrue
        | some offered =>
            rw [readLoop, if_neg hdone] at hrun
            obtain ⟨hnone, hbuffer⟩ := ih (h.store offered) hrun
            refine ⟨hnone, ?_⟩
            have hroom : l.readBuffer ≤ l.fileContentBuffer.length := by
              have hposition := h.position
              rw [h.length]
              omega
            have hstored : (l.store offered).fileContentBuffer.take (l.store offered).readBuffer =
                l.fileContentBuffer.take l.readBuffer ++ l.delivered offered :=
              take_storeAt hroom _
            rw [hbuffer, hstored, fileReads, if_neg hdone, List.append_assoc]
            rfl

/-- For every size of the file and every sequence of outcomes, the loop ends after
finitely many reads, stores inside the buffer, keeps its assertion, and when it ends with
{lit}`TRUE` hands out what was delivered, exactly when no read that it comes to succeeds
without a byte. -/
theorem read_loop_ends_iff (fileSize : ℕ) (fresh : ℕ → UInt8)
    (outcomes : ℕ → Option (List UInt8)) :
    ReadsThrough fileSize fresh outcomes ↔
      ∀ n, ¬ StallsWithin (firstOutcomes outcomes n) fileSize := by
  constructor
  · intro hthrough n hstalls
    obtain ⟨r, hr, hnothing, hremaining⟩ :=
      (assertion_fails_iff _ (.start fileSize fresh)).mpr hstalls
    exact hremaining (hthrough.assertion n r hr hnothing)
  · intro hmoves
    have hspans := spansFile_start fileSize fresh
    refine ⟨readLoop_ends hmoves, fun n => fileReads_inside hspans _, ?_, ?_⟩
    · intro n r hr hnothing
      by_contra hremaining
      exact hmoves n ((assertion_fails_iff _ (.start fileSize fresh)).mp
        ⟨r, hr, hnothing, hremaining⟩)
    · intro n l hrun htrue
      exact readLoop_whole hspans hrun htrue

/-- A file that was cut off after its size was read: every read is at its end. -/
theorem cut_off_file_spins :
    (∀ n, readLoop (firstOutcomes (fun _ => some []) n) (.start 1 fun _ => 0) = none) ∧
      ¬ ReadsThrough 1 (fun _ => 0) fun _ => some [] := by
  constructor
  · intro n
    have hspins : ∀ l : ReadLoop, l.bytesRemaining ≠ 0 →
        readLoop (firstOutcomes (fun _ => some []) n) l = none := by
      induction n with
      | zero =>
          intro l hopen
          exact if_neg hopen
      | succ n ih =>
          intro l hopen
          rw [firstOutcomes_succ, readLoop, if_neg hopen]
          apply ih
          have hsame : (l.store []).bytesRemaining = l.bytesRemaining := by
            simp [ReadLoop.store, ReadLoop.delivered]
          rw [hsame]
          exact hopen
    exact hspins _ Nat.one_ne_zero
  · intro hthrough
    have hnone := hthrough.assertion 1 ⟨0, 1, some [], 1⟩ List.mem_cons_self rfl
    cases hnone

end Loop

end Driver
end CFU
