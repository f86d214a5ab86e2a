import CFU.Library.Bytes
import CFU.Library.Runs

/-!
# CFU driver - the contents of firmware files

The driver reads an offer file or a payload file when it is asked for it first, and
keeps the buffer for later calls.  A call hands out the buffer of an earlier one
without looking at how its reads ended, and a file whose read failed half way leaves
its buffer behind.

Main results:

- Definition {lit}`firmwareFileContentRead`: {lit}`Firmware_FileContentRead`.
- Theorem {lit}`contentGet_cases`: how a call ends that finds nothing cached.
- Theorem {lit}`cached_files_faithful_iff`: when all calls of a run hand out whole files.
-/

namespace CFU
namespace Driver

open Buffer EventRuns

/-! ## Reading a file -/

/-- {lit}`MAXDWORD` -/
def maxDword : ℕ := 2 ^ 32 - 1

/-- The outcomes of the system calls of one read: whether the file could be opened, its
size, what a fresh buffer holds, and for every {lit}`ReadFile` in turn the bytes that are
there to be read.  An outcome that is missing is a failure; a read that none of the
listed outcomes is for has not returned. -/
structure FileOps where
  createFile : Bool
  getFileSizeEx : Option ℕ
  memoryCreate : Option (ℕ → UInt8)
  readFile : List (Option (List UInt8))

/-- The number of bytes that one {lit}`ReadFile` asks for. -/
def sizeOfOneRead (bytesRemaining : ℕ) : ℕ :=
  if bytesRemaining < maxDword then bytesRemaining else maxDword

/-- The variables of the loop; {lit}`readBuffer` is counted from the start of the
buffer. -/
structure ReadLoop where
  returnValue : Bool
  bytesRemaining : ℕ
  readBuffer : ℕ
  fileContentBuffer : List UInt8

/-- The variables of the loop before the first read. -/
def ReadLoop.start (fileSize : ℕ) (fresh : ℕ → UInt8) : ReadLoop where
  returnValue := true
  bytesRemaining := fileSize
  readBuffer := 0
  fileContentBuffer := (List.range fileSize).map fresh

/-- The bytes that a read stores. -/
def ReadLoop.delivered (l : ReadLoop) (offered : List UInt8) : List UInt8 :=
  offered.take (sizeOfOneRead l.bytesRemaining)

/-- The loop body behind a successful {lit}`ReadFile`. -/
def ReadLoop.store (l : ReadLoop) (offered : List UInt8) : ReadLoop where
  returnValue := true
  bytesRemaining := l.bytesRemaining - (l.delivered offered).length
  readBuffer := l.readBuffer + (l.delivered offered).length
  fileContentBuffer := storeAt l.fileContentBuffer l.readBuffer (l.delivered offered)

/-- The loop over {lit}`ReadFile`, {lean}`none` when the outcomes do not end it. -/
def readLoop : List (Option (List UInt8)) → ReadLoop → Option ReadLoop
  | [], l => if l.bytesRemaining = 0 then some l else none
  | outcome :: outcomes, l =>
      if l.bytesRemaining = 0 then some l
      else
        match outcome with
        | none => some { l with returnValue := false }
        | some offered => readLoop outcomes (l.store offered)

/-- {lit}`Firmware_FileContentRead`: the value that it returns, and what it leaves in
{lit}`*FileContentMemory`. -/
def firmwareFileContentRead (ops : FileOps) : Option (Bool × Option (List UInt8)) :=
  if !ops.createFile then
    some (false, none)
  else
    match ops.getFileSizeEx with
    | none => some (false, none)
    | some fileSize =>
        match ops.memoryCreate with
        -- the value of GetFileSizeEx is still in returnValue
        | none => some (true, none)
        | some fresh =>
            (readLoop ops.readFile (.start fileSize fresh)).map fun l =>
              (l.returnValue, some l.fileContentBuffer)

/-! ## The cached contents -/

/-- The two files of a pair. -/
inductive Side where
  | offer
  | payload
deriving DecidableEq, Repr

/-- {lit}`DRIVER_FIRMWARE_INFORMATION`.  A content that is {lean}`none` is
{lit}`WDF_NO_HANDLE`. -/
structure DriverFirmwareInformation (Name : Type) where
  offerFileName : Name
  payloadFileName : Name
  offerContentMemory : Option (List UInt8)
  payloadContentMemory : Option (List UInt8)

/-- How a call ends: with a buffer, with {lit}`STATUS_FILE_NOT_AVAILABLE`, by asking for
the buffer of no handle, or not at all. -/
inductive GetOutcome where
  | success (firmwareBuffer : List UInt8)
  | fileNotAvailable
  | noHandle
  | unfinished
deriving DecidableEq, Repr

/-- {lit}`WdfMemoryGetBuffer` -/
def wdfMemoryGetBuffer : Option (List UInt8) → GetOutcome
  | some memory => .success memory
  | none => .noHandle

/-- The body of the two functions, on the content of their side. -/
def contentGet (ops : FileOps) : Option (List UInt8) → GetOutcome × Option (List UInt8)
  | some memory => (wdfMemoryGetBuffer (some memory), some memory)
  | none =>
      match firmwareFileContentRead ops with
      | none => (.unfinished, none)
      | some (false, memory) => (.fileNotAvailable, memory)
      | some (true, memory) => (wdfMemoryGetBuffer memory, memory)

section Get

variable {Name : Type}

/-- {lit}`ComponentFirmwareUpdateOfferGet` -/
def componentFirmwareUpdateOfferGet (ops : FileOps)
    (firmwareInformation : DriverFirmwareInformation Name) :
    GetOutcome × DriverFirmwareInformation Name :=
  let result := contentGet ops firmwareInformation.offerContentMemory
  (result.1, { firmwareInformation with offerContentMemory := result.2 })

/-- {lit}`ComponentFirmwareUpdatePayloadGet` -/
def componentFirmwareUpdatePayloadGet (ops : FileOps)
    (firmwareInformation : DriverFirmwareInformation Name) :
    GetOutcome × DriverFirmwareInformation Name :=
  let result := contentGet ops firmwareInformation.payloadContentMemory
  (result.1, { firmwareInformation with payloadContentMemory := result.2 })

/-- The name of the file of a side. -/
def DriverFirmwareInformation.fileName (firmwareInformation : DriverFirmwareInformation Name) :
    Side → Name
  | .offer => firmwareInformation.offerFileName
  | .payload => firmwareInformation.payloadFileName

/-- The cached content of a side. -/
def DriverFirmwareInformation.contentMemory
    (firmwareInformation : DriverFirmwareInformation Name) : Side → Option (List UInt8)
  | .offer => firmwareInformation.offerContentMemory
  | .payload => firmwareInformation.payloadContentMemory

end Get

/-! ## Sequences of calls -/

/-- A call for a side of a pair, with the outcomes of the system calls that it makes if
it reads the file. -/
structure GetCall (m : ℕ) where
  side : Side
  firmwarePairIndex : Fin m
  ops : FileOps

section Step

variable {Name : Type} {m : ℕ}

/-- {lit}`FirmwareBlobCollection` when the device starts: the pairs of file names that
were read from the registry. -/
def firmwareBlobCollection (pairs : Fin m → Name × Name) (i : Fin m) :
    DriverFirmwareInformation Name where
  offerFileName := (pairs i).1
  payloadFileName := (pairs i).2
  offerContentMemory := none
  payloadContentMemory := none

/-- Call the function of a side on the entry of the pair. -/
def getFile (collection : Fin m → DriverFirmwareInformation Name) (call : GetCall m) :
    GetOutcome × DriverFirmwareInformation Name :=
  match call.side with
  | .offer => componentFirmwareUpdateOfferGet call.ops (collection call.firmwarePairIndex)
  | .payload => componentFirmwareUpdatePayloadGet call.ops (collection call.firmwarePairIndex)

/-- One call of a run.  A call that does not return ends the run. -/
def step (collection : Fin m → DriverFirmwareInformation Name) (call : GetCall m) :
    GetOutcome × Option (Fin m → DriverFirmwareInformation Name) :=
  let result := getFile collection call
  (result.1,
    match result.1 with
    | .success _ | .fileNotAvailable =>
        some (Function.update collection call.firmwarePairIndex result.2)
    | .noHandle | .unfinished => none)

/-- A call of a run, with the collection before and after it. -/
abbrev GetTransition (Name : Type) (m : ℕ) :=
  Transition (Fin m → DriverFirmwareInformation Name) (GetCall m) GetOutcome

end Step

/-! ## Reads that fail half way -/

/-- One of these reads fails while bytes remain. -/
def FailsWithin : List (Option (List UInt8)) → ℕ → Prop
  | [], _ => False
  | none :: _, bytesRemaining => 0 < bytesRemaining
  | some offered :: outcomes, bytesRemaining =>
      0 < bytesRemaining ∧ FailsWithin outcomes
        (bytesRemaining - (offered.take (sizeOfOneRead bytesRemaining)).length)

/-- A read fails although the file was opened, its size is known and there is a buffer. -/
structure ReadFails (ops : FileOps) : Prop where
  createFile : ops.createFile = true
  memoryCreate : ops.memoryCreate ≠ none
  readFile : ∃ fileSize, ops.getFileSizeEx = some fileSize ∧ FailsWithin ops.readFile fileSize

/-- A loop without remaining bytes is over. -/
theorem readLoop_done {l : ReadLoop} (hdone : l.bytesRemaining = 0)
    (outcomes : List (Option (List UInt8))) : readLoop outcomes l = some l := by
  cases outcomes with
  | nil => rw [readLoop, if_pos hdone]
  | cons outcome outcomes =>
      cases outcome with
      | none => rw [readLoop, if_pos hdone]
      | some offered => rw [readLoop, if_pos hdone]

/-- A loop that sees a read fail ends with {lit}`FALSE`. -/
theorem readLoop_of_failsWithin {outcomes : List (Option (List UInt8))} {l : ReadLoop}
    (h : FailsWithin outcomes l.bytesRemaining) :
    ∃ l', readLoop outcomes l = some l' ∧ l'.returnValue = false := by
  induction outcomes generalizing l with
  | nil => exact h.elim
  | cons outcome outcomes ih =>
      cases outcome with
      | none =>
          refine ⟨{ l with returnValue := false }, ?_, rfl⟩
          rw [readLoop, if_neg (Nat.ne_of_gt h)]
      | some offered =>
          obtain ⟨l', hrun, hfalse⟩ := ih (l := l.store offered) h.2
          refine ⟨l', ?_, hfalse⟩
          rw [readLoop, if_neg (Nat.ne_of_gt h.1)]
          exact hrun

/-- A loop that ends with {lit}`FALSE` saw a read fail. -/
theorem failsWithin_of_readLoop {outcomes : List (Option (List UInt8))} {l l' : ReadLoop}
    (hrun : readLoop outcomes l = some l') (htrue : l.returnValue = true)
    (hfalse : l'.returnValue = false) : FailsWithin outcomes l.bytesRemaining := by
  have hopen : l.bytesRemaining ≠ 0 := by
    intro hdone
    rw [readLoop_done hdone, Option.some.injEq] at hrun
    rw [hrun, hfalse] at htrue
    cases htrue
  induction outcomes generalizing l with
  | nil =>
      rw [readLoop, if_neg hopen] at hrun
      cases hrun
  | cons outcome outcomes ih =>
      cases outcome with
      | none => exact Nat.pos_of_ne_zero hopen
      | some offered =>
          rw [readLoop, if_neg hopen] at hrun
          refine ⟨Nat.pos_of_ne_zero hopen, ih hrun rfl ?_⟩
          intro hdone
          rw [readLoop_done hdone, Option.some.injEq] at hrun
          rw [← hrun] at hfalse
          cases hfalse

/-! ## Reads of a file that stays the same -/

/-- The reads deliver the bytes of the file from the read position on. -/
def DeliversFrom (file : List UInt8) : ℕ → List (Option (List UInt8)) → Prop
  | _, [] => True
  | _, none :: _ => True
  | position, some offered :: outcomes =>
      offered <+: file.drop position ∧
        DeliversFrom file
          (position + (offered.take (sizeOfOneRead (file.length - position))).length) outcomes

/-- The size is that of the file, and the reads deliver its bytes. -/
structure ReadsFile (file : List UInt8) (ops : FileOps) : Prop where
  getFileSizeEx : ∀ fileSize, ops.getFileSizeEx = some fileSize → fileSize = file.length
  readFile : DeliversFrom file 0 ops.readFile

/-- The buffer has the size of the file and holds the file up to the read position. -/
structure HoldsPart (file : List UInt8) (l : ReadLoop) : Prop where
  length : l.fileContentBuffer.length = file.length
  position : l.readBuffer + l.bytesRemaining = file.length
  content : l.fileContentBuffer.take l.readBuffer = file.take l.readBuffer

section Part

variable {file : List UInt8} {l : ReadLoop}

theorem HoldsPart.bytesRemaining (h : HoldsPart file l) :
    l.bytesRemaining = file.length - l.readBuffer := by
  have hposition := h.position
  omega

/-- A part that leaves nothing is the whole. -/
theorem HoldsPart.whole (h : HoldsPart file l) (hdone : l.bytesRemaining = 0) :
    l.fileContentBuffer = file := by
  have hposition : l.readBuffer = file.length := by
    have hsum := h.position
    omega
  have hcontent := h.content
  rw [hposition, List.take_length, ← h.length, List.take_length] at hcontent
  exact hcontent

/-- A read adds what it delivers. -/
theorem HoldsPart.store (h : HoldsPart file l) {offered : List UInt8}
    (hoffered : offered <+: file.drop l.readBuffer) : HoldsPart file (l.store offered) := by
  have hposition := h.position
  have hdelivered : l.delivered offered <+: file.drop l.readBuffer :=
    (List.take_prefix _ offered).trans hoffered
  have hfits : (l.delivered offered).length ≤ l.bytesRemaining := by
    have hlength := hdelivered.length_le
    rw [List.length_drop] at hlength
    omega
  have hroom : l.readBuffer + (l.delivered offered).length ≤ l.fileContentBuffer.length := by
    rw [h.length]
    omega
  refine ⟨?_, ?_, ?_⟩
  · rw [← h.length]
    exact length_storeAt hroom
  · show l.readBuffer + (l.delivered offered).length +
      (l.bytesRemaining - (l.delivered offered).length) = file.length
    omega
  · show (storeAt l.fileContentBuffer l.readBuffer (l.delivered offered)).take
      (l.readBuffer + (l.delivered offered).length) =
        file.take (l.readBuffer + (l.delivered offered).length)
    rw [take_storeAt (by omega), h.content, List.take_add,
      ← List.prefix_iff_eq_take.mp hdelivered]

/-- A loop that ends with {lit}`TRUE` has read the whole file. -/
theorem HoldsPart.readLoop {outcomes : List (Option (List UInt8))} {l' : ReadLoop}
    (h : HoldsPart file l) (hdelivers : DeliversFrom file l.readBuffer outcomes)
    (hrun : Driver.readLoop outcomes l = some l') (htrue : l'.returnValue = true) :
    l'.fileContentBuffer = file := by
  induction outcomes generalizing l with
  | nil =>
      by_cases hdone : l.bytesRemaining = 0
      · rw [readLoop_done hdone, Option.some.injEq] at hrun
        rw [← hrun]
        exact h.whole hdone
      · rw [Driver.readLoop, if_neg hdone] at hrun
        cases hrun
  | cons outcome outcomes ih =>
      by_cases hdone : l.bytesRemaining = 0
      · rw [readLoop_done hdone, Option.some.injEq] at hrun
        rw [← hrun]
        exact h.whole hdone
      · cases outcome with
        | none =>
            rw [Driver.readLoop, if_neg hdone] at hrun
            cases hrun
            cases htrue
        | some offered =>
            rw [Driver.readLoop, if_neg hdone] at hrun
            refine ih (h.store hdelivers.1) ?_ hrun
            have hrest := hdelivers.2
            rw [← h.bytesRemaining] at hrest
            exact hrest

/-- The loop starts with an empty part. -/
theorem holdsPart_fresh (file : List UInt8) (fresh : ℕ → UInt8) :
    HoldsPart file (.start file.length fresh) where
  length := by simp [ReadLoop.start]
  position := Nat.zero_add file.length
  content := rfl

end Part

/-! ## Calls that find nothing cached -/

section Call

variable {ops : FileOps} {fileSize : ℕ} {fresh : ℕ → UInt8} {l : ReadLoop}

/-- A call that opens the file, gets its size and allocates the buffer is decided by the
loop. -/
theorem contentGet_of_readLoop (hopen : ops.createFile = true)
    (hsize : ops.getFileSizeEx = some fileSize) (hfresh : ops.memoryCreate = some fresh)
    (hrun : readLoop ops.readFile (.start fileSize fresh) = some l) :
    contentGet ops none =
      (if l.returnValue then .success l.fileContentBuffer else .fileNotAvailable,
        some l.fileContentBuffer) := by
  have hread : firmwareFileContentRead ops = some (l.returnValue, some l.fileContentBuffer) := by
    rw [firmwareFileContentRead, hopen, hsize, hfresh]
    dsimp only
    rw [hrun]
    rfl
  rw [contentGet, hread]
  cases l.returnValue with
  | false => rfl
  | true => rfl

/-- A loop that does not end leaves the call without a result. -/
theorem contentGet_of_unfinished (hopen : ops.createFile = true)
    (hsize : ops.getFileSizeEx = some fileSize) (hfresh : ops.memoryCreate = some fresh)
    (hrun : readLoop ops.readFile (.start fileSize fresh) = none) :
    contentGet ops none = (.unfinished, none) := by
  simp [contentGet, firmwareFileContentRead, hopen, hsize, hfresh, hrun]

/-- A read that fails half way leaves its buffer in the cache. -/
theorem contentGet_of_readFails (h : ReadFails ops) :
    ∃ buffer, contentGet ops none = (.fileNotAvailable, some buffer) := by
  obtain ⟨fileSize, hsize, hfails⟩ := h.readFile
  obtain ⟨fresh, hfresh⟩ := Option.ne_none_iff_exists'.mp h.memoryCreate
  obtain ⟨l, hrun, hfalse⟩ := readLoop_of_failsWithin (l := .start fileSize fresh) hfails
  refine ⟨l.fileContentBuffer, ?_⟩
  rw [contentGet_of_readLoop h.createFile hsize hfresh hrun, hfalse]
  rfl

/-- Any other call leaves the whole file in the cache and hands it out, or leaves the
cache empty. -/
theorem contentGet_cases {file : List UInt8} (hreads : ReadsFile file ops)
    (hwhole : ¬ ReadFails ops) :
    contentGet ops none = (.success file, some file) ∨
      ((contentGet ops none).2 = none ∧ ∀ buffer, (contentGet ops none).1 ≠ .success buffer) := by
  cases hopen : ops.createFile with
  | false => exact .inr (by simp [contentGet, firmwareFileContentRead, hopen])
  | true =>
      cases hsize : ops.getFileSizeEx with
      | none => exact .inr (by simp [contentGet, firmwareFileContentRead, hopen, hsize])
      | some fileSize =>
          cases hfresh : ops.memoryCreate with
          | none =>
              refine .inr ?_
              simp [contentGet, firmwareFileContentRead, hopen, hsize, hfresh, wdfMemoryGetBuffer]
          | some fresh =>
              have hlength := hreads.getFileSizeEx fileSize hsize
              subst hlength
              cases hrun : readLoop ops.readFile (.start file.length fresh) with
              | none =>
                  rw [contentGet_of_unfinished hopen hsize hfresh hrun]
                  exact .inr (by simp)
              | some l =>
                  rw [contentGet_of_readLoop hopen hsize hfresh hrun]
                  cases hvalue : l.returnValue with
                  | false =>
                      have hfails := failsWithin_of_readLoop hrun rfl hvalue
                      exact absurd ⟨hopen, by simp [hfresh], file.length, hsize, hfails⟩ hwhole
                  | true =>
                      have hpart := holdsPart_fresh file fresh
                      rw [hpart.readLoop hreads.readFile hrun hvalue]
                      exact .inl rfl

end Call

/-- A call handed out the whole file or nothing, cached the whole file or nothing, and
nothing if it failed. -/
structure ContentFaithful (file : List UInt8) (result : GetOutcome × Option (List UInt8)) :
    Prop where
  success : ∀ buffer, result.1 = .success buffer → buffer = file
  fileNotAvailable : result.1 = .fileNotAvailable → result.2 = none
  cached : ∀ buffer, result.2 = some buffer → buffer = file

theorem contentFaithful_success (file : List UInt8) :
    ContentFaithful file (.success file, some file) where
  success _ h := (GetOutcome.success.inj h).symm
  fileNotAvailable h := by cases h
  cached _ h := (Option.some.inj h).symm

/-- A call on a cache that is empty or holds the whole file is so unless a read fails half
way. -/
theorem contentGet_faithful {file : List UInt8} {ops : FileOps} {content : Option (List UInt8)}
    (hcached : ∀ buffer, content = some buffer → buffer = file) (hreads : ReadsFile file ops)
    (hwhole : ¬ (content = none ∧ ReadFails ops)) :
    ContentFaithful file (contentGet ops content) := by
  cases content with
  | some memory =>
      have hmemory := hcached memory rfl
      rw [hmemory]
      exact contentFaithful_success file
  | none =>
      have hreturns : ¬ ReadFails ops := fun h => hwhole ⟨rfl, h⟩
      rcases contentGet_cases hreads hreturns with hfile | ⟨hnone, hfailed⟩
      · rw [hfile]
        exact contentFaithful_success file
      · refine ⟨fun buffer h => absurd h (hfailed buffer), fun _ => hnone, ?_⟩
        intro buffer hbuffer
        rw [hnone] at hbuffer
        cases hbuffer

/-! ## Runs -/

section Run

variable {Name : Type} {m : ℕ} {files : Name → List UInt8} {pairs : Fin m → Name × Name}
  {collection collection' : Fin m → DriverFirmwareInformation Name} {call : GetCall m}

/-- The content that a call finds cached. -/
def cached (collection : Fin m → DriverFirmwareInformation Name) (call : GetCall m) :
    Option (List UInt8) :=
  (collection call.firmwarePairIndex).contentMemory call.side

/-- The file that a call is for. -/
def calledFile (files : Name → List UInt8) (pairs : Fin m → Name × Name) (call : GetCall m) :
    List UInt8 :=
  files ((firmwareBlobCollection pairs call.firmwarePairIndex).fileName call.side)

/-- The outcome of a call is that of its side. -/
@[simp]
theorem getFile_outcome (collection : Fin m → DriverFirmwareInformation Name)
    (call : GetCall m) :
    (getFile collection call).1 = (contentGet call.ops (cached collection call)).1 := by
  rcases call with ⟨_ | _, i, ops⟩ <;> rfl

/-- A call replaces the content of its side and nothing else. -/
theorem getFile_contentMemory (collection : Fin m → DriverFirmwareInformation Name)
    (call : GetCall m) (side : Side) :
    (getFile collection call).2.contentMemory side =
      if side = call.side then (contentGet call.ops (cached collection call)).2
      else (collection call.firmwarePairIndex).contentMemory side := by
  rcases call with ⟨_ | _, i, ops⟩ <;> cases side <;> rfl

/-- The collection after a call that returns. -/
theorem contentMemory_of_step (hafter : (step collection call).2 = some collection')
    (i : Fin m) (side : Side) :
    (collection' i).contentMemory side =
      if i = call.firmwarePairIndex ∧ side = call.side then
        (contentGet call.ops (cached collection call)).2
      else (collection i).contentMemory side := by
  have hupdate : Function.update collection call.firmwarePairIndex
      (getFile collection call).2 = collection' := by
    unfold step at hafter
    dsimp only at hafter
    split at hafter
    · exact Option.some.inj hafter
    · exact Option.some.inj hafter
    · cases hafter
    · cases hafter
  rw [← hupdate]
  by_cases hi : i = call.firmwarePairIndex
  · subst hi
    rw [Function.update_self, getFile_contentMemory]
    simp
  · rw [Function.update_of_ne hi]
    simp [hi]

/-- Every cached content is the whole file. -/
def CachesFiles (files : Name → List UInt8) (pairs : Fin m → Name × Name)
    (collection : Fin m → DriverFirmwareInformation Name) : Prop :=
  ∀ i side buffer, (collection i).contentMemory side = some buffer →
    buffer = files ((firmwareBlobCollection pairs i).fileName side)

/-- At the start nothing is cached. -/
theorem cachesFiles_empty (files : Name → List UInt8) (pairs : Fin m → Name × Name) :
    CachesFiles files pairs (firmwareBlobCollection pairs) := by
  intro i side buffer hbuffer
  cases side <;> cases hbuffer

/-- The call finds nothing cached, and a read of the file fails half way. -/
def FailsHalfWay (collection : Fin m → DriverFirmwareInformation Name) (call : GetCall m) :
    Prop :=
  cached collection call = none ∧ ReadFails call.ops

/-- What a call hands out is the whole file, and a call that fails leaves nothing
cached. -/
structure Faithful (files : Name → List UInt8) (pairs : Fin m → Name × Name)
    (t : GetTransition Name m) : Prop where
  success : ∀ buffer, t.output = .success buffer → buffer = calledFile files pairs t.event
  fileNotAvailable : t.output = .fileNotAvailable →
    ∃ collection, t.after = some collection ∧ cached collection t.event = none

/-- A call for a whole file is faithful and keeps the cached contents whole. -/
theorem step_faithful (hcaches : CachesFiles files pairs collection)
    (hreads : ReadsFile (calledFile files pairs call) call.ops)
    (hwhole : ¬ FailsHalfWay collection call) :
    Faithful files pairs (transition step collection call) ∧
      ∀ collection', (step collection call).2 = some collection' →
        CachesFiles files pairs collection' := by
  have hfaithful := contentGet_faithful
    (fun buffer hbuffer => hcaches call.firmwarePairIndex call.side buffer hbuffer) hreads hwhole
  have houtput : (step collection call).1 =
      (contentGet call.ops (cached collection call)).1 :=
    getFile_outcome collection call
  refine ⟨⟨?_, ?_⟩, ?_⟩
  · intro buffer hsuccess
    exact hfaithful.success buffer (houtput.symm.trans hsuccess)
  · intro hfailed
    have hafter : (step collection call).2 = some (Function.update collection
        call.firmwarePairIndex (getFile collection call).2) := by
      have hresult : (getFile collection call).1 = .fileNotAvailable := hfailed
      rw [step, hresult]
    refine ⟨_, hafter, ?_⟩
    rw [transition_event, cached, contentMemory_of_step hafter, if_pos ⟨rfl, rfl⟩]
    exact hfaithful.fileNotAvailable (houtput.symm.trans hfailed)
  · intro collection' hafter i side buffer hbuffer
    rw [contentMemory_of_step hafter] at hbuffer
    by_cases hcalled : i = call.firmwarePairIndex ∧ side = call.side
    · rw [if_pos hcalled] at hbuffer
      rw [hcalled.1, hcalled.2]
      exact hfaithful.cached buffer hbuffer
    · rw [if_neg hcalled] at hbuffer
      exact hcaches i side buffer hbuffer

/-- A call whose read fails half way leaves its buffer in the cache. -/
theorem not_faithful_of_failsHalfWay (hfails : FailsHalfWay collection call) :
    ¬ Faithful files pairs (transition step collection call) := by
  obtain ⟨hnone, hread⟩ := hfails
  obtain ⟨buffer, hcontent⟩ := contentGet_of_readFails hread
  intro hfaithful
  have houtput : (step collection call).1 = .fileNotAvailable := by
    show (getFile collection call).1 = _
    rw [getFile_outcome, hnone, hcontent]
  obtain ⟨collection', hafter, hempty⟩ := hfaithful.fileNotAvailable houtput
  rw [transition_event, cached, contentMemory_of_step hafter, if_pos ⟨rfl, rfl⟩, hnone, hcontent]
    at hempty
  cases hempty

/-- In a run on files that do not change, every call hands out the whole file of its
entry, and every call that fails leaves nothing cached, exactly when no call that reads
a file has a read fail half way. -/
theorem cached_files_faithful_iff (files : Name → List UInt8) (pairs : Fin m → Name × Name)
    (calls : List (GetCall m))
    (hreads : ∀ call ∈ calls, ReadsFile (calledFile files pairs call) call.ops) :
    (∀ t ∈ trace step (firmwareBlobCollection pairs) calls, Faithful files pairs t) ↔
      ∀ t ∈ trace step (firmwareBlobCollection pairs) calls,
        ¬ FailsHalfWay t.before t.event := by
  constructor
  · intro hfaithful t ht hfails
    have hstep := eq_transition_of_mem_trace ht
    have hfaith := hfaithful t ht
    rw [hstep] at hfaith
    exact not_faithful_of_failsHalfWay hfails hfaith
  · intro hwhole
    have hcaches := forall_trace_of_guarded (CachesFiles files pairs)
      (fun t => ¬ FailsHalfWay t.before t.event) hwhole (cachesFiles_empty files pairs)
      fun collection call collection' hcall hguard hbefore hafter =>
        (step_faithful hbefore (hreads call hcall) hguard).2 collection' hafter
    intro t ht
    have hstep := eq_transition_of_mem_trace ht
    have hcall := event_mem_of_mem_trace ht
    rw [hstep]
    exact (step_faithful (hcaches t ht).1 (hreads t.event hcall) (hwhole t ht)).1

end Run

/-! ## One pair of files -/

/-- The index of a pair that is alone. -/
abbrev onlyPair : Fin 1 := ⟨0, Nat.zero_lt_one⟩

/-- A pair whose files are named after their sides. -/
def samplePairs (_ : Fin 1) : Side × Side :=
  (.offer, .payload)

def sampleFiles : Side → List UInt8
  | .offer => [1, 2, 3]
  | .payload => [4]

/-- A call for the offer whose reads go so; everything before them succeeds. -/
def offerCall (readFile : List (Option (List UInt8))) : GetCall 1 where
  side := .offer
  firmwarePairIndex := onlyPair
  ops :=
    { createFile := true
      getFileSizeEx := some 3
      memoryCreate := some fun _ => 0
      readFile := readFile }

/-- The offer is read in two parts, and asked for again. -/
def readInParts : List (GetCall 1) :=
  [offerCall [some [1], some [2, 3]], offerCall []]

theorem cached_files_faithful_iff_readInParts :
    (trace step (firmwareBlobCollection samplePairs) readInParts).map Transition.output =
        [.success [1, 2, 3], .success [1, 2, 3]] ∧
      ∀ t ∈ trace step (firmwareBlobCollection samplePairs) readInParts,
        Faithful sampleFiles samplePairs t := by
  refine ⟨rfl, (cached_files_faithful_iff sampleFiles samplePairs readInParts ?_).mpr ?_⟩
  · intro call hcall
    simp only [readInParts, List.mem_cons, List.not_mem_nil, or_false] at hcall
    rcases hcall with rfl | rfl
    · exact ⟨by rintro _ ⟨⟩; rfl, by decide, by decide, trivial⟩
    · exact ⟨by rintro _ ⟨⟩; rfl, trivial⟩
  · rintro t ht ⟨-, hread⟩
    obtain ⟨fileSize, hsize, hfails⟩ := hread.readFile
    have hcall := event_mem_of_mem_trace ht
    simp only [readInParts, List.mem_cons, List.not_mem_nil, or_false] at hcall
    rcases hcall with hcall | hcall
    · rw [hcall] at hfails
      exact hfails.2.2
    · rw [hcall] at hfails
      exact hfails

/-- The second read of the offer fails, and the offer is asked for again. -/
def readHalfWay : List (GetCall 1) :=
  [offerCall [some [1], none], offerCall []]

/-- The second call hands out what the failed one left behind. -/
theorem half_read_handed_out :
    (∀ call ∈ readHalfWay, ReadsFile (calledFile sampleFiles samplePairs call) call.ops) ∧
      (∃ t ∈ trace step (firmwareBlobCollection samplePairs) readHalfWay,
        t.output = .success [1, 0, 0]) ∧
      ¬ ∀ t ∈ trace step (firmwareBlobCollection samplePairs) readHalfWay,
        Faithful sampleFiles samplePairs t := by
  refine ⟨?_, ⟨_, List.mem_of_getElem? (i := 1) rfl, rfl⟩, ?_⟩
  · intro call hcall
    simp only [readHalfWay, List.mem_cons, List.not_mem_nil, or_false] at hcall
    rcases hcall with rfl | rfl
    · exact ⟨by rintro _ ⟨⟩; rfl, by decide, trivial⟩
    · exact ⟨by rintro _ ⟨⟩; rfl, trivial⟩
  · intro hfaithful
    have hbuffer := (hfaithful _ (List.mem_of_getElem? (i := 1) rfl)).success [1, 0, 0] rfl
    revert hbuffer
    decide

end Driver
end CFU
