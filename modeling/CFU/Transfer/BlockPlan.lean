import CFU.Firmware.CurrentOffer
import CFU.Firmware.SuccessfulCalls
import CFU.Tool.FwUpdate

/-!
# CFU transfer - the blocks of a payload

The tool turns the records of a payload file into blocks: it sets the flags from
two counters of 32 bits and subtracts the address of the first record.  The
engine answers a block with success only after a fixed sequence of calls, which
the flags select.

Main results:

- Definition {lit}`blockPlan`: the blocks of a list of records.
- Relation {lit}`BlockCalls`: the calls of a block that was answered with success.
- Theorem {lit}`blockCalls_of_success`: the engine makes no other calls.
-/

namespace CFU
namespace Transfer

open Firmware Tool

variable {W : Type} {n : ℕ}

/-! ## Blocks -/

/-- A block of an image: its flags, its address relative to the first block, and
the record that it was made from. -/
structure Block where
  flags : UInt8
  offset : UInt32
  record : Record

/-- The engine prepares the component for this block. -/
def Block.isFirst (block : Block) : Bool :=
  block.flags &&& Firmware.firmwareUpdateFlagFirstBlock != 0

/-- The engine completes the image with this block: the test for the first block
comes before the test for the last one. -/
def Block.completes (block : Block) : Bool :=
  !block.isFirst && block.flags &&& Firmware.firmwareUpdateFlagLastBlock != 0

/-- The blocks that the tool makes of records when {lit}`contentPacketsSent` blocks
were sent before. -/
def blockPlan (totalContentPacketCount : UInt32) : UInt32 → UInt32 → List Record → List Block
  | _, _, [] => []
  | contentPacketsSent, startAddress, record :: records =>
      let startAddress := blockStart contentPacketsSent startAddress record.address
      { flags := blockFlags totalContentPacketCount contentPacketsSent
        offset := record.address - startAddress
        record := record } ::
        blockPlan totalContentPacketCount (contentPacketsSent + 1) startAddress records

/-- The command carries the block. -/
structure Carries (pCommand : FwUpdateContentCommand) (block : Block) : Prop where
  flags : pCommand.flags = block.flags
  address : pCommand.address = block.offset
  length : pCommand.length = block.record.length
  data : pCommand.pData.take pCommand.length.toNat = block.record.data

theorem Carries.isFirstBlock {pCommand : FwUpdateContentCommand} {block : Block}
    (h : Carries pCommand block) : pCommand.isFirstBlock = block.isFirst := by
  rw [FwUpdateContentCommand.isFirstBlock, Block.isFirst, h.flags]

theorem Carries.completes {pCommand : FwUpdateContentCommand} {block : Block}
    (h : Carries pCommand block) :
    (!pCommand.isFirstBlock && pCommand.isLastBlock) = block.completes := by
  rw [h.isFirstBlock, FwUpdateContentCommand.isLastBlock, Block.completes, h.flags]

/-! ## The calls of a block -/

/-- The successful write of a block. -/
def Block.write (block : Block) (componentId : UInt8) : Call n :=
  .write block.offset block.record.data block.record.length componentId 0

theorem Carries.blockWrite {pCommand : FwUpdateContentCommand} {block : Block}
    (h : Carries pCommand block) (s : EngineState n) :
    Firmware.blockWrite s pCommand 0 = block.write s.currentOffer.activeComponentId := by
  rw [Firmware.blockWrite, Block.write, h.data, h.address, h.length]

/-- The calls of a block that was answered with success, when the search of the
registration list for the active component yields {lit}`found`. -/
inductive BlockCalls (componentId : UInt8) (found : Option (Option (Fin n))) (block : Block) :
    List (Call n) → Prop where
  | firstBlock (hfirst : block.isFirst = true) :
      BlockCalls componentId found block [.prepare componentId 0, block.write componentId]
  | middleBlock (hfirst : block.isFirst = false) (hcompletes : block.completes = false) :
      BlockCalls componentId found block [block.write componentId]
  | lastBlock {r : Fin n} {status : McuStatus} {offset : UInt32} {crc : UInt16}
      {forceReset : Bool} {result : NotifyResult} (hcompletes : block.completes = true)
      (hfound : found = some (some r)) (hstatus : mcuSuccess status = true)
      (hresult : mcuSuccess result.status = true) :
      BlockCalls componentId found block
        (block.write componentId ::
          (validationCalls r componentId status offset crc ++
            [.notifySuccess r forceReset result]))

/-- What an acknowledged block leaves of the static variables: the component and
the registration list stay, and the block that completes the image sets the
pending swap. -/
structure KeepsComponent (block : Block) (s s' : EngineState n) : Prop where
  activeComponentId : s'.currentOffer.activeComponentId = s.currentOffer.activeComponentId
  sameList : s.SameList s'
  bankSwapPending : s'.bankSwapPending = (s.bankSwapPending || block.completes)

/-- A block that completes nothing may leave the static variables alone. -/
theorem KeepsComponent.refl {block : Block} (h : block.completes = false) (s : EngineState n) :
    KeepsComponent block s s where
  activeComponentId := rfl
  sameList := ⟨rfl, rfl⟩
  bankSwapPending := by
    rw [h, Bool.or_false]

/-- A successful notification completes the image. -/
theorem KeepsComponent.afterNotify {block : Block} (h : block.completes = true)
    (s : EngineState n) {result : NotifyResult} (hresult : mcuSuccess result.status = true) :
    KeepsComponent block s (s.afterNotify result) where
  activeComponentId := by
    rcases s.afterNotify_currentOffer result with hoffer | hoffer
    · rw [hoffer]
    · rw [hoffer]
      rfl
  sameList := EngineState.sameList_afterNotify s result
  bankSwapPending := by
    rw [EngineState.afterNotify_bankSwapPending, hresult, h]

/-- A block that is the first one completes nothing. -/
theorem Block.completes_of_isFirst {block : Block} (h : block.isFirst = true) :
    block.completes = false := by
  rw [Block.completes, h]
  rfl

/-- The engine makes the calls of the block and no others when it answers with
success. -/
theorem blockCalls_of_success {P : Platform W n} {s : EngineState n}
    {pCommand : FwUpdateContentCommand} {block : Block} (hcarries : Carries pCommand block)
    {blockCalls : List (Call n)} {after : Option (EngineState n)}
    (h : ContentExec P s pCommand
      (contentOutput pCommand blockCalls firmwareUpdateStatusSuccess) after) :
    BlockCalls s.currentOffer.activeComponentId
        (s.lookup P s.currentOffer.activeComponentId) block blockCalls ∧
      ∃ s', after = some s' ∧ KeepsComponent block s s' := by
  have hcompletes := hcarries.completes
  generalize hout : contentOutput pCommand blockCalls firmwareUpdateStatusSuccess = output at h
  cases h with
  | prepareFailed =>
      rw [contentOutput_inj] at hout
      exact absurd hout.2 (by decide)
  | firstBlock result hfirst =>
      rw [contentOutput_inj] at hout
      obtain ⟨rfl, hstatus⟩ := hout
      have hresult : result = 0 := writeStatus_eq_success.mp hstatus.symm
      have hblock : block.isFirst = true := hcarries.isFirstBlock.symm.trans hfirst
      rw [← hstatus, EngineState.afterStatus_success, hresult, hcarries.blockWrite]
      exact ⟨.firstBlock hblock, s, rfl, .refl (Block.completes_of_isFirst hblock) s⟩
  | middleBlock result hfirst hlast =>
      rw [contentOutput_inj] at hout
      obtain ⟨rfl, hstatus⟩ := hout
      have hresult : result = 0 := writeStatus_eq_success.mp hstatus.symm
      have hblock : block.isFirst = false := hcarries.isFirstBlock.symm.trans hfirst
      have hmiddle : block.completes = false := by
        rw [← hcompletes, hlast, Bool.and_false]
      rw [← hstatus, EngineState.afterStatus_success, hresult, hcarries.blockWrite]
      exact ⟨.middleBlock hblock hmiddle, s, rfl, .refl hmiddle s⟩
  | lastWriteFailed =>
      rw [contentOutput_inj] at hout
      exact absurd hout.2 (by decide)
  | endlessWalk => cases congrArg Output.response hout
  | rejected hfirst hlast hrejected =>
      rw [contentOutput_inj] at hout
      exact absurd hout.2.symm hrejected.status_ne_success
  | notified result hfirst hlast hlookup hcrc =>
      rw [contentOutput_inj] at hout
      obtain ⟨rfl, hstatus⟩ := hout
      have hresult : mcuSuccess result.status = true := notifyStatus_eq_success.mp hstatus.symm
      have hlastBlock : block.completes = true := by
        rw [← hcompletes, hfirst, hlast]
        rfl
      rw [hcarries.blockWrite]
      exact ⟨.lastBlock hlastBlock hlookup hcrc hresult, _, rfl,
        .afterNotify hlastBlock s hresult⟩

/-! ## The flags of the plan -/

section Flags

variable {totalContentPacketCount contentPacketsSent : UInt32} {block : Block}

theorem Block.completes_of_last (h : block.flags = Tool.firmwareUpdateFlagLastBlock) :
    block.completes = true := by
  rw [Block.completes, Block.isFirst, h]
  decide

theorem Block.isFirst_of_last (h : block.flags = Tool.firmwareUpdateFlagLastBlock) :
    block.isFirst = false := by
  rw [Block.isFirst, h]
  decide

variable {componentId : UInt8} {found : Option (Option (Fin n))} {blockCalls : List (Call n)}

theorem BlockCalls.of_first (h : BlockCalls componentId found block blockCalls)
    (hflags : block.flags = Tool.firmwareUpdateFlagFirstBlock) :
    blockCalls = [.prepare componentId 0, block.write componentId] := by
  have hfirst : block.isFirst = true := by
    rw [Block.isFirst, hflags]
    decide
  cases h with
  | firstBlock => rfl
  | middleBlock hnot => rw [hfirst] at hnot; cases hnot
  | lastBlock hcompletes =>
      rw [Block.completes_of_isFirst hfirst] at hcompletes
      cases hcompletes

theorem BlockCalls.of_middle (h : BlockCalls componentId found block blockCalls)
    (hflags : block.flags = 0) : blockCalls = [block.write componentId] := by
  have hfirst : block.isFirst = false := by
    rw [Block.isFirst, hflags]
    decide
  have hmiddle : block.completes = false := by
    rw [Block.completes, hflags]
    simp
  cases h with
  | firstBlock hyes => rw [hfirst] at hyes; cases hyes
  | middleBlock => rfl
  | lastBlock hcompletes => rw [hmiddle] at hcompletes; cases hcompletes

theorem BlockCalls.of_completes (h : BlockCalls componentId found block blockCalls)
    (hcompletes : block.completes = true) :
    ∃ r status offset crc forceReset result, found = some (some r) ∧
      mcuSuccess status = true ∧ mcuSuccess result.status = true ∧
      blockCalls = block.write componentId ::
        (validationCalls r componentId status offset crc ++
          [.notifySuccess r forceReset result]) := by
  cases h with
  | firstBlock hfirst =>
      rw [Block.completes_of_isFirst hfirst] at hcompletes
      cases hcompletes
  | middleBlock _ hnot => rw [hcompletes] at hnot; cases hnot
  | lastBlock _ hfound hstatus hresult =>
      exact ⟨_, _, _, _, _, _, hfound, hstatus, hresult, rfl⟩

end Flags

/-! ## A complete transfer -/

/-- The write of a record at its distance from the first record, which wraps when that one
lies above it. -/
def recordWrite (componentId : UInt8) (startAddress : UInt32) (record : Record) : Call n :=
  .write (record.address - startAddress) record.data record.length componentId 0

/-- The calls that end a transfer: one validation and one notification, both
successful. -/
def CompletionCalls (r : Fin n) (componentId : UInt8) (calls : List (Call n)) : Prop :=
  ∃ status offset crc forceReset result, mcuSuccess status = true ∧
    mcuSuccess result.status = true ∧
    calls = validationCalls r componentId status offset crc ++
      [.notifySuccess r forceReset result]

/-- Behind the first block, and with at most {lit}`2 ^ 32` blocks in all, the last
record alone completes the image. -/
theorem calls_behind_first {total : ℕ} (htotal : total ≤ 2 ^ 32) {componentId : UInt8}
    {found : Option (Option (Fin n))} {startAddress contentPacketsSent : UInt32}
    {records : List Record} (hne : records ≠ []) (hsent : 0 < contentPacketsSent.toNat)
    (hcount : contentPacketsSent.toNat + records.length = total)
    {blockCalls : List (List (Call n))}
    (h : List.Forall₂ (BlockCalls componentId found)
      (blockPlan (UInt32.ofNat total) contentPacketsSent startAddress records) blockCalls) :
    ∃ r calls, found = some (some r) ∧ CompletionCalls r componentId calls ∧
      blockCalls.flatten = records.map (recordWrite componentId startAddress) ++ calls := by
  induction records generalizing contentPacketsSent blockCalls with
  | nil => exact absurd rfl hne
  | cons record records ih =>
      have hnonzero : contentPacketsSent ≠ 0 := by
        rintro rfl
        exact Nat.lt_irrefl 0 hsent
      have hstart : blockStart contentPacketsSent startAddress record.address = startAddress := by
        unfold blockStart
        rw [if_neg (by rw [beq_iff_eq]; exact hnonzero)]
      rw [blockPlan, hstart] at h
      rw [List.length_cons] at hcount
      cases h with
      | @cons _ calls _ restCalls hblock hrest =>
          rw [List.flatten_cons, List.map_cons]
          by_cases hlast : records = []
          · subst hlast
            have hend : contentPacketsSent + 1 = UInt32.ofNat total := by
              apply UInt32.toNat_inj.mp
              rw [UInt32.toNat_add, UInt32.toNat_ofNat', ← hcount]
              rfl
            obtain ⟨r, status, offset, crc, forceReset, result, hfound, hstatus, hresult,
              rfl⟩ := hblock.of_completes (Block.completes_of_last (blockFlags_last hend))
            cases hrest
            refine ⟨r, _, hfound, ⟨status, offset, crc, forceReset, result, hstatus, hresult,
              rfl⟩, ?_⟩
            rw [List.flatten_nil, List.append_nil]
            rfl
          · have hpos : 0 < records.length := List.length_pos_iff.mpr hlast
            have hnext : (contentPacketsSent + 1).toNat = contentPacketsSent.toNat + 1 := by
              rw [UInt32.toNat_add]
              exact Nat.mod_eq_of_lt (by
                show contentPacketsSent.toNat + 1 < 2 ^ 32
                omega)
            have hmiddle : contentPacketsSent + 1 ≠ UInt32.ofNat total := by
              intro heq
              have hnat := congrArg UInt32.toNat heq
              rw [hnext, UInt32.toNat_ofNat'] at hnat
              omega
            obtain ⟨r, calls', hfound, hcompletion, hflatten⟩ :=
              ih hlast (by omega) (by omega) hrest
            refine ⟨r, calls', hfound, hcompletion, ?_⟩
            rw [hblock.of_middle (blockFlags_middle hnonzero hmiddle), hflatten]
            rfl

/-- The calls of a plan of two to {lit}`2 ^ 32` blocks: one preparation, the writes
in file order, and the completion. -/
theorem calls_of_plan {componentId : UInt8} {found : Option (Option (Fin n))}
    {startAddress : UInt32} {first : Record} {rest : List Record} (hne : rest ≠ [])
    (htotal : rest.length + 1 ≤ 2 ^ 32) {blockCalls : List (List (Call n))}
    (h : List.Forall₂ (BlockCalls componentId found)
      (blockPlan (UInt32.ofNat (rest.length + 1)) 0 startAddress (first :: rest)) blockCalls) :
    ∃ r calls, found = some (some r) ∧ CompletionCalls r componentId calls ∧
      blockCalls.flatten = .prepare componentId 0 ::
        ((first :: rest).map (recordWrite componentId first.address) ++ calls) := by
  have hpos : 0 < rest.length := List.length_pos_iff.mpr hne
  have hseveral : UInt32.ofNat (rest.length + 1) ≠ 1 := by
    intro heq
    have hnat := congrArg UInt32.toNat heq
    rw [UInt32.toNat_ofNat', UInt32.toNat_one] at hnat
    omega
  have hstart : blockStart 0 startAddress first.address = first.address := rfl
  rw [blockPlan, hstart] at h
  cases h with
  | @cons _ calls _ restCalls hblock hrest =>
      obtain ⟨r, calls', hfound, hcompletion, hflatten⟩ :=
        calls_behind_first htotal hne (show 0 < UInt32.toNat (0 + 1) from Nat.zero_lt_one)
          (Nat.add_comm 1 _) hrest
      refine ⟨r, calls', hfound, hcompletion, ?_⟩
      rw [List.flatten_cons, hblock.of_first (blockFlags_first hseveral), hflatten]
      rfl

/-! ## What the calls say about the plan -/

section Counts

variable {componentId : UInt8} {found : Option (Option (Fin n))} {plan : List Block}
  {blockCalls : List (List (Call n))}

/-- A call of a plan is a call of one of its blocks. -/
theorem exists_block_of_mem (h : List.Forall₂ (BlockCalls componentId found) plan blockCalls)
    {call : Call n} (hmem : call ∈ blockCalls.flatten) :
    ∃ block ∈ plan, ∃ calls, BlockCalls componentId found block calls ∧ call ∈ calls := by
  induction h with
  | nil => cases hmem
  | @cons block calls plan blockCalls hblock _ ih =>
      rw [List.flatten_cons, List.mem_append] at hmem
      rcases hmem with hhere | hthere
      · exact ⟨block, List.mem_cons_self, calls, hblock, hhere⟩
      · obtain ⟨block', hmem', hcalls⟩ := ih hthere
        exact ⟨block', List.mem_cons_of_mem _ hmem', hcalls⟩

/-- Only a first block prepares, and it prepares the active component. -/
theorem prepare_of_mem (h : List.Forall₂ (BlockCalls componentId found) plan blockCalls)
    {id : UInt8} {result : UInt32} (hmem : .prepare id result ∈ blockCalls.flatten) :
    id = componentId ∧ ∃ block ∈ plan, block.isFirst = true := by
  obtain ⟨block, hblock, calls, hcalls, hcall⟩ := exists_block_of_mem h hmem
  cases hcalls with
  | firstBlock hfirst =>
      simp only [Block.write, List.mem_cons, Call.prepare.injEq, reduceCtorEq, List.not_mem_nil,
        or_false] at hcall
      exact ⟨hcall.1, block, hblock, hfirst⟩
  | middleBlock => simp [Block.write] at hcall
  | lastBlock => simp [Block.write, validationCalls] at hcall

/-- A notification goes to the registration that the search finds. -/
theorem found_of_mem (h : List.Forall₂ (BlockCalls componentId found) plan blockCalls)
    {r : Fin n} {forceReset : Bool} {result : NotifyResult}
    (hmem : .notifySuccess r forceReset result ∈ blockCalls.flatten) :
    found = some (some r) := by
  obtain ⟨block, hblock, calls, hcalls, hcall⟩ := exists_block_of_mem h hmem
  cases hcalls with
  | firstBlock => simp [Block.write] at hcall
  | middleBlock => simp [Block.write] at hcall
  | @lastBlock r' status offset crc forceReset' result' _ hfound =>
      have heq : r = r' := by
        simp only [Block.write, validationCalls, List.mem_cons, List.cons_append, reduceCtorEq,
          List.nil_append, List.not_mem_nil, Call.notifySuccess.injEq, or_false, false_or] at hcall
        exact hcall.1
      rw [heq]
      exact hfound

/-- There are as many notifications as blocks that complete the image. -/
theorem countP_isNotifySuccess (h : List.Forall₂ (BlockCalls componentId found) plan blockCalls) :
    blockCalls.flatten.countP Call.isNotifySuccess = plan.countP Block.completes := by
  induction h with
  | nil => rfl
  | @cons block calls plan blockCalls hblock _ ih =>
      rw [List.flatten_cons, List.countP_append, ih, List.countP_cons, Nat.add_comm]
      cases hblock with
      | firstBlock hfirst =>
          rw [Block.completes_of_isFirst hfirst]
          rfl
      | middleBlock _ hnot =>
          rw [hnot]
          rfl
      | lastBlock hcompletes =>
          rw [hcompletes]
          rfl

/-- A plan that reaches the announced number of blocks completes an image. -/
theorem completes_of_end {totalContentPacketCount contentPacketsSent : UInt32}
    (startAddress : UInt32) {records : List Record} (hne : records ≠ [])
    (hend : contentPacketsSent + UInt32.ofNat records.length = totalContentPacketCount) :
    0 < (blockPlan totalContentPacketCount contentPacketsSent startAddress records).countP
      Block.completes := by
  induction records generalizing contentPacketsSent startAddress with
  | nil => exact absurd rfl hne
  | cons record records ih =>
      rw [blockPlan, List.countP_cons]
      by_cases hlast : records = []
      · subst hlast
        have hcompletes : Block.completes
            ⟨blockFlags totalContentPacketCount contentPacketsSent,
              record.address - blockStart contentPacketsSent startAddress record.address,
              record⟩ = true :=
          Block.completes_of_last (blockFlags_last hend)
        rw [if_pos hcompletes]
        omega
      · have hnext : contentPacketsSent + 1 + UInt32.ofNat records.length =
            totalContentPacketCount := by
          rw [← hend, List.length_cons, UInt32.ofNat_add, UInt32.add_assoc, UInt32.add_comm 1]
          rfl
        have hrest : 0 < (blockPlan totalContentPacketCount (contentPacketsSent + 1)
            (blockStart contentPacketsSent startAddress record.address) records).countP
              Block.completes :=
          ih _ hlast hnext
        omega

/-- The plan of a whole payload completes an image, unless there are no records. -/
theorem any_completes {records : List Record} (hne : records ≠ []) :
    (blockPlan (UInt32.ofNat records.length) 0 0 records).any Block.completes = true := by
  have hcompletes := completes_of_end 0 hne (UInt32.zero_add (UInt32.ofNat records.length))
  obtain ⟨block, hmem, hblock⟩ := List.countP_pos_iff.mp hcompletes
  exact List.any_eq_true.mpr ⟨block, hmem, hblock⟩

/-- A plan goes on where its beginning ends. -/
theorem blockPlan_append (totalContentPacketCount contentPacketsSent startAddress : UInt32)
    (records more : List Record) :
    ∃ startAddress',
      blockPlan totalContentPacketCount contentPacketsSent startAddress (records ++ more) =
        blockPlan totalContentPacketCount contentPacketsSent startAddress records ++
          blockPlan totalContentPacketCount
            (contentPacketsSent + UInt32.ofNat records.length) startAddress' more := by
  induction records generalizing contentPacketsSent startAddress with
  | nil =>
      have hzero : contentPacketsSent + UInt32.ofNat 0 = contentPacketsSent := UInt32.add_zero _
      refine ⟨startAddress, ?_⟩
      rw [List.length_nil, hzero]
      rfl
  | cons record records ih =>
      obtain ⟨startAddress', hrest⟩ := ih (contentPacketsSent + 1)
        (blockStart contentPacketsSent startAddress record.address)
      refine ⟨startAddress', ?_⟩
      rw [add_length_cons, List.cons_append, blockPlan, hrest]
      rfl

/-- With more than {lit}`2 ^ 32` records the counters wrap, and at least two blocks
complete an image. -/
theorem two_le_completes (startAddress : UInt32) {records : List Record}
    (hmany : 2 ^ 32 < records.length) :
    2 ≤ (blockPlan (UInt32.ofNat records.length) 0 startAddress records).countP
      Block.completes := by
  have hwrap : UInt32.ofNat (records.length - 2 ^ 32) = UInt32.ofNat records.length := by
    apply UInt32.toNat_inj.mp
    rw [UInt32.toNat_ofNat', UInt32.toNat_ofNat']
    omega
  have hbeginning : (records.take (records.length - 2 ^ 32)).length = records.length - 2 ^ 32 := by
    rw [List.length_take]
    omega
  have hend : (records.drop (records.length - 2 ^ 32)).length = 2 ^ 32 := by
    rw [List.length_drop]
    omega
  obtain ⟨startAddress', hplan⟩ := blockPlan_append (UInt32.ofNat records.length) 0 startAddress
    (records.take (records.length - 2 ^ 32)) (records.drop (records.length - 2 ^ 32))
  rw [List.take_append_drop] at hplan
  rw [hplan, List.countP_append]
  have hfirst : 0 < (blockPlan (UInt32.ofNat records.length) 0 startAddress
      (records.take (records.length - 2 ^ 32))).countP Block.completes := by
    apply completes_of_end _
    · rw [← List.length_pos_iff, hbeginning]
      omega
    · rw [hbeginning, hwrap, UInt32.zero_add]
  have hsecond : 0 < (blockPlan (UInt32.ofNat records.length)
      (0 + UInt32.ofNat (records.take (records.length - 2 ^ 32)).length) startAddress'
      (records.drop (records.length - 2 ^ 32))).countP Block.completes := by
    apply completes_of_end _
    · rw [← List.length_pos_iff, hend]
      decide
    · rw [hbeginning, hwrap, hend, UInt32.zero_add]
      exact UInt32.add_zero _
  omega

end Counts

end Transfer
end CFU
