import CFU.Firmware.FlashContents
import CFU.Transfer.SessionSeries

/-!
# CFU transfer - the image that an update leaves

When the tool reports success, the image of the component that was active behind the
offer holds the records of the payload file, each at its distance from the first record
and in file order.  The distance is counted in 32 bits, so a record below the first one
comes to lie near the end of the address space.  The rest of the image is erased, unless
the payload has one record or none: then the engine never prepares the component, and the
rest of the image is the old one.

Main results:

- Theorem {lit}`flash_of_returned`: the images of all components after a success.
- Theorem {lit}`image_of_returned`: the same cell by cell.
- Theorem {lit}`image_independent`: records that do not overlap leave one image, in
  whatever order they come behind the same first address, and whatever was there before.
-/

namespace CFU
namespace Transfer

open Firmware Tool Buffer LabelledPaths Stores

variable {W V : Type} {n : ℕ}

/-! ## The world behind the device -/

/-- The calls that the device records changed a view of the world step by step. -/
def Tracks (view : W → V) (next : V → Call n → V → Prop) (d d' : DeviceState W n) : Prop :=
  ∃ calls, d'.calls = d.calls ++ calls ∧
    ∀ c', d'.config = some c' →
      ∃ c, d.config = some c ∧ Path next (view c.world) calls (view c'.world)

section Device

variable {view : W → V} {next : V → Call n → V → Prop}

theorem Tracks.refl (d : DeviceState W n) : Tracks view next d d :=
  ⟨[], (List.append_nil _).symm, fun c hc => ⟨c, hc, .nil _⟩⟩

theorem Tracks.trans {d₁ d₂ d₃ : DeviceState W n} (h : Tracks view next d₁ d₂)
    (h' : Tracks view next d₂ d₃) : Tracks view next d₁ d₃ := by
  obtain ⟨calls, hcalls, hpath⟩ := h
  obtain ⟨calls', hcalls', hpath'⟩ := h'
  refine ⟨calls ++ calls', ?_, ?_⟩
  · rw [hcalls', hcalls, List.append_assoc]
  · intro c₃ hc₃
    obtain ⟨c₂, hc₂, hback⟩ := hpath' c₃ hc₃
    obtain ⟨c₁, hc₁, hfront⟩ := hpath c₂ hc₂
    exact ⟨c₁, hc₁, hfront.append hback⟩

/-- Reading an input report calls nothing. -/
theorem Tracks.of_same {d d' : DeviceState W n} (hcalls : d'.calls = d.calls)
    (hconfig : d'.config = d.config) : Tracks view next d d' := by
  refine ⟨[], ?_, ?_⟩
  · rw [hcalls, List.append_nil]
  · intro c hc
    rw [hconfig] at hc
    exact ⟨c, hc, .nil _⟩

/-- The device tracks every view that the platform changes call by call. -/
theorem engineDevice_respects_tracks {P : Platform W n} (hP : P.Follows view next)
    (ids : ReportIds) (pResponse : FwUpdateOfferResponse) :
    (engineDevice P ids pResponse).Respects (Tracks view next) where
  refl := Tracks.refl
  trans := Tracks.trans
  setOutputReport report d := by
    unfold engineDevice
    dsimp only
    split
    · rename_i c e hc he
      refine ⟨(step P c e).1.calls, rfl, ?_⟩
      intro c' hc'
      exact ⟨c, hc, path_of_step hP hc'⟩
    · exact Tracks.refl d
  waitForReadEvent d := by
    unfold engineDevice
    dsimp only
    split
    · exact Tracks.refl d
    · exact Tracks.of_same rfl rfl

end Device

namespace Session

/-! ## The images behind a session -/

/-- The calls of a session change a view of the world step by step. -/
theorem path_of_run {x : Session W n} {view : W → V} {next : V → Call n → V → Prop}
    (hP : x.platform.Follows view next) {waits : ℕ} {c' : Config W n}
    (hconfig : (x.run waits).2.config = some c') :
    Path next (view x.config.world) (x.run waits).2.calls (view c'.world) := by
  have htracks := x.run_monotone (engineDevice_respects_tracks hP x.ids x.pResponse) waits
  obtain ⟨calls, hcalls, hpath⟩ := htracks
  obtain ⟨c, hc, hpath⟩ := hpath c' hconfig
  cases hc
  rw [hcalls]
  exact hpath

/-- The component that is active behind the offer. -/
def target (x : Session W n) : UInt8 :=
  ((step x.platform x.config (.offer x.offer x.pResponse)).2.map fun c =>
    c.engine.currentOffer.activeComponentId).getD x.config.engine.currentOffer.activeComponentId

/-- The data of a record, at its distance from the first one. -/
def recordStore (startAddress : UInt32) (record : Record) : Store UInt8 where
  offset := (record.address - startAddress).toNat
  block := record.data

/-- The stores of the payload. -/
def stores (x : Session W n) : List (Store UInt8) :=
  x.records.map (recordStore x.startAddress)

/-- No block is sent as the first one. -/
def unprepared (x : Session W n) : Bool :=
  decide (x.records.length ≤ 1)

/-- What the blocks are stored over: an erased image, or the old one when the component is
left unprepared. -/
def background (x : Session W n) (erased : ℕ → UInt8) (flash : Flash) : ℕ → UInt8 :=
  if x.unprepared then flash x.target else erased

section Success

variable {view : W → Flash} {erased : ℕ → UInt8} {flash flash' : Flash}

/-- The write of a record stores it. -/
theorem recordWrite_eq (id : UInt8) (startAddress : UInt32) (record : Record) :
    ∃ offset length, (recordWrite id startAddress record : Call n) =
        .write offset (recordStore startAddress record).block length id 0 ∧
      offset.toNat = (recordStore startAddress record).offset := by
  exact ⟨_, _, rfl, rfl⟩

/-- A completion changes no image. -/
theorem changesFlash_of_completion {r : Fin n} {id : UInt8} {completion : List (Call n)}
    (hcompletion : CompletionCalls r id completion) :
    ∀ call ∈ completion, call.changesFlash = false := by
  obtain ⟨status, offset, crc, forceReset, result, -, -, rfl⟩ := hcompletion
  intro call hcall
  simp only [validationCalls, List.cons_append, List.nil_append, List.mem_cons, List.not_mem_nil,
    or_false] at hcall
  rcases hcall with rfl | rfl | rfl | rfl | rfl <;> rfl

/-- The calls behind the offer, for up to {lit}`2 ^ 32` records. -/
theorem calls_behind_offer {x : Session W n} {id : UInt8} {found : Option (Option (Fin n))}
    (hfew : x.records.length ≤ 2 ^ 32) {blockCalls : List (List (Call n))}
    (hblocks : List.Forall₂ (BlockCalls id found)
      (blockPlan (UInt32.ofNat x.records.length) 0 0 x.records) blockCalls) :
    ∃ completion, (∀ call ∈ completion, call.changesFlash = false) ∧
      blockCalls.flatten =
        (if x.unprepared then [] else [.prepare id 0]) ++
          (x.records.map (recordWrite id x.startAddress) ++ completion) := by
  rcases hrecords : x.records with _ | ⟨first, rest⟩
  · rw [hrecords] at hblocks
    cases hblocks
    refine ⟨[], by simp, ?_⟩
    simp [unprepared, hrecords]
  · rw [hrecords] at hblocks hfew
    rw [startAddress_of_cons hrecords]
    by_cases hsingle : rest = []
    · subst hsingle
      have hnone : x.unprepared = true := by
        simp [unprepared, hrecords]
      have hend : (0 : UInt32) + 1 = UInt32.ofNat [first].length := rfl
      cases hblocks with
      | @cons _ calls _ restCalls hblock hrest =>
          cases hrest
          obtain ⟨r, status, offset, crc, forceReset, result, -, hstatus, hresult, rfl⟩ :=
            hblock.of_completes (Block.completes_of_last (blockFlags_last hend))
          have hcompletion : CompletionCalls r id (validationCalls r id status offset crc ++
              [.notifySuccess r forceReset result]) :=
            ⟨status, offset, crc, forceReset, result, hstatus, hresult, rfl⟩
          refine ⟨_, changesFlash_of_completion hcompletion, ?_⟩
          rw [hnone, if_pos rfl, List.flatten_singleton]
          rfl
    · obtain ⟨r, completion, -, hcompletion, hflatten⟩ := calls_of_plan hsingle hfew hblocks
      have hseveral : x.unprepared = false := by
        have hpos := List.length_pos_iff.mpr hsingle
        rw [unprepared, hrecords, List.length_cons, decide_eq_false_iff_not]
        omega
      refine ⟨completion, changesFlash_of_completion hcompletion, ?_⟩
      rw [hflatten, hseveral]
      rfl

/-- The component is prepared unless there is at most one block. -/
theorem flash_of_preparation {x : Session W n} {rest : List (Call n)}
    (h : Path (FlashStep erased) flash
      ((if x.unprepared then [] else [.prepare x.target 0]) ++ rest) flash') :
    Path (FlashStep erased) (Function.update flash x.target (x.background erased flash)) rest
      flash' := by
  unfold background
  cases hunprepared : x.unprepared with
  | true =>
      rw [hunprepared] at h
      rw [if_pos rfl, Function.update_eq_self]
      exact h
  | false =>
      rw [hunprepared, if_neg Bool.false_ne_true, Path.append_iff] at h
      obtain ⟨flash₁, hprepare, hrest⟩ := h
      rw [path_singleton_iff] at hprepare
      rw [if_neg Bool.false_ne_true, ← flashStep_prepare hprepare]
      exact hrest

/-- A session that reports success leaves the records of its payload, stored in file
order, in the image of the component that was active behind the offer, and all other
images as they were. -/
theorem flash_of_returned (x : Session W n) (waits : ℕ) (view : W → Flash) (erased : ℕ → UInt8)
    (hP : x.platform.Follows view (FlashStep erased)) (hfew : x.records.length ≤ 2 ^ 32)
    (hreturned : (x.run waits).1 = .returned true) :
    ∃ c, (x.run waits).2.config = some c ∧
      view c.world = Function.update (view x.config.world) x.target
        (storeAll (x.background erased (view x.config.world)) x.stores) := by
  obtain ⟨c₁, calls, response, c', blockCalls, hstep, -, hstate, hblocks, -⟩ :=
    calls_of_returned hreturned
  have hconfig : (x.run waits).2.config = some c' := by
    rw [hstate]
    rfl
  have hpath := path_of_run hP hconfig
  have htarget : c₁.engine.currentOffer.activeComponentId = x.target := by
    rw [target, hstep]
    rfl
  obtain ⟨completion, hquiet, hflatten⟩ := calls_behind_offer hfew hblocks
  refine ⟨c', hconfig, ?_⟩
  rw [hstate] at hpath
  dsimp only [DeviceState.quiet] at hpath
  rw [hflatten, htarget, Path.append_iff] at hpath
  obtain ⟨flash₁, hoffer, hpath⟩ := hpath
  -- the calls of the offer change no image
  have hsame : flash₁ = view x.config.world := by
    apply flash_of_quiet _ hoffer
    have hcalls : (step x.platform x.config (.offer x.offer x.pResponse)).1.calls = calls := by
      rw [hstep]
      rfl
    intro call hcall
    rw [← hcalls] at hcall
    exact (step_calls_of_not_content x.platform x.config rfl call hcall).1
  subst hsame
  have hprepared := flash_of_preparation hpath
  rw [Path.append_iff] at hprepared
  obtain ⟨flash₂, hwrites, hend⟩ := hprepared
  rw [flash_of_quiet hquiet hend,
    flash_of_writes (fun record _ => recordWrite_eq x.target x.startAddress record) hwrites,
    Function.update_self, Function.update_idem]
  rfl

/-- After a success a cell of the image holds the byte of the last record that covers it,
and the other cells are erased; with at most one record they are what they were.  No other
image has changed. -/
theorem image_of_returned (x : Session W n) (waits : ℕ) (view : W → Flash)
    (erased : ℕ → UInt8) (hP : x.platform.Follows view (FlashStep erased))
    (hfew : x.records.length ≤ 2 ^ 32) (hreturned : (x.run waits).1 = .returned true) :
    ∃ c, (x.run waits).2.config = some c ∧
      (∀ front record back i byte, x.records = front ++ record :: back →
        record.data[i]? = some byte →
        (∀ later ∈ back, ¬ (recordStore x.startAddress later).Covers
          ((record.address - x.startAddress).toNat + i)) →
        view c.world x.target ((record.address - x.startAddress).toNat + i) = byte) ∧
      (∀ a, (∀ record ∈ x.records, ¬ (recordStore x.startAddress record).Covers a) →
        view c.world x.target a =
          if x.records.length ≤ 1 then view x.config.world x.target a else erased a) ∧
      ∀ other, other ≠ x.target → view c.world other = view x.config.world other := by
  obtain ⟨c, hconfig, hflash⟩ := flash_of_returned x waits view erased hP hfew hreturned
  refine ⟨c, hconfig, ?_, ?_, ?_⟩
  · intro front record back i byte hsplit hbyte hlast
    rw [hflash, Function.update_self, stores, hsplit, List.map_append, List.map_cons]
    apply storeAll_last (s := recordStore x.startAddress record) _ _ hbyte
    intro s hs
    obtain ⟨later, hlater, rfl⟩ := List.mem_map.1 hs
    exact hlast later hlater
  · intro a hnone
    rw [hflash, Function.update_self, storeAll_outside]
    · rw [background, unprepared]
      by_cases hsingle : x.records.length ≤ 1
      · simp [hsingle]
      · simp [hsingle]
    · intro s hs
      obtain ⟨record, hrecord, rfl⟩ := List.mem_map.1 hs
      exact hnone record hrecord
  · intro other hother
    rw [hflash, Function.update_of_ne hother]

/-- Two sessions with the same records behind the same first address store the same blocks. -/
theorem stores_perm {W' : Type} {n' : ℕ} {x : Session W n} {y : Session W' n'}
    (hperm : x.records.Perm y.records) (hstart : x.startAddress = y.startAddress) :
    x.stores.Perm y.stores := by
  rw [stores, stores, hstart]
  exact hperm.map _

/-- The image that a payload leaves depends on its records and the address of the first one
alone: neither the order of the records, nor what was in the flash before, nor the product
matters, as long as there are at least two and they do not overlap. -/
theorem image_independent {W' : Type} {n' : ℕ} (x : Session W n) (y : Session W' n')
    (waits waits' : ℕ) (view : W → Flash) (view' : W' → Flash) (erased : ℕ → UInt8)
    (hP : x.platform.Follows view (FlashStep erased))
    (hP' : y.platform.Follows view' (FlashStep erased)) (hperm : x.records.Perm y.records)
    (hstart : x.startAddress = y.startAddress)
    (hseveral : 2 ≤ x.records.length) (hfew : x.records.length ≤ 2 ^ 32)
    (hapart : x.stores.Pairwise Store.Apart) (hreturned : (x.run waits).1 = .returned true)
    (hreturned' : (y.run waits').1 = .returned true) :
    ∃ c c', (x.run waits).2.config = some c ∧ (y.run waits').2.config = some c' ∧
      view c.world x.target = view' c'.world y.target := by
  obtain ⟨c, hconfig, hflash⟩ := flash_of_returned x waits view erased hP hfew hreturned
  have hfew' : y.records.length ≤ 2 ^ 32 := by
    rw [← hperm.length_eq]
    exact hfew
  obtain ⟨c', hconfig', hflash'⟩ :=
    flash_of_returned y waits' view' erased hP' hfew' hreturned'
  have hprepared : ∀ {W : Type} {n : ℕ} (x : Session W n) (flash : Flash),
      2 ≤ x.records.length → x.background erased flash = erased := by
    intro W n x flash hlength
    have hseveral : x.unprepared = false := by
      rw [unprepared, decide_eq_false_iff_not]
      omega
    rw [background, hseveral]
    rfl
  refine ⟨c, c', hconfig, hconfig', ?_⟩
  rw [hflash, hflash', Function.update_self, Function.update_self, hprepared x _ hseveral,
    hprepared y _ (hperm.length_eq ▸ hseveral)]
  exact storeAll_perm erased (stores_perm hperm hstart) hapart

end Success

/-! ## Two orders of two records -/

/-- A session with a product that keeps its images, filled with {lit}`old`. -/
def flashed (old : UInt8) (records : List Record) : Session Flash 1 :=
  { sample records with
    platform := flashPlatform (fun _ => 0xFF) fun _ => 1
    config := ⟨(EngineState.powerOn fun _ => none).register (some onlyComponent),
      fun _ _ => old⟩ }

/-- Three records in the order of their addresses. -/
def inOrder : Session Flash 1 :=
  flashed 0x11 [byteRecord 0x1000 0xAA, byteRecord 0x1001 0xBB, byteRecord 0x1002 0xCC]

/-- The same records with the last two in the other order. -/
def outOfOrder : Session Flash 1 :=
  flashed 0x22 [byteRecord 0x1000 0xAA, byteRecord 0x1002 0xCC, byteRecord 0x1001 0xBB]

/-- A byte of the second record, an erased byte behind the last one, and the other images. -/
theorem image_of_returned_inOrder :
    ∃ c, (inOrder.run 0).2.config = some c ∧ c.world inOrder.target 1 = 0xBB ∧
      c.world inOrder.target 3 = 0xFF ∧
      ∀ other, other ≠ inOrder.target → c.world other = inOrder.config.world other := by
  obtain ⟨c, hconfig, hbytes, herased, hothers⟩ := image_of_returned inOrder 0 id
    (fun _ => 0xFF) (flashPlatform_follows _ _) (by decide) (by decide +kernel)
  refine ⟨c, hconfig, ?_, ?_, hothers⟩
  · exact hbytes [byteRecord 0x1000 0xAA] (byteRecord 0x1001 0xBB) [byteRecord 0x1002 0xCC] 0
      0xBB rfl rfl (by decide)
  · exact herased 3 (by decide)

theorem image_independent_outOfOrder :
    ∃ c c', (inOrder.run 0).2.config = some c ∧ (outOfOrder.run 0).2.config = some c' ∧
      c.world inOrder.target = c'.world outOfOrder.target :=
  image_independent inOrder outOfOrder 0 0 id id (fun _ => 0xFF) (flashPlatform_follows _ _)
    (flashPlatform_follows _ _) (List.Perm.cons _ (List.Perm.swap _ _ _)) rfl (by decide)
    (by decide) (by decide) (by decide +kernel) (by decide +kernel)

end Session

end Transfer
end CFU
