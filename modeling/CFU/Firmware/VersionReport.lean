import CFU.Firmware.Engine

/-!
# CFU firmware - the version report

The report of {lit}`ProcessCFWUGetFWVersion` is filled by a loop over all
registrations.  The loop writes two words for each of them through a raw pointer
that starts at the 20 bytes of the response, so the words behind the response
belong to what it may change.

Main results:

- Definition {lit}`processCFWUGetFWVersion`: {lit}`ProcessCFWUGetFWVersion`.
- Theorem {lit}`processCFWUGetFWVersion_returns_iff`: the report is finished
  exactly when the registration list ends.
- Theorem {lit}`versionReport_complete_iff`: the report stays inside its response and
  is complete exactly when at most two components are registered.
-/

namespace CFU
namespace Firmware

variable {W : Type} {n : ℕ}

/-! ## The response -/

/-- {lit}`CPFWU_REVISION` -/
def cpfwuRevision : BitVec 4 := 2

/-- {lit}`GET_FWVERSION_RESPONSE`.  The first {lit}`blobWords` of the words are
{lit}`versionAndProductInfoBlob`, the others are the memory behind it. -/
structure GetFwVersionResponse where
  componentCount : UInt8
  reserved0 : UInt16
  fwUpdateRevision : BitVec 4
  reserved1 : BitVec 3
  extensionFlag : BitVec 1
  words : ℕ → UInt32

/-- The 20 bytes of {lit}`versionAndProductInfoBlob`. -/
def blobWords : ℕ := 5

/-- {lit}`memset` clears the response and nothing behind it. -/
def GetFwVersionResponse.cleared (pResponse : GetFwVersionResponse) : GetFwVersionResponse where
  componentCount := 0
  reserved0 := 0
  fwUpdateRevision := 0
  reserved1 := 0
  extensionFlag := 0
  words i := if i < blobWords then 0 else pResponse.words i

/-! ## The loop over the registrations -/

/-- The functions of {lit}`ICOMPONENT_INTERFACE` that describe a component.  Each
maps what the word at its pointer held to what it holds afterwards. -/
structure VersionInterface (W : Type) where
  getVersion (pVersion : UInt32) : W → (McuStatus × UInt32) × W
  getProductInfo (pProductInfo : UInt32) : W → (McuStatus × UInt32) × W

/-- The variables of the loop; {lit}`pVersion` is counted in words from the start
of the blob. -/
structure VersionLoop (W : Type) where
  world : W
  words : ℕ → UInt32
  pVersion : ℕ
  componentCount : UInt8

/-- Let a function fill the word under the pointer, and advance the pointer. -/
def VersionLoop.fill (l : VersionLoop W) (f : UInt32 → W → (McuStatus × UInt32) × W) :
    VersionLoop W :=
  let result := f (l.words l.pVersion) l.world
  { l with
    world := result.2
    words := Function.update l.words l.pVersion result.1.2
    pVersion := l.pVersion + 1 }

/-- The body of the loop. -/
def VersionLoop.visit (interface : Fin n → VersionInterface W) (l : VersionLoop W)
    (pRegistration : Fin n) : VersionLoop W :=
  let filled := (l.fill (interface pRegistration).getVersion).fill
    (interface pRegistration).getProductInfo
  { filled with componentCount := filled.componentCount + 1 }

/-- {lit}`ProcessCFWUGetFWVersion`.  The value of {lit}`pResponse` is what the
caller's buffer, and the memory behind it, hold before the call. -/
def processCFWUGetFWVersion (interface : Fin n → VersionInterface W)
    (pResponse : GetFwVersionResponse) : EngineM W n GetFwVersionResponse := fun sys =>
  let response := { pResponse.cleared with fwUpdateRevision := cpfwuRevision }
  match IntrusiveList.visitAll sys.engine.pNext (VersionLoop.visit interface)
      sys.engine.pFirstComponentIFace ⟨sys.world, response.words, 0, 0⟩ with
  | none => .error .endlessWalk sys
  | some l =>
      .ok { response with words := l.words, componentCount := l.componentCount }
        { sys with world := l.world }

/-! ## Runs of the loop -/

/-- The loop returns a report exactly when the registration list ends. -/
theorem processCFWUGetFWVersion_returns_iff (interface : Fin n → VersionInterface W)
    (pResponse : GetFwVersionResponse) (sys : Sys W n) :
    (∃ report sys', processCFWUGetFWVersion interface pResponse sys = .ok report sys') ↔
      ∃ rs, IntrusiveList.Chain sys.engine.pNext sys.engine.pFirstComponentIFace rs := by
  rw [← IntrusiveList.visitAll_isSome_iff (VersionLoop.visit interface)
    ⟨sys.world, pResponse.cleared.words, 0, 0⟩, processCFWUGetFWVersion]
  cases IntrusiveList.visitAll sys.engine.pNext (VersionLoop.visit interface)
      sys.engine.pFirstComponentIFace ⟨sys.world, pResponse.cleared.words, 0, 0⟩ with
  | none => simp
  | some l => simp

/-! ## What the loop writes -/

/-- The functions of every component store a version and a product info that depend
on nothing else. -/
structure StoresDescription (interface : Fin n → VersionInterface W)
    (version productInfo : Fin n → UInt32) : Prop where
  getVersion : ∀ r pVersion world,
    ((interface r).getVersion pVersion world).1.2 = version r
  getProductInfo : ∀ r pProductInfo world,
    ((interface r).getProductInfo pProductInfo world).1.2 = productInfo r

section Loop

variable {interface : Fin n → VersionInterface W} {version productInfo : Fin n → UInt32}

@[simp]
theorem VersionLoop.visit_pVersion (l : VersionLoop W) (r : Fin n) :
    (l.visit interface r).pVersion = l.pVersion + 2 :=
  rfl

@[simp]
theorem VersionLoop.visit_componentCount (l : VersionLoop W) (r : Fin n) :
    (l.visit interface r).componentCount = l.componentCount + 1 :=
  rfl

/-- The body of the loop writes the two words under the pointer. -/
theorem VersionLoop.visit_words (h : StoresDescription interface version productInfo)
    (l : VersionLoop W) (r : Fin n) :
    (l.visit interface r).words =
      Function.update (Function.update l.words l.pVersion (version r)) (l.pVersion + 1)
        (productInfo r) := by
  ext i
  simp [VersionLoop.visit, VersionLoop.fill, h.getVersion, h.getProductInfo]

/-- The other words stay. -/
theorem VersionLoop.visit_words_of_ne (l : VersionLoop W) (r : Fin n) {i : ℕ}
    (hi : i < l.pVersion ∨ l.pVersion + 2 ≤ i) :
    (l.visit interface r).words i = l.words i := by
  have hversion : i ≠ l.pVersion := by omega
  have hproductInfo : i ≠ l.pVersion + 1 := by omega
  simp [VersionLoop.visit, VersionLoop.fill, Function.update_of_ne hversion,
    Function.update_of_ne hproductInfo]

/-- The loop counts the components. -/
theorem foldl_visit_componentCount (l : VersionLoop W) (rs : List (Fin n)) :
    (rs.foldl (VersionLoop.visit interface) l).componentCount =
      l.componentCount + UInt8.ofNat rs.length := by
  induction rs generalizing l with
  | nil => simp
  | cons r rs ih =>
      rw [List.foldl_cons, ih, VersionLoop.visit_componentCount, List.length_cons,
        UInt8.ofNat_add, UInt8.add_assoc, UInt8.add_comm 1]
      rfl

/-- The loop writes two words for each component and no others. -/
theorem foldl_visit_words_of_ne (l : VersionLoop W) (rs : List (Fin n)) {i : ℕ}
    (hi : i < l.pVersion ∨ l.pVersion + 2 * rs.length ≤ i) :
    (rs.foldl (VersionLoop.visit interface) l).words i = l.words i := by
  induction rs generalizing l with
  | nil => rfl
  | cons r rs ih =>
      rw [List.length_cons] at hi
      have hrest : i < (l.visit interface r).pVersion ∨
          (l.visit interface r).pVersion + 2 * rs.length ≤ i := by
        rw [VersionLoop.visit_pVersion]
        omega
      have hhere : i < l.pVersion ∨ l.pVersion + 2 ≤ i := by omega
      rw [List.foldl_cons, ih _ hrest, l.visit_words_of_ne r hhere]

/-- The words of a component are behind those of the components before it. -/
theorem foldl_visit_words (h : StoresDescription interface version productInfo)
    (l : VersionLoop W) (rs : List (Fin n)) {i : ℕ} {r : Fin n} (hr : rs[i]? = some r) :
    (rs.foldl (VersionLoop.visit interface) l).words (l.pVersion + 2 * i) = version r ∧
      (rs.foldl (VersionLoop.visit interface) l).words (l.pVersion + 2 * i + 1) =
        productInfo r := by
  induction rs generalizing l i with
  | nil => cases hr
  | cons r' rs ih =>
      rw [List.foldl_cons]
      cases i with
      | zero =>
          rw [List.getElem?_cons_zero, Option.some.injEq] at hr
          subst hr
          constructor
          · rw [foldl_visit_words_of_ne _ _ (by rw [VersionLoop.visit_pVersion]; omega),
              VersionLoop.visit_words h, Function.update_of_ne (by omega), Nat.mul_zero,
              Nat.add_zero, Function.update_self]
          · rw [foldl_visit_words_of_ne _ _ (by rw [VersionLoop.visit_pVersion]; omega),
              VersionLoop.visit_words h, Nat.mul_zero, Nat.add_zero, Function.update_self]
      | succ i =>
          rw [List.getElem?_cons_succ] at hr
          have hbehind : l.pVersion + 2 * (i + 1) = l.pVersion + 2 + 2 * i := by omega
          rw [hbehind]
          exact ih (l.visit interface r') hr

/-- The report on a list of components. -/
theorem processCFWUGetFWVersion_of_chain (interface : Fin n → VersionInterface W)
    {sys : Sys W n} {rs : List (Fin n)}
    (hchain : IntrusiveList.Chain sys.engine.pNext sys.engine.pFirstComponentIFace rs)
    (pResponse : GetFwVersionResponse) :
    ∃ report sys', processCFWUGetFWVersion interface pResponse sys = .ok report sys' ∧
      report.words = (rs.foldl (VersionLoop.visit interface)
        ⟨sys.world, pResponse.cleared.words, 0, 0⟩).words ∧
      report.componentCount = UInt8.ofNat rs.length := by
  rw [processCFWUGetFWVersion]
  simp only [hchain.visitAll_eq]
  refine ⟨_, _, rfl, rfl, ?_⟩
  rw [foldl_visit_componentCount, UInt8.zero_add]

end Loop

/-- The report is finished, it leaves the memory behind the response alone, it counts
the components, and it has the version and the product info of each at its place. -/
def CompleteReport (interface : Fin n → VersionInterface W) (version productInfo : Fin n → UInt32)
    (sys : Sys W n) (rs : List (Fin n)) (pResponse : GetFwVersionResponse) : Prop :=
  ∃ report sys', processCFWUGetFWVersion interface pResponse sys = .ok report sys' ∧
    (∀ i, blobWords ≤ i → report.words i = pResponse.words i) ∧
    report.componentCount.toNat = rs.length ∧
    ∀ i r, rs[i]? = some r →
      report.words (2 * i) = version r ∧ report.words (2 * i + 1) = productInfo r

/-- The report is complete whatever the memory holds exactly when at most two components
are registered: the blob has room for two, and the third writes behind it. -/
theorem versionReport_complete_iff (interface : Fin n → VersionInterface W)
    (version productInfo : Fin n → UInt32)
    (hreports : StoresDescription interface version productInfo) (sys : Sys W n) (rs : List (Fin n))
    (hchain : IntrusiveList.Chain sys.engine.pNext sys.engine.pFirstComponentIFace rs) :
    (∀ pResponse, CompleteReport interface version productInfo sys rs pResponse) ↔
      rs.length ≤ 2 := by
  constructor
  · intro hcomplete
    by_contra hlength
    rw [Nat.not_le] at hlength
    have hthird : rs[2]? = some rs[2] := List.getElem?_eq_getElem hlength
    -- the memory behind the blob holds anything but the third product info
    obtain ⟨report, sys', -, hmemory, -, hwords⟩ :=
      hcomplete ⟨0, 0, 0, 0, 0, fun _ => productInfo rs[2] + 1⟩
    have hwritten := (hwords 2 rs[2] hthird).2
    rw [hmemory 5 (Nat.le_refl 5)] at hwritten
    simp at hwritten
  · intro hlength pResponse
    obtain ⟨report, sys', hrun, hwords, hcount⟩ :=
      processCFWUGetFWVersion_of_chain interface hchain pResponse
    refine ⟨report, sys', hrun, ?_, ?_, ?_⟩
    · intro i hi
      rw [blobWords] at hi
      have hbehind : 0 + 2 * rs.length ≤ i := by omega
      rw [hwords, foldl_visit_words_of_ne _ _ (.inr hbehind)]
      exact if_neg (Nat.not_lt.mpr hi)
    · rw [hcount, UInt8.toNat_ofNat']
      omega
    · intro i r hr
      have hplace := foldl_visit_words hreports
        ⟨sys.world, pResponse.cleared.words, 0, 0⟩ rs hr
      rw [Nat.zero_add] at hplace
      rw [hwords]
      exact hplace

/-- Component functions that report the place of the component on the list. -/
def placeInterface (r : Fin n) : VersionInterface Unit where
  getVersion _ world := ((mcuStatusSuccess, UInt32.ofNat r), world)
  getProductInfo _ world := ((mcuStatusSuccess, UInt32.ofNat r), world)

theorem storesDescription_placeInterface :
    StoresDescription (placeInterface (n := n)) (fun r => UInt32.ofNat r)
      (fun r => UInt32.ofNat r) where
  getVersion _ _ _ := rfl
  getProductInfo _ _ _ := rfl

/-- All {lit}`n` registration objects are on the list, in their order. -/
def allRegistered (n : ℕ) : Sys Unit n where
  engine :=
    { EngineState.powerOn fun r => if h : r + 1 < n then some ⟨r + 1, h⟩ else none with
      pFirstComponentIFace := if h : 0 < n then some ⟨0, h⟩ else none }
  world := ()
  calls := []

theorem versionReport_complete_iff_two :
    IntrusiveList.Chain (allRegistered 2).engine.pNext
        (allRegistered 2).engine.pFirstComponentIFace [firstComponent, secondComponent] ∧
      ∀ pResponse, CompleteReport placeInterface (fun r => UInt32.ofNat r)
        (fun r => UInt32.ofNat r) (allRegistered 2) [firstComponent, secondComponent] pResponse :=
  ⟨.cons (.cons .nil),
    (versionReport_complete_iff placeInterface _ _ storesDescription_placeInterface
      (allRegistered 2) [firstComponent, secondComponent] (.cons (.cons .nil))).mpr
        (Nat.le_refl 2)⟩

/-- With three components the product info of the third is written to the four bytes
behind the response. -/
theorem threeComponents_written_behind_response :
    ∃ rs, IntrusiveList.Chain (allRegistered 3).engine.pNext
        (allRegistered 3).engine.pFirstComponentIFace rs ∧ rs.length = 3 ∧
      ¬ ∀ pResponse, CompleteReport placeInterface (fun r => UInt32.ofNat r)
        (fun r => UInt32.ofNat r) (allRegistered 3) rs pResponse := by
  refine ⟨[⟨0, by decide⟩, ⟨1, by decide⟩, ⟨2, by decide⟩], .cons (.cons (.cons .nil)), rfl, ?_⟩
  intro hcomplete
  obtain ⟨report, sys', hrun, hmemory, -⟩ := hcomplete ⟨0, 0, 0, 0, 0, fun _ => 0⟩
  have hkept := hmemory blobWords (Nat.le_refl blobWords)
  cases hrun
  revert hkept
  decide

end Firmware
end CFU
