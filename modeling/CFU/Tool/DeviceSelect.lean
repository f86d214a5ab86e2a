import CFU.Tool.Discovery

/-!
# CFU tool - the choice of a device

When several devices were found, the tool asks for a number until one of them is chosen.
The error bits of the stream are not looked at.  A token that is no number stores 0 and so
chooses the first device, and once the stream has failed every further extraction leaves
the variable as it is, so that the loop goes on for ever.

Main results:

- Definition {lit}`chosen`: what the tokens of a text choose.
- Theorem {lit}`selectLoop_returns`, {lit}`selectLoop_ends`: the loop returns that device,
  and ends when there is one.
- Theorem {lit}`selects_entered_iff`: for which texts the loop ends with a device that the
  user entered.
-/

namespace CFU
namespace Tool

open TextStream

/-! ## The loop -/

section Loop

/-- An {lit}`int` as a {lit}`size_t`. -/
def toSize (selection : ℤ) : ℕ :=
  (selection % 18446744073709551616).toNat

/-- The selected device does not exist. -/
def doesNotExist (size : ℕ) (selection : ℤ) : Bool :=
  decide (size - 1 < toSize selection) || decide (selection < 0)

/-- The loop of {lit}`DeviceSelect` on a vector of a given size: the selection behind it,
unless it runs for more than {lit}`rounds`. -/
def selectLoop (size : ℕ) : ℕ → ℤ → TextStream → Option ℤ
  | 0, _, _ => none
  | rounds + 1, selection, cin =>
      if selection = -1 then
        let extracted := cin.extractInt selection
        selectLoop size rounds (if doesNotExist size extracted.1 then -1 else extracted.1)
          extracted.2
      else some selection

/-- {lit}`DeviceSelect`: the index of the interface whose path is returned, or {lit}`none`
for {lit}`NULL`, unless it runs for more than {lit}`rounds`. -/
def deviceSelect (rounds : ℕ) (vectorInterfaces : List PathAndVersion) (cin : TextStream) :
    Option (Option ℕ) :=
  if vectorInterfaces.length = 0 then some none
  else if vectorInterfaces.length = 1 then some (some 0)
  else (selectLoop vectorInterfaces.length rounds (-1) cin).map fun selection =>
    some (toSize selection)

/-- The comparison with the size and the sign together reject what is not an index. -/
theorem doesNotExist_iff {size : ℕ} (hsize : 0 < size) {selection : ℤ}
    (hint : selection ≤ intMax) :
    doesNotExist size selection = true ↔ ¬ (0 ≤ selection ∧ selection < size) := by
  unfold doesNotExist toSize
  rw [Bool.or_eq_true, decide_eq_true_eq, decide_eq_true_eq]
  unfold intMax at hint
  omega

theorem doesNotExist_minusOne {size : ℕ} (hsize : 0 < size) : doesNotExist size (-1) = true := by
  rw [doesNotExist_iff hsize (by decide)]
  omega

theorem toSize_of_nonneg {selection : ℤ} (hnonneg : 0 ≤ selection) (hint : selection ≤ intMax) :
    (toSize selection : ℤ) = selection := by
  unfold toSize
  unfold intMax at hint
  omega

theorem saturate_le (v : ℤ) : saturate v ≤ intMax := by
  unfold saturate
  split
  · decide
  · split
    · exact Int.le_refl _
    · omega

theorem selectLoop_succ (size rounds : ℕ) (cin : TextStream) :
    selectLoop size (rounds + 1) (-1) cin =
      selectLoop size rounds
        (if doesNotExist size (cin.extractInt (-1)).1 then -1 else (cin.extractInt (-1)).1)
        (cin.extractInt (-1)).2 := by
  rw [selectLoop, if_pos rfl]

/-- A device that was selected is returned in the next round. -/
theorem selectLoop_selected {selection : ℤ} (h : selection ≠ -1) (size rounds : ℕ)
    (cin : TextStream) : selectLoop size (rounds + 1) selection cin = some selection := by
  rw [selectLoop, if_neg h]

theorem eq_of_selectLoop_selected {selection i : ℤ} (h : selection ≠ -1) {size rounds : ℕ}
    {cin : TextStream} (hloop : selectLoop size rounds selection cin = some i) :
    i = selection := by
  cases rounds with
  | zero => simp [selectLoop] at hloop
  | succ rounds =>
      rw [selectLoop_selected h] at hloop
      exact (Option.some.inj hloop).symm

/-- The loop does not end on a stream that has failed. -/
theorem selectLoop_spins {cin : TextStream} (h : cin.good = false) {size : ℕ} (hsize : 0 < size)
    (rounds : ℕ) : selectLoop size rounds (-1) cin = none := by
  induction rounds generalizing cin with
  | zero => rfl
  | succ rounds ih =>
      rw [selectLoop_succ, extractInt_of_not_good h, if_pos (doesNotExist_minusOne hsize)]
      apply ih
      simp [good]

end Loop

/-! ## Runs -/

section Runs

/-- What the tokens of a text choose. -/
def chosen (size : ℕ) : List (Option ℤ) → Option ℤ
  | [] => none
  | none :: _ => some 0
  | some v :: rest =>
      if doesNotExist size (saturate v) then
        if saturate v = v then chosen size rest else none
      else some (saturate v)

variable {size : ℕ}

/-- The first round of the loop, by the first token. -/
theorem selectLoop_end (hsize : 0 < size) {text : List Char} (h : nextToken text = none)
    (rounds : ℕ) : selectLoop size rounds (-1) (.ofText text) = none := by
  cases rounds with
  | zero => rfl
  | succ rounds =>
      rw [selectLoop_succ, extractInt_end h, if_pos (doesNotExist_minusOne hsize)]
      exact selectLoop_spins rfl hsize rounds

theorem selectLoop_noNumber (hsize : 0 < size) {text rest : List Char}
    (h : nextToken text = some (none, rest)) (rounds : ℕ) :
    ∃ cin, selectLoop size (rounds + 1) (-1) (.ofText text) = selectLoop size rounds 0 cin := by
  have haccept : ¬ doesNotExist size 0 = true := by
    rw [doesNotExist_iff hsize (by decide)]
    omega
  have hzero := (extractInt_noNumber h (-1)).1
  rw [selectLoop_succ, hzero, if_neg haccept]
  exact ⟨_, rfl⟩

theorem selectLoop_accepted {text rest : List Char} {v : ℤ}
    (h : nextToken text = some (some v, rest)) (haccept : ¬ doesNotExist size (saturate v) = true)
    (rounds : ℕ) :
    ∃ cin, selectLoop size (rounds + 1) (-1) (.ofText text) =
      selectLoop size rounds (saturate v) cin := by
  rw [selectLoop_succ, extractInt_number h, if_neg haccept]
  exact ⟨_, rfl⟩

theorem selectLoop_saturated (hsize : 0 < size) {text rest : List Char} {v : ℤ}
    (h : nextToken text = some (some v, rest)) (hreject : doesNotExist size (saturate v) = true)
    (hrange : saturate v ≠ v) (rounds : ℕ) :
    selectLoop size rounds (-1) (.ofText text) = none := by
  cases rounds with
  | zero => rfl
  | succ rounds =>
      rw [selectLoop_succ, extractInt_number h, if_pos hreject]
      apply selectLoop_spins _ hsize
      simp [good, hrange]

theorem selectLoop_rejected (hsize : 0 < size) {text rest : List Char} {v : ℤ}
    (h : nextToken text = some (some v, rest)) (hreject : doesNotExist size (saturate v) = true)
    (hrange : saturate v = v) (rounds : ℕ) :
    selectLoop size (rounds + 1) (-1) (.ofText text) =
      selectLoop size rounds (-1) (.ofText rest) := by
  rw [selectLoop_succ, extractInt_number h, if_pos hreject]
  cases rest with
  | nil =>
      have hend : nextToken [] = none := rfl
      rw [selectLoop_end hsize hend]
      apply selectLoop_spins _ hsize
      simp [good]
  | cons c rest => simp [hrange, ofText]

theorem ne_of_accepted (hsize : 0 < size) {v : ℤ}
    (haccept : ¬ doesNotExist size (saturate v) = true) : saturate v ≠ -1 := by
  rw [doesNotExist_iff hsize (saturate_le v), not_not] at haccept
  omega

/-- The loop returns what the tokens choose. -/
theorem selectLoop_returns (hsize : 0 < size) {rounds : ℕ} {text : List Char} {i : ℤ}
    (h : selectLoop size rounds (-1) (.ofText text) = some i) :
    chosen size (tokens text) = some i := by
  induction rounds generalizing text with
  | zero => simp [selectLoop] at h
  | succ rounds ih =>
      cases hnext : nextToken text with
      | none =>
          rw [selectLoop_end hsize hnext] at h
          simp at h
      | some next =>
          obtain ⟨token, rest⟩ := next
          rw [tokens_of_some hnext]
          cases token with
          | none =>
              obtain ⟨cin, hloop⟩ := selectLoop_noNumber hsize hnext rounds
              rw [hloop] at h
              rw [chosen, eq_of_selectLoop_selected (by decide) h]
          | some v =>
              rw [chosen]
              by_cases hreject : doesNotExist size (saturate v) = true
              · rw [if_pos hreject]
                by_cases hrange : saturate v = v
                · rw [if_pos hrange]
                  rw [selectLoop_rejected hsize hnext hreject hrange] at h
                  exact ih h
                · rw [selectLoop_saturated hsize hnext hreject hrange] at h
                  simp at h
              · obtain ⟨cin, hloop⟩ := selectLoop_accepted hnext hreject rounds
                rw [hloop] at h
                rw [if_neg hreject, eq_of_selectLoop_selected (ne_of_accepted hsize hreject) h]

/-- When the tokens choose a device, the loop ends. -/
theorem selectLoop_ends (hsize : 0 < size) {text : List Char} {i : ℤ}
    (h : chosen size (tokens text) = some i) :
    ∃ rounds, selectLoop size rounds (-1) (.ofText text) = some i := by
  induction text using tokens.induct with
  | case1 text hnext =>
      rw [tokens_of_none hnext] at h
      simp [chosen] at h
  | case2 text token rest hnext ih =>
      rw [tokens_of_some hnext] at h
      cases token with
      | none =>
          obtain ⟨cin, hloop⟩ := selectLoop_noNumber hsize hnext 1
          refine ⟨2, ?_⟩
          rw [hloop, selectLoop_selected (by decide)]
          exact h
      | some v =>
          rw [chosen] at h
          by_cases hreject : doesNotExist size (saturate v) = true
          · rw [if_pos hreject] at h
            by_cases hrange : saturate v = v
            · rw [if_pos hrange] at h
              obtain ⟨rounds, hrounds⟩ := ih h
              refine ⟨rounds + 1, ?_⟩
              rw [selectLoop_rejected hsize hnext hreject hrange]
              exact hrounds
            · rw [if_neg hrange] at h
              simp at h
          · obtain ⟨cin, hloop⟩ := selectLoop_accepted hnext hreject 1
            refine ⟨2, ?_⟩
            rw [if_neg hreject] at h
            rw [hloop, selectLoop_selected (ne_of_accepted hsize hreject)]
            exact h

end Runs

/-! ## Entered devices -/

section Entered

variable {size : ℕ}

/-- The loop ends with a device that the user entered: the first token that ends the loop
is the number of a device, or what it stores happens to be entered later.  A token that is
no number stores 0, and one above the range of {lit}`int` the greatest {lit}`int`. -/
inductive EntersDevice (size : ℕ) : List (Option ℤ) → Prop
  | device {v : ℤ} {rest : List (Option ℤ)} (hnonneg : 0 ≤ v) (hlt : v < size)
      (hint : v ≤ intMax) : EntersDevice size (some v :: rest)
  | other {v : ℤ} {rest : List (Option ℤ)} (hmin : intMin ≤ v) (hmax : v ≤ intMax)
      (hout : ¬ (0 ≤ v ∧ v < size)) (hrest : EntersDevice size rest) :
      EntersDevice size (some v :: rest)
  | noNumber {rest : List (Option ℤ)} (hlater : some 0 ∈ rest) : EntersDevice size (none :: rest)
  | overflow {v : ℤ} {rest : List (Option ℤ)} (hv : intMax < v) (hsize : intMax < size)
      (hlater : some intMax ∈ rest) : EntersDevice size (some v :: rest)

theorem saturate_eq_self_iff (v : ℤ) : saturate v = v ↔ intMin ≤ v ∧ v ≤ intMax := by
  unfold saturate
  split
  · omega
  · split <;> omega

/-- A number that is stored as a device is in range, or above the range of {lit}`int`. -/
theorem accepted_cases (hsize : 0 < size) {v : ℤ}
    (haccept : ¬ doesNotExist size (saturate v) = true) :
    (0 ≤ v ∧ v < size ∧ v ≤ intMax) ∨ (intMax < v ∧ intMax < size) := by
  rw [doesNotExist_iff hsize (saturate_le v), not_not] at haccept
  have hle := saturate_le v
  unfold saturate at haccept hle
  by_cases hlow : v < intMin
  · rw [if_pos hlow] at haccept
    exact absurd haccept.1 (by decide)
  · rw [if_neg hlow] at haccept hle
    by_cases hhigh : intMax < v
    · rw [if_pos hhigh] at haccept
      exact Or.inr ⟨hhigh, haccept.2⟩
    · rw [if_neg hhigh] at haccept hle
      exact Or.inl ⟨haccept.1, haccept.2, hle⟩

/-- Only the index of a device is chosen. -/
theorem chosen_range (hsize : 0 < size) {toks : List (Option ℤ)} {i : ℤ}
    (h : chosen size toks = some i) : 0 ≤ i ∧ i < size ∧ i ≤ intMax := by
  induction toks with
  | nil => simp [chosen] at h
  | cons token rest ih =>
      cases token with
      | none =>
          rw [chosen, Option.some.injEq] at h
          subst h
          exact ⟨Int.le_refl 0, by omega, by decide⟩
      | some v =>
          rw [chosen] at h
          by_cases hreject : doesNotExist size (saturate v) = true
          · rw [if_pos hreject] at h
            by_cases hrange : saturate v = v
            · rw [if_pos hrange] at h
              exact ih h
            · rw [if_neg hrange] at h
              simp at h
          · rw [if_neg hreject, Option.some.injEq] at h
            rw [doesNotExist_iff hsize (saturate_le v), not_not, h] at hreject
            exact ⟨hreject.1, hreject.2, h ▸ saturate_le v⟩

theorem saturate_of_lt {v : ℤ} (h : intMax < v) : saturate v = intMax := by
  have hlow : ¬ v < intMin := by
    have hle : intMin ≤ intMax := by decide
    omega
  rw [saturate, if_neg hlow, if_pos h]

/-- The number of a device is chosen. -/
theorem chosen_device (hsize : 0 < size) {v : ℤ} (hin : 0 ≤ v ∧ v < size) (hint : v ≤ intMax)
    (rest : List (Option ℤ)) : chosen size (some v :: rest) = some v := by
  have hrange : saturate v = v :=
    (saturate_eq_self_iff v).2 ⟨Int.le_trans (by decide) hin.1, hint⟩
  have haccept : ¬ doesNotExist size v = true := by
    rw [doesNotExist_iff hsize hint, not_not]
    exact hin
  rw [chosen, hrange, if_neg haccept]

/-- Another number of the range of {lit}`int` is passed over. -/
theorem chosen_other (hsize : 0 < size) {v : ℤ} (hmin : intMin ≤ v) (hmax : v ≤ intMax)
    (hout : ¬ (0 ≤ v ∧ v < size)) (rest : List (Option ℤ)) :
    chosen size (some v :: rest) = chosen size rest := by
  have hrange : saturate v = v := (saturate_eq_self_iff v).2 ⟨hmin, hmax⟩
  have hreject : doesNotExist size v = true := (doesNotExist_iff hsize hmax).2 hout
  rw [chosen, hrange, if_pos hreject, if_pos rfl]

/-- A number above the range chooses the greatest {lit}`int`, when there are enough
devices. -/
theorem chosen_overflow (hsize : intMax < size) {v : ℤ} (hv : intMax < v)
    (rest : List (Option ℤ)) : chosen size (some v :: rest) = some intMax := by
  have hpos : 0 < size := by
    have hle : 0 ≤ intMax := by decide
    omega
  have haccept : ¬ doesNotExist size intMax = true := by
    rw [doesNotExist_iff hpos (Int.le_refl _), not_not]
    exact ⟨by decide, hsize⟩
  rw [chosen, saturate_of_lt hv, if_neg haccept]

/-- A device that the user entered is chosen. -/
theorem EntersDevice.exists_chosen (hsize : 0 < size) {toks : List (Option ℤ)}
    (h : EntersDevice size toks) : ∃ i, chosen size toks = some i ∧ some i ∈ toks := by
  induction h with
  | @device v rest hnonneg hlt hint =>
      exact ⟨v, chosen_device hsize ⟨hnonneg, hlt⟩ hint rest, List.mem_cons_self⟩
  | @other v rest hmin hmax hout hrest ih =>
      obtain ⟨i, hi, hmem⟩ := ih
      refine ⟨i, ?_, List.mem_cons_of_mem _ hmem⟩
      rw [chosen_other hsize hmin hmax hout]
      exact hi
  | noNumber hlater => exact ⟨0, rfl, List.mem_cons_of_mem _ hlater⟩
  | @overflow v rest hv hlt hlater =>
      exact ⟨intMax, chosen_overflow hlt hv rest, List.mem_cons_of_mem _ hlater⟩

/-- What is chosen and occurs among the tokens was entered. -/
theorem entersDevice_of_chosen (hsize : 0 < size) {toks : List (Option ℤ)} {i : ℤ}
    (hi : chosen size toks = some i) (hmem : some i ∈ toks) : EntersDevice size toks := by
  induction toks with
  | nil => simp at hmem
  | cons token rest ih =>
      cases token with
      | none =>
          rw [chosen, Option.some.injEq] at hi
          subst hi
          exact .noNumber (by simpa using hmem)
      | some v =>
          by_cases hreject : doesNotExist size (saturate v) = true
          · by_cases hrange : saturate v = v
            · have hint := (saturate_eq_self_iff v).1 hrange
              have hout : ¬ (0 ≤ v ∧ v < size) := by
                rwa [hrange, doesNotExist_iff hsize hint.2] at hreject
              rw [chosen_other hsize hint.1 hint.2 hout] at hi
              have hin := chosen_range hsize hi
              have hne : i ≠ v := by
                rintro rfl
                exact hout ⟨hin.1, hin.2.1⟩
              have hrest : some i ∈ rest := by simpa [hne] using hmem
              exact .other hint.1 hint.2 hout (ih hi hrest)
            · rw [chosen, if_pos hreject, if_neg hrange] at hi
              simp at hi
          · rcases accepted_cases hsize hreject with ⟨hnonneg, hlt, hint⟩ | ⟨hv, hlt⟩
            · exact .device hnonneg hlt hint
            · rw [chosen_overflow hlt hv, Option.some.injEq] at hi
              subst hi
              have hne : intMax ≠ v := by omega
              exact .overflow hv hlt (by simpa [hne] using hmem)

/-- The selection ends, and the user entered the index of a device that it returns. -/
def SelectsEntered (vectorInterfaces : List PathAndVersion) (text : List Char) : Prop :=
  (∃ rounds selected, deviceSelect rounds vectorInterfaces (.ofText text) = some selected) ∧
    ∀ rounds i, deviceSelect rounds vectorInterfaces (.ofText text) = some (some i) →
      some (i : ℤ) ∈ tokens text

theorem deviceSelect_cons_cons (rounds : ℕ) (first second : PathAndVersion)
    (rest : List PathAndVersion) (cin : TextStream) :
    deviceSelect rounds (first :: second :: rest) cin =
      (selectLoop (rest.length + 2) rounds (-1) cin).map fun selection =>
        some (toSize selection) :=
  rfl

/-- For which texts the selection among several devices ends with one that the user
entered. -/
theorem selects_entered_iff (first second : PathAndVersion) (rest : List PathAndVersion)
    (text : List Char) :
    SelectsEntered (first :: second :: rest) text ↔
      EntersDevice (rest.length + 2) (tokens text) := by
  have hsize : 0 < rest.length + 2 := Nat.succ_pos _
  constructor
  · rintro ⟨⟨rounds, selected, hselect⟩, hentered⟩
    have hmap := hselect
    rw [deviceSelect_cons_cons, Option.map_eq_some_iff] at hmap
    obtain ⟨i, hloop, hi⟩ := hmap
    have hchosen := selectLoop_returns hsize hloop
    obtain ⟨hnonneg, _, hint⟩ := chosen_range hsize hchosen
    rw [← hi] at hselect
    have hmem := hentered rounds (toSize i) hselect
    rw [toSize_of_nonneg hnonneg hint] at hmem
    exact entersDevice_of_chosen hsize hchosen hmem
  · intro henters
    obtain ⟨i, hchosen, hmem⟩ := henters.exists_chosen hsize
    constructor
    · obtain ⟨rounds, hloop⟩ := selectLoop_ends hsize hchosen
      refine ⟨rounds, some (toSize i), ?_⟩
      rw [deviceSelect_cons_cons, hloop, Option.map_some]
    · intro rounds j hselect
      rw [deviceSelect_cons_cons, Option.map_eq_some_iff] at hselect
      obtain ⟨i', hloop, hj⟩ := hselect
      have hchosen' := selectLoop_returns hsize hloop
      obtain ⟨hnonneg, _, hint⟩ := chosen_range hsize hchosen'
      rw [hchosen, Option.some.injEq] at hchosen'
      rw [Option.some.injEq] at hj
      rw [← hj, toSize_of_nonneg hnonneg hint, ← hchosen']
      exact hmem

/-- Two devices. -/
def twoDevices : List PathAndVersion :=
  [⟨"first".toList, .zero⟩, ⟨"second".toList, .zero⟩]

/-- A word selects the first device, and without input the loop does not end. -/
theorem word_selects_first_device :
    deviceSelect 2 twoDevices (.ofText "abc".toList) = some (some 0) ∧
      some 0 ∉ tokens "abc".toList ∧
      ∀ rounds, deviceSelect rounds twoDevices (.ofText []) = none := by
  have hword : nextToken "abc".toList = some (none, []) := by rfl
  have htokens : tokens "abc".toList = [none] := by
    rw [tokens_of_some hword, tokens_of_none rfl]
  refine ⟨rfl, ?_, ?_⟩
  · rw [htokens]
    simp
  · intro rounds
    rw [twoDevices, deviceSelect_cons_cons, selectLoop_end (Nat.succ_pos _) rfl]
    rfl

end Entered

end Tool
end CFU
