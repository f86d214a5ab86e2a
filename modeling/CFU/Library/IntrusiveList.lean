import Mathlib.Data.Fintype.Card
import Mathlib.Logic.Function.Basic
import Mathlib.Tactic.Common

/-!
# Intrusive lists - searching a chain of links in memory

An intrusive list keeps its links inside the listed objects, so a list is a
head pointer together with a partial function {lit}`next` on objects.  Nothing
makes such a chain end: this file searches it with an explicit number of
permitted steps, and shows that as many steps as there are objects decide
whether the search ever ends.

Main results:

- Theorem {lit}`find_eq_none_iff`: the bounded search is undecided exactly when
  the search does not end with any number of steps.
- Theorem {lit}`find_some_found`: an object that the search returns matches.
- Theorem {lit}`exists_find_iff`: the search returns an object exactly when a
  match is on the chain, whether or not the chain ends.
- Theorem {lit}`find_mem_of_closed`: a set that holds the head and is closed
  under links holds every object that the search returns.
- Theorem {lit}`chain_push_iff`: a pushed object gives a chain that ends exactly
  when the old chain ends and the object was not on it.
- Theorem {lit}`visitAll_isSome_iff`: a loop over all objects ends exactly when
  the chain does.

Current gaps:

- The lists are only searched and pushed to; removal is not treated.
-/

namespace IntrusiveList

universe u

variable {ι : Type u}

/-! ## Bounded searches -/

/-- The loop {lit}`while (p) { if (found p) break; p = p->next; }` with at most
{lit}`k` loop bodies.  The result is {lean}`none` when they do not suffice. -/
def walk (next : ι → Option ι) (found : ι → Bool) : ℕ → Option ι → Option (Option ι)
  | _, none => some none
  | 0, some _ => none
  | k + 1, some a => if found a then some (some a) else walk next found k (next a)

/-- The object reached after following {lit}`k` links. -/
def nodeAt (next : ι → Option ι) (head : Option ι) : ℕ → Option ι
  | 0 => head
  | k + 1 => (nodeAt next head k).bind next

/-- The object is on the chain from {lit}`head`. -/
def OnChain (next : ι → Option ι) (head : Option ι) (a : ι) : Prop :=
  ∃ k, nodeAt next head k = some a

variable {next : ι → Option ι} {found : ι → Bool}

@[simp]
theorem walk_none (k : ℕ) : walk next found k none = some none := by
  cases k <;> rfl

@[simp]
theorem walk_zero_some (a : ι) : walk next found 0 (some a) = none :=
  rfl

theorem walk_succ_some (k : ℕ) (a : ι) :
    walk next found (k + 1) (some a) =
      if found a then some (some a) else walk next found k (next a) :=
  rfl

/-- Following links from the second object is following them from the first. -/
theorem nodeAt_next (a : ι) (k : ℕ) :
    nodeAt next (next a) k = nodeAt next (some a) (k + 1) := by
  induction k with
  | zero => rfl
  | succ k ih =>
      rw [nodeAt, ih]
      rfl

/-- A search that is undecided after {lit}`i` bodies continues at object {lit}`i`. -/
theorem walk_add_of_eq_none {i : ℕ} {head : Option ι}
    (h : walk next found i head = none) (k : ℕ) :
    walk next found (i + k) head = walk next found k (nodeAt next head i) := by
  induction i generalizing head with
  | zero => rw [Nat.zero_add, nodeAt]
  | succ i ih =>
      cases head with
      | none => simp at h
      | some a =>
          rw [walk_succ_some] at h
          split at h
          · contradiction
          · rename_i hfound
            rw [Nat.add_right_comm, walk_succ_some, if_neg hfound, ih h, nodeAt_next]

/-- An undecided search stands at an object. -/
theorem nodeAt_isSome_of_eq_none {i : ℕ} {head : Option ι}
    (h : walk next found i head = none) : ∃ a, nodeAt next head i = some a := by
  have hzero := walk_add_of_eq_none h 0
  rw [Nat.add_zero, h] at hzero
  cases hnode : nodeAt next head i with
  | none => simp [hnode] at hzero
  | some a => exact ⟨a, rfl⟩

/-- More permitted steps do not change a decided search. -/
theorem walk_add_of_eq_some {k : ℕ} {head : Option ι} {r : Option ι}
    (h : walk next found k head = some r) (m : ℕ) :
    walk next found (k + m) head = some r := by
  induction k generalizing head with
  | zero =>
      cases head with
      | none => simpa using h
      | some a => simp at h
  | succ k ih =>
      cases head with
      | none => simpa using h
      | some a =>
          rw [walk_succ_some] at h
          rw [Nat.add_right_comm, walk_succ_some]
          split
          · rename_i hfound
            rwa [if_pos hfound] at h
          · rename_i hfound
            rw [if_neg hfound] at h
            exact ih h

/-- Until a search is decided it does not stand at one object twice, since the
search would then never be decided. -/
theorem nodeAt_injective_of_first {head : Option ι} {n i j : ℕ} {r : Option ι}
    (hend : walk next found n head = some r)
    (hbefore : ∀ m, m < n → walk next found m head = none)
    (hij : i < j) (hjn : j < n) : nodeAt next head i ≠ nodeAt next head j := by
  intro heq
  have hsplit : n = j + (n - j) := by omega
  have hfromj : walk next found (n - j) (nodeAt next head j) = some r := by
    rw [← walk_add_of_eq_none (hbefore j hjn), ← hsplit, hend]
  have hfromi : walk next found (i + (n - j)) head = some r := by
    rw [walk_add_of_eq_none (hbefore i (by omega)), heq, hfromj]
  rw [hbefore _ (by omega)] at hfromi
  contradiction

/-- A search as long as the way to a match returns an object. -/
theorem exists_walk_of_nodeAt {k : ℕ} {head : Option ι} {a : ι}
    (hnode : nodeAt next head k = some a) (ha : found a = true) :
    ∃ b, walk next found (k + 1) head = some (some b) := by
  induction k generalizing head with
  | zero =>
      rw [nodeAt] at hnode
      exact ⟨a, by rw [hnode, walk_succ_some, if_pos ha]⟩
  | succ k ih =>
      cases head with
      | none =>
          have hnone : ∀ j, nodeAt next none j = none := by
            intro j
            induction j with
            | zero => rfl
            | succ j ihj => rw [nodeAt, ihj, Option.bind_none]
          rw [hnone] at hnode
          contradiction
      | some h =>
          rw [← nodeAt_next] at hnode
          rw [walk_succ_some]
          split
          · exact ⟨h, rfl⟩
          · exact ih hnode

/-- An object that a bounded search returns is on the chain. -/
theorem onChain_of_walk {k : ℕ} {head : Option ι} {a : ι}
    (h : walk next found k head = some (some a)) : OnChain next head a := by
  induction k generalizing head with
  | zero => cases head <;> simp at h
  | succ k ih =>
      cases head with
      | none => simp at h
      | some b =>
          rw [walk_succ_some] at h
          split at h
          · cases h
            exact ⟨0, rfl⟩
          · obtain ⟨j, hj⟩ := ih h
            exact ⟨j + 1, by rw [← nodeAt_next, hj]⟩

/-! ## Deciding a search -/

section Decided

variable [Fintype ι]

/-- Search the chain from {lit}`head`: {lit}`some (some a)` when {lit}`a` is the
first match, {lit}`some none` when the chain ends without one, and
{lean}`none` when the search runs in a cycle forever. -/
def find (next : ι → Option ι) (found : ι → Bool) (head : Option ι) : Option (Option ι) :=
  walk next found (Fintype.card ι) head

/-- A search that is decided at all is decided within one step per object. -/
theorem le_card_of_first {head : Option ι} {n : ℕ} {r : Option ι}
    (hend : walk next found n head = some r)
    (hbefore : ∀ m, m < n → walk next found m head = none) : n ≤ Fintype.card ι := by
  choose node hnode using fun i : Fin n => nodeAt_isSome_of_eq_none (hbefore i i.isLt)
  have hinj : Function.Injective node := by
    intro i j hij
    by_contra hne
    have hval : i.val ≠ j.val := fun h => hne (Fin.ext h)
    have heq : nodeAt next head i = nodeAt next head j := by rw [hnode i, hnode j, hij]
    rcases Nat.lt_or_gt_of_ne hval with hlt | hlt
    · exact nodeAt_injective_of_first hend hbefore hlt j.isLt heq
    · exact nodeAt_injective_of_first hend hbefore hlt i.isLt heq.symm
  simpa using Fintype.card_le_of_injective node hinj

/-- The bounded search gives up exactly when no number of steps would do. -/
theorem find_eq_none_iff {head : Option ι} :
    find next found head = none ↔ ∀ k, walk next found k head = none := by
  constructor
  · intro hnone k
    cases hk : walk next found k head with
    | none => rfl
    | some r =>
        exfalso
        have hex : ∃ n, walk next found n head ≠ none := ⟨k, by simp [hk]⟩
        classical
        obtain ⟨r', hr'⟩ := Option.ne_none_iff_exists'.mp (Nat.find_spec hex)
        have hle : Nat.find hex ≤ Fintype.card ι :=
          le_card_of_first hr' fun m hm => by simpa using Nat.find_min hex hm
        have hmore := walk_add_of_eq_some hr' (Fintype.card ι - Nat.find hex)
        rw [Nat.add_sub_cancel' hle] at hmore
        rw [find, hmore] at hnone
        contradiction
  · intro h
    exact h _

/-- An object that a search returns matches. -/
theorem find_some_found {head : Option ι} {a : ι}
    (h : find next found head = some (some a)) : found a = true := by
  have general : ∀ k head, walk next found k head = some (some a) → found a = true := by
    intro k
    induction k with
    | zero => intro head h; cases head <;> simp at h
    | succ k ih =>
        intro head h
        cases head with
        | none => simp at h
        | some b =>
            rw [walk_succ_some] at h
            split at h
            · rename_i hb
              cases h
              exact hb
            · exact ih _ h
  exact general _ _ h

/-- The search returns an object exactly when a match is on the chain. -/
theorem exists_find_iff {head : Option ι} :
    (∃ a, find next found head = some (some a)) ↔
      ∃ a, OnChain next head a ∧ found a = true := by
  constructor
  · rintro ⟨a, ha⟩
    exact ⟨a, onChain_of_walk ha, find_some_found ha⟩
  · rintro ⟨a, ⟨k, hnode⟩, ha⟩
    obtain ⟨b, hb⟩ := exists_walk_of_nodeAt hnode ha
    cases hfind : find next found head with
    | none =>
        rw [find_eq_none_iff] at hfind
        rw [hfind] at hb
        contradiction
    | some r =>
        have hmore := walk_add_of_eq_some hfind (k + 1)
        rw [Nat.add_comm, walk_add_of_eq_some hb] at hmore
        exact ⟨b, hmore.symm⟩

/-- A set that contains the head and is closed under links contains every
object that a search returns. -/
theorem find_mem_of_closed {S : Set ι} {head : Option ι} {a : ι}
    (hhead : ∀ b, head = some b → b ∈ S) (hclosed : ∀ b ∈ S, ∀ c, next b = some c → c ∈ S)
    (h : find next found head = some (some a)) : a ∈ S := by
  have general : ∀ k head, (∀ b, head = some b → b ∈ S) →
      walk next found k head = some (some a) → a ∈ S := by
    intro k
    induction k with
    | zero => intro head _ h; cases head <;> simp at h
    | succ k ih =>
        intro head hhead h
        cases head with
        | none => simp at h
        | some b =>
            rw [walk_succ_some] at h
            split at h
            · cases h
              exact hhead _ rfl
            · exact ih _ (hclosed b (hhead b rfl)) h
  exact general _ _ hhead h

end Decided

/-! ## Chains that end -/

/-- The chain from a head runs through the objects of a list, in order, and ends. -/
inductive Chain (next : ι → Option ι) : Option ι → List ι → Prop
  | nil : Chain next none []
  | cons {a : ι} {as : List ι} (h : Chain next (next a) as) : Chain next (some a) (a :: as)

theorem chain_none_iff {as : List ι} : Chain next none as ↔ as = [] := by
  constructor
  · intro h
    cases h
    rfl
  · rintro rfl
    exact .nil

theorem chain_some_iff {a : ι} {as : List ι} :
    Chain next (some a) as ↔ ∃ bs, as = a :: bs ∧ Chain next (next a) bs := by
  constructor
  · intro h
    cases h with
    | cons htail => exact ⟨_, rfl, htail⟩
  · rintro ⟨bs, rfl, htail⟩
    exact .cons htail

/-- A head determines its chain. -/
theorem Chain.unique {head : Option ι} {as bs : List ι} (ha : Chain next head as)
    (hb : Chain next head bs) : as = bs := by
  induction ha generalizing bs with
  | nil => exact (chain_none_iff.mp hb).symm
  | cons _ ih =>
      obtain ⟨rest, rfl, hrest⟩ := chain_some_iff.mp hb
      rw [ih hrest]

/-- From an object of a chain on, the rest of the chain follows. -/
theorem Chain.of_append {head : Option ι} {as bs : List ι} {b : ι}
    (h : Chain next head (as ++ b :: bs)) : Chain next (some b) (b :: bs) := by
  induction as generalizing head with
  | nil =>
      cases h with
      | cons htail => exact .cons htail
  | cons a as ih =>
      cases h with
      | cons htail => exact ih htail

/-- No object is twice on a chain that ends: what follows it would have to
contain itself. -/
theorem Chain.nodup {head : Option ι} {as : List ι} (h : Chain next head as) : as.Nodup := by
  induction h with
  | nil => exact List.nodup_nil
  | @cons a as htail ih =>
      rw [List.nodup_cons]
      refine ⟨fun hmem => ?_, ih⟩
      obtain ⟨before, after, hsplit⟩ := List.append_of_mem hmem
      have hagain : Chain next (some a) (a :: after) := by
        rw [hsplit] at htail
        exact htail.of_append
      have hlength := congrArg List.length ((Chain.cons htail).unique hagain)
      rw [hsplit] at hlength
      simp only [List.length_cons, List.length_append] at hlength
      omega

/-- A search of a chain that ends is a search of the list of its objects. -/
theorem Chain.walk_eq {head : Option ι} {as : List ι} (h : Chain next head as) {k : ℕ}
    (hk : as.length ≤ k) : walk next found k head = some (as.find? found) := by
  induction h generalizing k with
  | nil => rw [walk_none, List.find?_nil]
  | @cons a as _ ih =>
      cases k with
      | zero => simp at hk
      | succ k =>
          rw [walk_succ_some, List.find?_cons]
          cases found a with
          | true => rfl
          | false => exact ih (Nat.le_of_succ_le_succ hk)

/-- No chain that ends is longer than there are objects. -/
theorem Chain.length_le [Fintype ι] {head : Option ι} {as : List ι} (h : Chain next head as) :
    as.length ≤ Fintype.card ι := by
  classical
  exact h.nodup.length_le_card

/-- Where the chain ends, every search of it does. -/
theorem Chain.find_eq [Fintype ι] {head : Option ι} {as : List ι} (h : Chain next head as) :
    find next found head = some (as.find? found) :=
  h.walk_eq h.length_le

/-! ## Pushing an object -/

section Push

variable [DecidableEq ι]

/-- A link written to an object off the chain does not change the chain. -/
theorem Chain.update {head : Option ι} {as : List ι} {a : ι} (link : Option ι)
    (h : Chain next head as) (ha : a ∉ as) : Chain (Function.update next a link) head as := by
  induction h with
  | nil => exact .nil
  | @cons b as _ ih =>
      rw [List.mem_cons, not_or] at ha
      refine .cons ?_
      rw [Function.update_of_ne (Ne.symm ha.1)]
      exact ih ha.2

/-- Pushing an object links it to the old head.  The new chain ends exactly when
the old one does and the object was not on it. -/
theorem chain_push_iff {head : Option ι} {a : ι} {bs : List ι} :
    Chain (Function.update next a head) (some a) bs ↔
      ∃ as, bs = a :: as ∧ Chain next head as ∧ a ∉ as := by
  rw [chain_some_iff, Function.update_self]
  constructor
  · rintro ⟨as, rfl, htail⟩
    have hmem : a ∉ as := by
      have hall : Chain (Function.update next a head) (some a) (a :: as) := by
        refine .cons ?_
        rwa [Function.update_self]
      exact (List.nodup_cons.mp hall.nodup).1
    have hrestored := htail.update (next a) hmem
    rw [Function.update_idem, Function.update_eq_self] at hrestored
    exact ⟨as, rfl, hrestored, hmem⟩
  · rintro ⟨as, rfl, hold, hmem⟩
    exact ⟨as, rfl, hold.update head hmem⟩

end Push

/-! ## Loops over all objects -/

section VisitAll

universe v

variable {σ : Type v}

/-- The loop {lit}`while (p) { visit(p); p = p->next; }` with at most {lit}`k`
loop bodies.  The result is {lean}`none` when they do not suffice. -/
def visitUpTo (next : ι → Option ι) (visit : σ → ι → σ) : ℕ → Option ι → σ → Option σ
  | _, none, s => some s
  | 0, some _, _ => none
  | k + 1, some a, s => visitUpTo next visit k (next a) (visit s a)

/-- The loop over a chain that ends visits the objects in order. -/
theorem Chain.visitUpTo_eq {visit : σ → ι → σ} {head : Option ι} {as : List ι}
    (h : Chain next head as) {k : ℕ} (hk : as.length ≤ k) (s : σ) :
    visitUpTo next visit k head s = some (as.foldl visit s) := by
  induction h generalizing k s with
  | nil => cases k <;> rfl
  | @cons a as _ ih =>
      cases k with
      | zero => simp at hk
      | succ k => exact ih (Nat.le_of_succ_le_succ hk) (visit s a)

/-- The loop ends only where the chain does. -/
theorem exists_chain_of_visitUpTo {visit : σ → ι → σ} {k : ℕ} {head : Option ι} {s s' : σ}
    (h : visitUpTo next visit k head s = some s') : ∃ as, Chain next head as := by
  induction k generalizing head s with
  | zero =>
      cases head with
      | none => exact ⟨[], .nil⟩
      | some a => cases h
  | succ k ih =>
      cases head with
      | none => exact ⟨[], .nil⟩
      | some a =>
          obtain ⟨as, htail⟩ := ih h
          exact ⟨a :: as, .cons htail⟩

variable [Fintype ι]

/-- Visit all objects of the chain from {lit}`head`; {lean}`none` when the loop
runs in a cycle forever. -/
def visitAll (next : ι → Option ι) (visit : σ → ι → σ) (head : Option ι) (s : σ) : Option σ :=
  visitUpTo next visit (Fintype.card ι) head s

theorem Chain.visitAll_eq {visit : σ → ι → σ} {head : Option ι} {as : List ι}
    (h : Chain next head as) (s : σ) :
    visitAll next visit head s = some (as.foldl visit s) :=
  h.visitUpTo_eq h.length_le s

/-- A loop over all objects ends exactly when the chain does, with any number of
permitted steps. -/
theorem visitAll_isSome_iff (visit : σ → ι → σ) {head : Option ι} (s : σ) :
    (visitAll next visit head s).isSome ↔ ∃ as, Chain next head as := by
  rw [Option.isSome_iff_exists]
  constructor
  · rintro ⟨s', hs'⟩
    exact exists_chain_of_visitUpTo hs'
  · rintro ⟨as, h⟩
    exact ⟨_, h.visitAll_eq s⟩

end VisitAll

end IntrusiveList
