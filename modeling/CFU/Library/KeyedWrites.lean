import Mathlib.Data.List.Basic
import Mathlib.Logic.Function.Basic

/-!
# Keyed writes - the last write to each key

A list of writes, each to a key.  What a store holds behind all of them is the value of
the last write to each key, and what it held before for the keys without one.

Main results:

- Theorem {lit}`foldl_assign`: a store that is given by the values of its keys holds the
  last writes behind a list of them.
- Theorem {lit}`lastWrite_listed`: a listing of the values of some keys, as writes, gives
  these values back.
-/

namespace KeyedWrites

variable {K V S : Type} [DecidableEq K]

/-- The value of the last write to a key. -/
def lastWrite (key : K) : List (K × V) → Option V
  | [] => none
  | write :: rest => (lastWrite key rest).or (if write.1 = key then some write.2 else none)

@[simp]
theorem lastWrite_nil (key : K) : lastWrite key ([] : List (K × V)) = none :=
  rfl

@[simp]
theorem lastWrite_cons (key : K) (write : K × V) (rest : List (K × V)) :
    lastWrite key (write :: rest) =
      (lastWrite key rest).or (if write.1 = key then some write.2 else none) :=
  rfl

/-- A store that is given by the values of its keys holds the last writes. -/
theorem foldl_assign (assign : S → K → V → S) {ofValues : (K → Option V) → S}
    (hassign : ∀ values key value,
      assign (ofValues values) key value = ofValues (Function.update values key (some value)))
    (values : K → Option V) (writes : List (K × V)) :
    writes.foldl (fun s write => assign s write.1 write.2) (ofValues values) =
      ofValues fun key => (lastWrite key writes).or (values key) := by
  induction writes generalizing values with
  | nil => simp
  | cons write rest ih =>
      rw [List.foldl_cons, hassign, ih]
      congr 1
      funext key
      rw [lastWrite_cons, Option.or_assoc]
      congr 1
      by_cases hkey : write.1 = key
      · subst hkey
        simp
      · simp [hkey, Function.update_of_ne (Ne.symm hkey)]

/-- A listing of the values of some keys gives these values back. -/
theorem lastWrite_listed (values : K → Option V) (keys : List K) (key : K) :
    lastWrite key (keys.filterMap fun k => (values k).map fun value => (k, value)) =
      if key ∈ keys then values key else none := by
  induction keys with
  | nil => simp
  | cons k keys ih =>
      cases hvalue : values k with
      | none =>
          rw [List.filterMap_cons_none (by simp [hvalue]), ih]
          by_cases hkey : key = k
          · subst hkey
            simp [hvalue]
          · simp [hkey]
      | some value =>
          rw [List.filterMap_cons_some (b := (k, value)) (by simp [hvalue]), lastWrite_cons, ih]
          by_cases hkey : key = k
          · subst hkey
            by_cases hmem : key ∈ keys
            · simp [hmem, hvalue]
            · simp [hmem, hvalue]
          · simp [hkey, Ne.symm hkey]

end KeyedWrites
