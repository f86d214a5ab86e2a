import Mathlib.Data.Int.Notation
import Mathlib.Data.List.Basic
import Mathlib.Tactic.Common

/-!
# Text streams - lines and numbers read with sticky error bits

A stream of characters with two error bits, as the standard library of C++ has
them: a function for reading that finds an error bit set reads nothing and sets the
bit for failures.

Main results:

- Theorem {lit}`getline_line`, {lit}`getline_last`, {lit}`getline_long`: a line that
  fits, the last one, and one that does not fit.
- Theorem {lit}`getline_remaining_lt`: a line that is read shortens the stream.
- Theorem {lit}`extractInt_number`, {lit}`extractInt_noNumber`, {lit}`extractInt_end`:
  what an extraction does with the next token.
-/

/-- The characters that are left, and the error bits. -/
@[ext]
structure TextStream where
  rest : List Char
  eofbit : Bool
  failbit : Bool

namespace TextStream

/-- A stream over a text, as it is opened. -/
def ofText (text : List Char) : TextStream where
  rest := text
  eofbit := false
  failbit := false

/-- No error bit is set. -/
def good (s : TextStream) : Bool :=
  !s.eofbit && !s.failbit

@[simp]
theorem ofText_good (text : List Char) : (ofText text).good = true :=
  rfl

@[simp]
theorem ofText_rest (text : List Char) : (ofText text).rest = text :=
  rfl

/-- No error bit is set while the stream is in order. -/
theorem eq_ofText {s : TextStream} (h : s.good = true) : s = ofText s.rest := by
  unfold good at h
  ext1
  · rfl
  · simp only [Bool.and_eq_true, Bool.not_eq_true'] at h
    exact h.1
  · simp only [Bool.and_eq_true, Bool.not_eq_true'] at h
    exact h.2

/-! ## Lines -/

section Lines

variable (delimiter : Char)

/-- Store the characters of a line, {lit}`limit` at most.  The delimiter is taken
from the stream and not stored. -/
def storeLine : ℕ → List Char → List Char × TextStream
  | _, [] => ([], { rest := [], eofbit := true, failbit := false })
  | limit, c :: rest =>
      if c = delimiter then ([], ofText rest)
      else
        match limit with
        | 0 => ([], { rest := c :: rest, eofbit := false, failbit := true })
        | limit + 1 =>
            let stored := storeLine limit rest
            (c :: stored.1, stored.2)

/-- Read a line of {lit}`limit` characters at most. -/
def getline (limit : ℕ) (s : TextStream) : List Char × TextStream :=
  if s.good then
    match s.rest with
    | [] => ([], { rest := [], eofbit := true, failbit := true })
    | c :: rest => storeLine delimiter limit (c :: rest)
  else
    ([], { s with failbit := true })

variable {delimiter} {limit : ℕ}

@[simp]
theorem storeLine_delimiter (limit : ℕ) (rest : List Char) :
    storeLine delimiter limit (delimiter :: rest) = ([], ofText rest) := by
  rw [storeLine.eq_def]
  exact if_pos rfl

@[simp]
theorem storeLine_zero {c : Char} (hc : c ≠ delimiter) (rest : List Char) :
    storeLine delimiter 0 (c :: rest) =
      ([], { rest := c :: rest, eofbit := false, failbit := true }) := by
  rw [storeLine.eq_def]
  exact if_neg hc

@[simp]
theorem storeLine_succ {c : Char} (hc : c ≠ delimiter) (limit : ℕ) (rest : List Char) :
    storeLine delimiter (limit + 1) (c :: rest) =
      (c :: (storeLine delimiter limit rest).1, (storeLine delimiter limit rest).2) := by
  rw [storeLine.eq_def]
  exact if_neg hc

/-- The characters of a line that fits are stored in front of what is behind them. -/
theorem storeLine_leading {line : List Char} (hline : delimiter ∉ line)
    (hlength : line.length ≤ limit) (rest : List Char) :
    storeLine delimiter limit (line ++ rest) =
      (line ++ (storeLine delimiter (limit - line.length) rest).1,
        (storeLine delimiter (limit - line.length) rest).2) := by
  induction line generalizing limit with
  | nil => rfl
  | cons c line ih =>
      rw [List.mem_cons, not_or] at hline
      cases limit with
      | zero => simp at hlength
      | succ limit =>
          have hrest := ih hline.2 (Nat.le_of_succ_le_succ hlength)
          rw [List.cons_append, storeLine_succ (Ne.symm hline.1), hrest, List.length_cons,
            Nat.succ_sub_succ]
          rfl

/-- A line that fits and has its delimiter behind it. -/
theorem storeLine_append {line : List Char} (hline : delimiter ∉ line)
    (hlength : line.length ≤ limit) (tail : List Char) :
    storeLine delimiter limit (line ++ delimiter :: tail) = (line, ofText tail) := by
  rw [storeLine_leading hline hlength, storeLine_delimiter, List.append_nil]

/-- A line that fits and ends the text. -/
theorem storeLine_last {line : List Char} (hline : delimiter ∉ line)
    (hlength : line.length ≤ limit) :
    storeLine delimiter limit line =
      (line, { rest := [], eofbit := true, failbit := false }) := by
  have hstore := storeLine_leading hline hlength []
  rwa [List.append_nil, storeLine, List.append_nil] at hstore

/-- A line that does not fit. -/
theorem storeLine_long {text : List Char} (htext : delimiter ∉ text) (tail : List Char)
    (hlength : limit < text.length) :
    (storeLine delimiter limit (text ++ tail)).2.failbit = true := by
  have hfront : (text.take limit).length = limit := List.length_take_of_le (Nat.le_of_lt hlength)
  have hsplit : text ++ tail =
      text.take limit ++ (text[limit] :: (text.drop (limit + 1) ++ tail)) := by
    rw [← List.cons_append, List.getElem_cons_drop, ← List.append_assoc, List.take_append_drop]
  have hnext : text[limit] ≠ delimiter := by
    intro heq
    exact htext (heq ▸ List.getElem_mem hlength)
  have hfits : delimiter ∉ text.take limit := fun hmem => htext (List.mem_of_mem_take hmem)
  rw [hsplit, storeLine_leading hfits (Nat.le_of_eq hfront), hfront, Nat.sub_self,
    storeLine_zero hnext]

/-- A line that fits is read, together with its delimiter. -/
theorem getline_line {line : List Char} (hline : delimiter ∉ line)
    (hlength : line.length ≤ limit) (tail : List Char) :
    getline delimiter limit (ofText (line ++ delimiter :: tail)) = (line, ofText tail) := by
  have hstore := storeLine_append hline hlength tail
  cases line with
  | nil => exact hstore
  | cons c line => exact hstore

/-- The last line is read up to the end. -/
theorem getline_last {line : List Char} (hline : delimiter ∉ line)
    (hlength : line.length ≤ limit) (hne : line ≠ []) :
    getline delimiter limit (ofText line) =
      (line, { rest := [], eofbit := true, failbit := false }) := by
  cases line with
  | nil => exact absurd rfl hne
  | cons c line => exact storeLine_last hline hlength

/-- A line that does not fit makes the stream fail. -/
theorem getline_long {line : List Char} (hline : delimiter ∉ line) (tail : List Char)
    (hlength : limit < line.length) :
    (getline delimiter limit (ofText (line ++ tail))).2.failbit = true := by
  have hstore := storeLine_long hline tail hlength
  cases line with
  | nil => simp at hlength
  | cons c line => exact hstore

/-- Nothing is read at the end. -/
theorem getline_nil : (getline delimiter limit (ofText [])).2.failbit = true :=
  rfl

/-- Nothing is read from a stream with an error. -/
theorem getline_of_not_good {s : TextStream} (h : s.good = false) :
    getline delimiter limit s = ([], { s with failbit := true }) := by
  rw [getline, h]
  rfl

/-- The characters that are left, and one more until the end is found. -/
def remaining (s : TextStream) : ℕ :=
  s.rest.length + if s.eofbit then 0 else 1

theorem remaining_storeLine_le (text : List Char) :
    (storeLine delimiter limit text).2.remaining ≤ text.length + 1 := by
  induction text generalizing limit with
  | nil => simp [storeLine, remaining]
  | cons c text ih =>
      by_cases hc : c = delimiter
      · subst hc
        simp [remaining, ofText]
      · cases limit with
        | zero => simp [hc, remaining]
        | succ limit =>
            rw [storeLine_succ hc]
            exact Nat.le_succ_of_le ih

/-- A line that is stored shortens the stream. -/
theorem remaining_storeLine_lt {c : Char} {text : List Char}
    (h : (storeLine delimiter limit (c :: text)).2.failbit = false) :
    (storeLine delimiter limit (c :: text)).2.remaining < text.length + 2 := by
  by_cases hc : c = delimiter
  · subst hc
    simp [remaining, ofText]
  · cases limit with
    | zero => simp [hc] at h
    | succ limit =>
        rw [storeLine_succ hc]
        exact Nat.lt_succ_of_le (remaining_storeLine_le text)

/-- A line that is read shortens the stream. -/
theorem getline_remaining_lt {s : TextStream} (h : (getline delimiter limit s).2.failbit = false) :
    (getline delimiter limit s).2.remaining < s.remaining := by
  by_cases hgood : s.good = true
  · rw [eq_ofText hgood] at h ⊢
    cases hrest : s.rest with
    | nil =>
        rw [hrest, getline_nil] at h
        simp at h
    | cons c text =>
        rw [hrest] at h
        exact remaining_storeLine_lt h
  · rw [getline_of_not_good (Bool.eq_false_iff.2 hgood)] at h
    simp at h

end Lines

/-! ## Numbers -/

section Numbers

/-- The white space of the C locale. -/
def isSpace (c : Char) : Bool :=
  c.toNat == 32 || (decide (9 ≤ c.toNat) && decide (c.toNat ≤ 13))

/-- The value of a digit or a letter, and 36 for any other character. -/
def digitValue (c : Char) : ℕ :=
  if c.isDigit then c.toNat - 48
  else if c.isUpper then c.toNat - 55
  else if c.isLower then c.toNat - 87
  else 36

/-- A digit of a base. -/
def isDigitOf (base : ℕ) (c : Char) : Bool :=
  decide (digitValue c < base)

/-- The number that some digits stand for. -/
def digitsValue (base : ℕ) (digits : List Char) : ℕ :=
  digits.foldl (fun value c => value * base + digitValue c) 0

/-- Whether a text starts with a minus sign, and what is behind its sign. -/
def sign : List Char → Bool × List Char
  | [] => (false, [])
  | c :: text =>
      if c = '-' then (true, text)
      else if c = '+' then (false, text)
      else (false, c :: text)

/-- What is behind the prefix of a hexadecimal number. -/
def skipHexPrefix : List Char → List Char
  | zero :: x :: text =>
      if zero = '0' then
        if x = 'x' then text
        else if x = 'X' then text
        else zero :: x :: text
      else zero :: x :: text
  | text => text

/-- {lit}`strtoul` for an {lit}`unsigned long` of 32 bits. -/
def strtoul (text : List Char) (base : ℕ) : UInt32 :=
  let signed := sign (text.dropWhile isSpace)
  let body := if base = 16 then skipHexPrefix signed.2 else signed.2
  let magnitude := digitsValue base (body.takeWhile (isDigitOf base))
  if magnitude < 4294967296 then
    if signed.1 then 0 - UInt32.ofNat magnitude else UInt32.ofNat magnitude
  else 0xFFFFFFFF

/-- The least {lit}`int`. -/
def intMin : ℤ := -2147483648

/-- The greatest {lit}`int`. -/
def intMax : ℤ := 2147483647

/-- The {lit}`int` that is nearest to a number. -/
def saturate (value : ℤ) : ℤ :=
  if value < intMin then intMin
  else if intMax < value then intMax
  else value

/-- The digits at the front of a text, behind a sign. -/
def decimalDigits (text : List Char) : List Char :=
  (sign text).2.takeWhile (isDigitOf 10)

/-- The number at the front of a text. -/
def decimalValue (text : List Char) : ℤ :=
  if (sign text).1 then -(digitsValue 10 (decimalDigits text) : ℤ)
  else (digitsValue 10 (decimalDigits text) : ℤ)

/-- What is behind the number at the front of a text. -/
def behindDecimal (text : List Char) : List Char :=
  (sign text).2.dropWhile (isDigitOf 10)

/-- Extract an {lit}`int`: white space is skipped, a text without digits stores 0, and a
number that is out of range stores the limit that it exceeds. -/
def extractInt (s : TextStream) (value : ℤ) : ℤ × TextStream :=
  if s.good then
    match s.rest.dropWhile isSpace with
    | [] => (value, { rest := [], eofbit := true, failbit := true })
    | c :: text =>
        (saturate (decimalValue (c :: text)),
          { rest := behindDecimal (c :: text)
            eofbit := (behindDecimal (c :: text)).isEmpty
            failbit :=
              (decimalDigits (c :: text)).isEmpty ||
                decide (saturate (decimalValue (c :: text)) ≠ decimalValue (c :: text)) })
  else (value, { s with failbit := true })

/-- The first token of a text and what is behind it: a number, or the characters up to
the next white space when there is none. -/
def nextToken (text : List Char) : Option (Option ℤ × List Char) :=
  match text.dropWhile isSpace with
  | [] => none
  | c :: text =>
      if decimalDigits (c :: text) = [] then
        some (none, (c :: text).dropWhile fun c => !isSpace c)
      else some (some (decimalValue (c :: text)), behindDecimal (c :: text))

theorem length_sign_le (text : List Char) : (sign text).2.length ≤ text.length := by
  cases text with
  | nil => simp [sign]
  | cons c text =>
      rw [sign]
      split
      · simp
      · split <;> simp

/-- A number takes a digit at least. -/
theorem length_behindDecimal_lt {text : List Char} (h : decimalDigits text ≠ []) :
    (behindDecimal text).length < text.length := by
  have hsplit := congrArg List.length
    (List.takeWhile_append_dropWhile (p := isDigitOf 10) (l := (sign text).2))
  have hdigits : 0 < (decimalDigits text).length := List.length_pos_iff.2 h
  have hsign := length_sign_le text
  rw [List.length_append] at hsplit
  unfold decimalDigits at hdigits
  unfold behindDecimal
  omega

/-- The text behind white space starts with another character. -/
theorem isSpace_head {text tail : List Char} {c : Char} (h : text.dropWhile isSpace = c :: tail) :
    isSpace c = false := by
  have hhead := List.head?_dropWhile_not isSpace text
  simpa [h] using hhead

/-- A token shortens the text. -/
theorem length_nextToken_lt {text rest : List Char} {token : Option ℤ}
    (h : nextToken text = some (token, rest)) : rest.length < text.length := by
  have hle := (List.dropWhile_suffix isSpace (l := text)).length_le
  unfold nextToken at h
  cases hskip : text.dropWhile isSpace with
  | nil => simp [hskip] at h
  | cons c tail =>
      have hspace := isSpace_head hskip
      rw [hskip] at h hle
      by_cases hdigits : decimalDigits (c :: tail) = []
      · simp only [hdigits, if_pos, Option.some.injEq, Prod.mk.injEq] at h
        rw [← h.2, List.dropWhile_cons_of_pos (by simp [hspace])]
        have htail := (List.dropWhile_suffix (fun c => !isSpace c) (l := tail)).length_le
        rw [List.length_cons] at hle
        omega
      · simp only [hdigits, if_neg, not_false_eq_true, Option.some.injEq, Prod.mk.injEq] at h
        rw [← h.2]
        exact Nat.lt_of_lt_of_le (length_behindDecimal_lt hdigits) hle

/-- The tokens of a text: the numbers, and {lit}`none` for what is no number. -/
def tokens (text : List Char) : List (Option ℤ) :=
  match _h : nextToken text with
  | none => []
  | some (token, rest) => token :: tokens rest
termination_by text.length
decreasing_by exact length_nextToken_lt _h

theorem tokens_of_none {text : List Char} (h : nextToken text = none) : tokens text = [] := by
  rw [tokens]
  split
  · rfl
  · next heq => simp [h] at heq

theorem tokens_of_some {text rest : List Char} {token : Option ℤ}
    (h : nextToken text = some (token, rest)) : tokens text = token :: tokens rest := by
  rw [tokens]
  split
  · next heq => simp [h] at heq
  · next heq =>
      rw [h, Option.some.injEq, Prod.mk.injEq] at heq
      rw [heq.1, heq.2]

/-! ## Extractions -/

/-- An extraction from a stream with an error stores nothing. -/
theorem extractInt_of_not_good {s : TextStream} (h : s.good = false) (value : ℤ) :
    s.extractInt value = (value, { s with failbit := true }) := by
  rw [extractInt, h]
  rfl

/-- At the end of the text nothing is stored. -/
theorem extractInt_end {text : List Char} (h : nextToken text = none) (value : ℤ) :
    (ofText text).extractInt value = (value, { rest := [], eofbit := true, failbit := true }) := by
  unfold nextToken at h
  cases hskip : text.dropWhile isSpace with
  | nil => simp [extractInt, hskip]
  | cons c tail =>
      rw [hskip] at h
      by_cases hdigits : decimalDigits (c :: tail) = [] <;> simp [hdigits] at h

theorem decimalValue_of_nil {text : List Char} (h : decimalDigits text = []) :
    decimalValue text = 0 := by
  simp [decimalValue, h, digitsValue]

/-- A token that is no number stores 0 and makes the stream fail. -/
theorem extractInt_noNumber {text rest : List Char} (h : nextToken text = some (none, rest))
    (value : ℤ) :
    ((ofText text).extractInt value).1 = 0 ∧
      ((ofText text).extractInt value).2.failbit = true := by
  unfold nextToken at h
  cases hskip : text.dropWhile isSpace with
  | nil => simp [hskip] at h
  | cons c tail =>
      rw [hskip] at h
      by_cases hdigits : decimalDigits (c :: tail) = []
      · have hvalue := decimalValue_of_nil hdigits
        simp [extractInt, hskip, hdigits, hvalue, saturate, intMin, intMax]
      · simp [hdigits] at h

/-- A number is stored as far as it is in range, and makes the stream fail otherwise. -/
theorem extractInt_number {text rest : List Char} {v : ℤ}
    (h : nextToken text = some (some v, rest)) (value : ℤ) :
    (ofText text).extractInt value =
      (saturate v,
        { rest := rest
          eofbit := rest.isEmpty
          failbit := decide (saturate v ≠ v) }) := by
  unfold nextToken at h
  cases hskip : text.dropWhile isSpace with
  | nil => simp [hskip] at h
  | cons c tail =>
      rw [hskip] at h
      by_cases hdigits : decimalDigits (c :: tail) = []
      · simp [hdigits] at h
      · simp only [hdigits, if_neg, not_false_eq_true, Option.some.injEq, Prod.mk.injEq] at h
        obtain ⟨hv, hrest⟩ := h
        have hempty : (decimalDigits (c :: tail)).isEmpty = false := by simpa using hdigits
        simp [extractInt, hskip, hempty, hv, hrest]

end Numbers

end TextStream
