import Mathlib.Data.List.TakeWhile
import PipelineCanvas.Canvas.Position

/-!
# Lengths, written and read back

A coordinate is written as its decimal digits and its unit, without any space. Reading
trims, takes the unit off, trims again and reads the digits. What was written has nothing
to trim, since neither a digit nor a letter of a unit is white space, and what is left
without the unit are the digits of the number.

* `Text.digits?_toDigits`, `Text.word?_toDigits` – the digits of a number are read as it;
* **`Position.length?_lengthText`** – a written length is read as what was written.
-/

namespace PipelineCanvas

namespace Text

variable {c : Char} {cs : List Char}

/-! ### Trimming -/

theorem dropBlank_of_not_blank (h : ∀ c ∈ cs, isBlankChar c = false) : dropBlank cs = cs := by
  rw [dropBlank, List.dropWhile_eq_self_iff]
  intro hlength
  simp [h _ (List.getElem_mem hlength)]

/-- Where nothing is white space there is nothing to trim. -/
theorem trimChars_of_not_blank (h : ∀ c ∈ cs, isBlankChar c = false) : trimChars cs = cs := by
  rw [trimChars, dropBlank_of_not_blank h,
    dropBlank_of_not_blank fun c hc => h c (List.mem_reverse.mp hc), List.reverse_reverse]

theorem dropEnding?_append (cs ending : List Char) :
    dropEnding? ending (cs ++ ending) = some cs := by
  have hsuffix : ending <:+ cs ++ ending := List.suffix_append cs ending
  simp [dropEnding?, hsuffix]

/-! ### Digits -/

theorem isDigit_iff : isDigit c = true ↔ 48 ≤ c.toNat ∧ c.toNat ≤ 57 := by
  simp only [isDigit, Bool.and_eq_true, decide_eq_true_eq]
  exact Iff.rfl

theorem isDigit_of_mem_toDigits {n : Nat} (h : c ∈ Nat.toDigits 10 n) : isDigit c = true := by
  have hdigit := Nat.isDigit_of_mem_toDigits (by decide) (by decide) h
  rw [Char.isDigit_iff_toNat] at hdigit
  exact isDigit_iff.mpr hdigit

theorem not_blank_of_isDigit (h : isDigit c = true) : isBlankChar c = false := by
  rw [isDigit_iff] at h
  simp only [isBlankChar, Bool.or_eq_false_iff, Bool.and_eq_false_imp, decide_eq_true_eq,
    decide_eq_false_iff_not, beq_eq_false_iff_ne, ne_eq]
  omega

theorem digitValue?_of_isDigit (h : isDigit c = true) :
    digitValue? c = some (c.toNat - '0'.toNat) := by
  simp only [isDigit, Bool.and_eq_true, decide_eq_true_eq] at h
  rw [digitValue?, if_pos h]

/-- Decimal digits have the value that they spell. -/
theorem digitsFrom?_of_isDigit (h : ∀ c ∈ cs, isDigit c = true) (value : Nat) :
    digitsFrom? 10 value cs = some (Nat.ofDigitChars 10 cs value) := by
  induction cs generalizing value with
  | nil => simp [digitsFrom?]
  | cons c cs ih =>
    have hc := h c (List.mem_cons_self ..)
    have hlt : c.toNat - '0'.toNat < 10 := by
      have hzero : '0'.toNat = 48 := rfl
      have := isDigit_iff.mp hc
      omega
    rw [digitsFrom?, digitValue?_of_isDigit hc]
    simp only [if_pos hlt]
    rw [ih fun d hd => h d (List.mem_cons_of_mem _ hd), Nat.ofDigitChars_cons, Nat.mul_comm]

theorem digits?_toDigits (n : Nat) : digits? 10 (Nat.toDigits 10 n) = some n := by
  have hvalue := digitsFrom?_of_isDigit (fun _ hc => isDigit_of_mem_toDigits (n := n) hc) 0
  rw [Nat.ofDigitChars_ten_toDigits] at hvalue
  cases hd : Nat.toDigits 10 n with
  | nil => exact absurd hd Nat.toDigits_ne_nil
  | cons c cs =>
    rw [hd] at hvalue
    exact hvalue

theorem word?_toDigits (w : UInt32) : word? (Nat.toDigits 10 w.toNat) = some w := by
  have hword : toWord? w.toNat = some w := by
    simp [toWord?, w.toNat_lt]
  unfold word?
  split
  · next rest hrest =>
    -- no number begins with a sign
    have hplus : '+' ∈ Nat.toDigits 10 w.toNat := by simp [hrest]
    exact absurd (isDigit_of_mem_toDigits hplus) (by decide)
  · simp only [digits?_toDigits, Option.bind_some, hword]

end Text

namespace Position

/-- **A written length is read as what was written,** with any unit that has no white
space in it. -/
theorem length?_lengthText (w : UInt32) {unit : String}
    (hunit : ∀ c ∈ unit.toList, Text.isBlankChar c = false) :
    length? unit (lengthText w unit) = some w := by
  have hdigits : ∀ c ∈ Nat.toDigits 10 w.toNat, Text.isBlankChar c = false := fun c hc =>
    Text.not_blank_of_isDigit (Text.isDigit_of_mem_toDigits hc)
  have hwritten : (lengthText w unit).toList = Nat.toDigits 10 w.toNat ++ unit.toList := by
    simp [lengthText, Text.decimal]
  have htrim : Text.trimChars (Nat.toDigits 10 w.toNat ++ unit.toList) =
      Nat.toDigits 10 w.toNat ++ unit.toList := by
    refine Text.trimChars_of_not_blank fun c hc => ?_
    rcases List.mem_append.mp hc with hc | hc
    · exact hdigits c hc
    · exact hunit c hc
  simp only [length?, hwritten, htrim, Text.dropEnding?_append, Option.getD_some,
    Text.trimChars_of_not_blank hdigits, Text.word?_toDigits]

end Position

end PipelineCanvas
