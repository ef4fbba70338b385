import PipelineCanvas.Json.Printer
import PipelineCanvas.Json.Spelling
import PipelineCanvas.Proofs.Wire.Lengths

/-!
# Printed tokens, read

A printed text is read token by token. A quoted text is read up to the quote that closes it,
whatever stands behind. A numeral has no such end: it is read as far as it goes, and it goes on
as long as there is a digit, a point or the mark of an exponent. A printer puts none of these
behind a numeral.

* **`Quoted.scan_flatMap_escaped`** – what is quoted is read as it was;
* `Numeral.Ends`, **`Numeral.scan_append`** – where a numeral ends, and that it is read alike
  whatever stands behind it then;
* `Numeral.scan_toDigits`, `Numeral.value?_toDigits` – integers are read as they were.
-/

namespace PipelineCanvas

/-- A chain of results is a result if each of its links is. -/
theorem bind_eq_ok_iff {ε α β : Type} {x : Except ε α} {f : α → Except ε β} {b : β} :
    x >>= f = .ok b ↔ ∃ a, x = .ok a ∧ f a = .ok b := by
  cases x with
  | error e => exact ⟨nofun, nofun⟩
  | ok a => exact ⟨fun h => ⟨a, rfl, h⟩, fun ⟨_, ha, h⟩ => by cases ha; exact h⟩

/-- Naming a failure anew leaves results alone. -/
theorem mapError_eq_ok_iff {ε ε' α : Type} {f : ε → ε'} {x : Except ε α} {a : α} :
    x.mapError f = .ok a ↔ x = .ok a := by
  cases x <;> simp [Except.mapError]

namespace Json

/-! ### Quoted texts -/

/-- The escape of a control character stands for it. -/
theorem hexUnit?_hexDigits : ∀ n < 0x20, ∃ a b c d : Char,
    Text.hexDigits 4 n = [a, b, c, d] ∧ hexUnit? a b c d = some n := by
  intro n hn
  refine ⟨'0', '0', Nat.digitChar (n / 16), Nat.digitChar (n % 16), ?_⟩
  revert n
  decide

namespace Quoted

/-- A part that stands for a character. -/
def Spells (part : QuotedPart) (c : Char) : Prop :=
  ∀ fault parts, chars fault (part :: parts) = (chars fault parts).map (c :: ·)

theorem spells_char (c : Char) (escaped : Bool) : Spells (.char c escaped) c :=
  fun _ _ => rfl

theorem spells_unit {c : Char} (h : c.toNat < 0xD800) (behind : List Char) :
    Spells (.unit c.toNat behind) c := by
  intro fault parts
  rw [chars.eq_def]
  simp only [if_pos (show c.toNat < 0xD800 ∨ 0xDFFF < c.toNat from .inl h), Char.ofNat_toNat]

/-- A character that needs no escape is read as itself. -/
theorem scan_plain {c : Char} (hquote : c ≠ '"') (hslash : c ≠ '\\') (hcontrol : 0x20 ≤ c.toNat)
    (tail : List Char) : scan (c :: tail) = push (.char c false) (scan tail) := by
  rw [scan, if_neg (Nat.not_lt.mpr hcontrol)]
  all_goals simp [hquote, hslash]

/-- **A character is read from its escape,** whatever follows. -/
theorem scan_escaped (c : Char) (tail : List Char) :
    ∃ part, Spells part c ∧ scan (escaped c ++ tail) = push part (scan tail) := by
  unfold escaped
  split
  iterate 7 exact ⟨.char _ true, spells_char _ _, rfl⟩
  next hquote hslash _ _ _ _ _ =>
    split
    · next hcontrol =>
      obtain ⟨a, b, d, e, hdigits, hunit⟩ := hexUnit?_hexDigits _ hcontrol
      refine ⟨.unit c.toNat tail, spells_unit (by omega) tail, ?_⟩
      simp only [hdigits, List.cons_append, List.nil_append]
      rw [scan, hunit]
    · next hcontrol =>
      exact ⟨.char c false, spells_char _ _, scan_plain hquote hslash (by omega) tail⟩

/-- **What is quoted is read as it was,** up to the quote that closes it. -/
theorem scan_flatMap_escaped (cs rest : List Char) :
    ∃ parts, scan (cs.flatMap escaped ++ '"' :: rest) = (⟨parts, none⟩, rest) ∧
      chars none parts = .ok cs := by
  induction cs with
  | nil => exact ⟨[], rfl, rfl⟩
  | cons c cs ih =>
    obtain ⟨parts, hscan, hchars⟩ := ih
    obtain ⟨part, hpart, hc⟩ := scan_escaped c (cs.flatMap escaped ++ '"' :: rest)
    refine ⟨part :: parts, ?_, ?_⟩
    · rw [List.flatMap_cons, List.append_assoc, hc, hscan, push]
    · rw [hpart, hchars]
      rfl

theorem scan_toList (s : String) (rest : List Char) :
    ∃ q : Quoted, scan (s.toList.flatMap escaped ++ '"' :: rest) = (q, rest) ∧
      q.fault = none ∧ q.text = .ok s := by
  obtain ⟨parts, hscan, hchars⟩ := scan_flatMap_escaped s.toList rest
  refine ⟨⟨parts, none⟩, hscan, rfl, ?_⟩
  rw [text, hchars]
  simp [Except.map]

end Quoted

/-! ### Numerals -/

namespace Numeral

/-- A text behind which a numeral does not go on. -/
def Ends (rest : List Char) : Prop :=
  ∀ c ∈ rest.head?, Text.isDigit c = false ∧ c ≠ '.' ∧ c ≠ 'e' ∧ c ≠ 'E'

variable {cs tail rest digits : List Char}

theorem span_of_ends (h : Ends rest) : span rest = ([], rest) := by
  cases rest with
  | nil => rfl
  | cons c rest =>
    have hc : Text.isDigit c = false := (h c rfl).1
    simp [span, hc]

/-- The digits at the front of a text end before a text where a numeral ends. -/
theorem span_append (h : Ends rest) :
    span (cs ++ rest) = ((span cs).1, (span cs).2 ++ rest) := by
  induction cs with
  | nil => simpa [span] using span_of_ends h
  | cons c cs ih =>
    by_cases hc : Text.isDigit c
    · simpa [span, hc] using ih
    · simp [span, hc]

theorem eq_append_of_span (h : span cs = (digits, tail)) : cs = digits ++ tail := by
  simp only [span, Prod.mk.injEq] at h
  rw [← h.1, ← h.2, List.takeWhile_append_dropWhile]

/-- Digits that begin with no zero are the whole part of a numeral. -/
theorem scanWhole_of_span {d : Char} (hzero : d ≠ '0') (h : span cs = (d :: digits, tail)) :
    scanWhole cs = .ok (d :: digits, tail) := by
  have hcs := eq_append_of_span h
  unfold scanWhole
  split
  · exact absurd (List.cons.inj hcs).1.symm hzero
  · rw [h]

theorem scanWhole_append (h : Ends rest) (hcs : scanWhole cs = .ok (digits, tail)) :
    scanWhole (cs ++ rest) = .ok (digits, tail ++ rest) := by
  unfold scanWhole at hcs
  split at hcs
  · next behind =>
    cases behind with
    | nil =>
      cases hcs
      cases rest with
      | nil => rfl
      | cons c rest =>
        have hc : Text.isDigit c = false := (h c rfl).1
        simp [scanWhole, hc]
    | cons d behind =>
      simp only at hcs
      split at hcs
      · cases hcs
      · next hd =>
        cases hcs
        simp [scanWhole, hd]
  · next hzero =>
    split at hcs
    · cases hcs
    · next found behind hfound hspan =>
      cases hcs
      obtain ⟨d, digits, rfl⟩ := List.exists_cons_of_ne_nil hfound
      refine scanWhole_of_span ?_ (by rw [span_append h, hspan])
      rintro rfl
      exact hzero _ (eq_append_of_span hspan)

theorem scanFraction_of_ne (h : ∀ tail, cs ≠ '.' :: tail) :
    scanFraction cs = .ok (false, [], cs) := by
  unfold scanFraction
  split
  · exact absurd rfl (h _)
  · rfl

theorem scanFraction_append {pointed : Bool} (h : Ends rest)
    (hcs : scanFraction cs = .ok (pointed, digits, tail)) :
    scanFraction (cs ++ rest) = .ok (pointed, digits, tail ++ rest) := by
  unfold scanFraction at hcs
  split at hcs
  · next behind =>
    split at hcs
    · cases hcs
    · next found tail hfound hspan =>
      cases hcs
      simp only [scanFraction, List.cons_append, span_append h, hspan]
  · next hpoint =>
    cases hcs
    refine scanFraction_of_ne fun behind hbehind => ?_
    rcases List.append_eq_cons_iff.mp hbehind with ⟨-, hrest⟩ | ⟨_, hcs, -⟩
    · exact (h '.' (by rw [hrest]; rfl)).2.1 rfl
    · exact hpoint _ hcs

/-- The sign of an exponent, and what follows it. -/
def exponentSign (cs : List Char) : Bool × List Char :=
  match cs with
  | '+' :: rest => (false, rest)
  | '-' :: rest => (true, rest)
  | _ => (false, cs)

theorem scanExponent_cons {e : Char} (he : e = 'e' ∨ e = 'E') :
    scanExponent (e :: cs) =
      match span (exponentSign cs).2 with
      | ([], rest) => .error (lacking rest)
      | (digits, rest) => .ok (some ((exponentSign cs).1, digits), rest) := by
  simp only [scanExponent.eq_def, if_pos he]
  rfl

theorem exponentSign_append (h : cs ≠ []) :
    exponentSign (cs ++ rest) = ((exponentSign cs).1, (exponentSign cs).2 ++ rest) := by
  obtain ⟨c, cs, rfl⟩ := List.exists_cons_of_ne_nil h
  rw [List.cons_append]
  unfold exponentSign
  split <;> simp_all

theorem scanExponent_append {exponent : Option (Bool × List Char)} (h : Ends rest)
    (hcs : scanExponent cs = .ok (exponent, tail)) :
    scanExponent (cs ++ rest) = .ok (exponent, tail ++ rest) := by
  cases cs with
  | nil =>
    cases hcs
    cases rest with
    | nil => rfl
    | cons c rest =>
      obtain ⟨-, -, he, hE⟩ := h c rfl
      simp [scanExponent, he, hE]
  | cons e cs =>
    by_cases he : e = 'e' ∨ e = 'E'
    · rw [scanExponent_cons he] at hcs
      split at hcs
      · cases hcs
      · next found tail hfound hspan =>
        cases hcs
        have hne : cs ≠ [] := by
          rintro rfl
          cases hspan
          exact hfound rfl
        simp only [List.cons_append, scanExponent_cons he, exponentSign_append hne,
          span_append h, hspan]
    · unfold scanExponent at hcs ⊢
      simp only [if_neg he] at hcs
      cases hcs
      exact if_neg he

/-- A numeral is followed in three steps. -/
theorem scan_eq_ok_iff {negative : Bool} {x : Numeral} :
    scan negative cs = .ok (x, tail) ↔
      ∃ whole cs₁ pointed fraction cs₂ exponent,
        scanWhole cs = .ok (whole, cs₁) ∧ scanFraction cs₁ = .ok (pointed, fraction, cs₂) ∧
          scanExponent cs₂ = .ok (exponent, tail) ∧
          x = ⟨tail, negative, whole, fraction, pointed, exponent⟩ := by
  simp only [scan, bind_eq_ok_iff, Prod.exists]
  constructor
  · rintro ⟨whole, cs₁, hwhole, pointed, fraction, cs₂, hfraction, exponent, cs₃, hexponent, h⟩
    cases h
    exact ⟨whole, cs₁, pointed, fraction, cs₂, exponent, hwhole, hfraction, hexponent, rfl⟩
  · rintro ⟨whole, cs₁, pointed, fraction, cs₂, exponent, hwhole, hfraction, hexponent, rfl⟩
    exact ⟨whole, cs₁, hwhole, pointed, fraction, cs₂, hfraction, exponent, tail, hexponent, rfl⟩

/-- **A numeral is followed alike whatever stands behind it.** -/
theorem scan_append {negative : Bool} {x : Numeral} (h : Ends rest)
    (hcs : scan negative cs = .ok (x, tail)) :
    scan negative (cs ++ rest) = .ok ({ x with rest := tail ++ rest }, tail ++ rest) := by
  obtain ⟨whole, cs₁, pointed, fraction, cs₂, exponent, hwhole, hfraction, hexponent, rfl⟩ :=
    scan_eq_ok_iff.mp hcs
  exact scan_eq_ok_iff.mpr ⟨whole, cs₁ ++ rest, pointed, fraction, cs₂ ++ rest, exponent,
    scanWhole_append h hwhole, scanFraction_append h hfraction, scanExponent_append h hexponent,
    rfl⟩

/-! ### Integers -/

/-- Of all numbers only zero begins with the digit zero. -/
theorem exists_toDigits_eq_cons (n : Nat) :
    ∃ d digits, Nat.toDigits 10 n = d :: digits ∧ (d = '0' → n = 0) := by
  induction n using Nat.strongRecOn with
  | _ n ih =>
    by_cases hn : n < 10
    · refine ⟨n.digitChar, [], Nat.toDigits_of_lt_base hn, ?_⟩
      clear ih
      revert n
      decide
    · obtain ⟨d, digits, hdigits, hzero⟩ := ih (n / 10) (by omega)
      refine ⟨d, digits ++ [(n % 10).digitChar], ?_, fun hd => absurd (hzero hd) (by omega)⟩
      rw [Nat.toDigits_of_base_le (by decide) (by omega), hdigits, List.cons_append]

theorem decimalValue_toDigits (n : Nat) : Text.decimalValue (Nat.toDigits 10 n) = n := by
  have hstep : (fun (k : Nat) (c : Char) => k * 10 + (c.toNat - '0'.toNat)) =
      fun k c => 10 * k + (c.toNat - '0'.toNat) := by
    funext k c
    rw [Nat.mul_comm]
  rw [Text.decimalValue, hstep]
  exact Nat.ofDigitChars_ten_toDigits

theorem span_toDigits (n : Nat) : span (Nat.toDigits 10 n) = (Nat.toDigits 10 n, []) := by
  have hall : ∀ c ∈ Nat.toDigits 10 n, Text.isDigit c = true :=
    fun _ => Text.isDigit_of_mem_toDigits
  rw [span, List.takeWhile_eq_self_iff.mpr hall, List.dropWhile_eq_nil_iff.mpr hall]

/-- **The digits of a number are followed as a numeral,** up to where it ends. -/
theorem scan_toDigits (n : Nat) (negative : Bool) (h : Ends rest) :
    scan negative (Nat.toDigits 10 n ++ rest) =
      .ok (⟨rest, negative, Nat.toDigits 10 n, [], false, none⟩, rest) := by
  have hwhole : scanWhole (Nat.toDigits 10 n) = .ok (Nat.toDigits 10 n, []) := by
    obtain ⟨d, digits, hdigits, hzero⟩ := exists_toDigits_eq_cons n
    by_cases hd : d = '0'
    · rw [hzero hd]
      rfl
    · rw [hdigits]
      exact scanWhole_of_span hd (hdigits ▸ span_toDigits n)
  exact scan_append h (scan_eq_ok_iff.mpr ⟨_, [], false, [], [], none, hwhole, rfl, rfl, rfl⟩)

variable {n : Nat}

theorem value?_toDigits (h : n < UInt64.size) :
    value? ⟨rest, false, Nat.toDigits 10 n, [], false, none⟩ = some (.int n) := by
  simp [value?, decimalValue_toDigits, h]

theorem value?_toDigits_negative (hpos : 0 < n) (h : n ≤ UInt64.size / 2) :
    value? ⟨rest, true, Nat.toDigits 10 n, [], false, none⟩ = some (.int (-n)) := by
  simp [value?, decimalValue_toDigits, hpos, h]

end Numeral

end Json

end PipelineCanvas
