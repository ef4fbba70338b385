import Mathlib.Data.List.DropRight
import PipelineCanvas.Proofs.Json.Parsed

/-!
# Printed values, read

What the printer of indented texts writes is read back as the value that was written. A value can
stand anywhere in a text, so the induction is on the value and carries a statement about every
surrounding: white space in front of it, and behind it anything that does not go on with a
numeral. The reader counts its steps, two for each character at most; this, too, is said of every
part of the text.

Floating-point numbers are the exception. What is read from the digits that are written for one is
rounded twice, and may be its neighbour (`Binary64.ReadsBack` says that it is not).

* `IsReadAt` – a text that is read as a value wherever it stands;
* `isReadAt_int`, `isReadAt_string`, `isReadAt_float` – values without parts;
* `scanItems_prettyItems`, `scanMembers_prettyMembers` – lists, item by item;
* `isReadAt_prettyAt`, **`ofText_pretty`**, `ofText_pretty_line` – all values that fit in a text.
-/

namespace PipelineCanvas

/-- A floating-point number that is read back from what it is written as. -/
def Binary64.ReadsBack (x : Binary64) : Prop := Json.ofText x.text = .ok (.float x)

instance (x : Binary64) : Decidable x.ReadsBack :=
  inferInstanceAs (Decidable (Json.ofText x.text = .ok (.float x)))

namespace Json

/-! ### White space -/

section Space

variable {space cs rest : List Char}

theorem dropSpace_dropSpace : dropSpace (dropSpace cs) = dropSpace cs :=
  List.dropWhile_idempotent _ cs

/-- White space in front makes no difference. -/
theorem dropSpace_append_of_nil (h : dropSpace space = []) :
    dropSpace (space ++ cs) = dropSpace cs :=
  List.dropWhile_append_of_pos (List.dropWhile_eq_nil_iff.mp h)

theorem dropSpace_append_of_cons {c : Char} {tail : List Char} (h : dropSpace cs = c :: tail) :
    dropSpace (cs ++ rest) = c :: (tail ++ rest) := by
  rw [dropSpace] at h ⊢
  rw [List.dropWhile_append, h]
  rfl

theorem dropSpace_newline (level : Nat) : dropSpace (newline level).toList = [] := by
  simp [dropSpace, newline]

end Space

namespace Spelling

/-! ### How a value begins -/

section Begins

variable {fuel level : Nat} {cs digits rest : List Char} {negative : Bool}

theorem scan_dropSpace : scan (fuel + 1) level (dropSpace cs) = scan (fuel + 1) level cs := by
  rw [scan, scan, dropSpace_dropSpace]

/-- What is followed to its end is no closing bracket. -/
theorem exists_of_scan {sp : Spelling} (h : scan fuel level cs = (sp, some rest)) :
    ∃ c tail, dropSpace cs = c :: tail ∧ c ≠ ']' := by
  cases fuel with
  | zero => cases h
  | succ fuel =>
    rw [scan] at h
    split at h
    case h_1 => cases h
    case h_9 c tail _ _ _ _ _ _ _ hcs =>
      refine ⟨c, tail, hcs, ?_⟩
      rintro rfl
      cases h
    all_goals next hcs => exact ⟨_, _, hcs, by decide⟩

/-- A text that begins, behind white space, with the sign or the first digit of a numeral. -/
inductive AtNumeral : Bool → List Char → List Char → Prop
  | minus {cs digits : List Char} (h : dropSpace cs = '-' :: digits) : AtNumeral true digits cs
  | digit {cs digits : List Char} {d : Char} (h : dropSpace cs = d :: digits)
      (hd : Text.isDigit d = true) : AtNumeral false (d :: digits) cs

theorem AtNumeral.append (h : AtNumeral negative digits cs) :
    AtNumeral negative (digits ++ rest) (cs ++ rest) := by
  cases h with
  | minus h => exact .minus (dropSpace_append_of_cons h)
  | digit h hd => exact .digit (dropSpace_append_of_cons h) hd

theorem AtNumeral.of_isDigit {d : Char} (hd : Text.isDigit d = true) (digits : List Char) :
    AtNumeral false (d :: digits) (d :: digits) := by
  refine .digit (List.dropWhile_cons_of_neg fun hspace => ?_) hd
  simp only [Bool.or_eq_true, decide_eq_true_eq] at hspace
  rcases hspace with ((rfl | rfl) | rfl) | rfl <;> exact absurd hd (by decide)

theorem AtNumeral.scan_eq (h : AtNumeral negative digits cs) :
    scan (fuel + 1) level cs = scanNumber negative digits := by
  rw [scan]
  cases h with
  | minus h => simp only [h]
  | digit h hd =>
    simp only [h]
    split
    case h_9 hcs =>
      cases hcs
      exact if_pos hd
    all_goals next hcs =>
      cases hcs <;> exact absurd hd (by decide)

/-- A word that is followed has the value that it stands for. -/
theorem value_of_scanWord {sp : Spelling} {word : List Char} {v : Json}
    (h : (scanWord sp word cs).1.value = .ok v) : sp.value = .ok v := by
  induction word generalizing cs with
  | nil => exact h
  | cons w word ih =>
    cases cs with
    | nil => cases h
    | cons c cs =>
      rw [scanWord] at h
      split at h
      · exact ih h
      · cases h

/-- What is read as a floating-point number is a numeral. -/
theorem exists_atNumeral {x : Binary64}
    (h : (scan (fuel + 1) level cs).1.value = .ok (.float x)) :
    ∃ negative digits numeral rest, AtNumeral negative digits cs ∧
      Numeral.scan negative digits = .ok (numeral, rest) ∧ numeral.value? = some (.float x) := by
  rw [scan] at h
  have hnumber {negative : Bool} {digits : List Char} (hat : AtNumeral negative digits cs)
      (h : (scanNumber negative digits).1.value = .ok (.float x)) :
      ∃ negative digits numeral rest, AtNumeral negative digits cs ∧
        Numeral.scan negative digits = .ok (numeral, rest) ∧
          numeral.value? = some (.float x) := by
    unfold scanNumber at h
    split at h
    · next numeral rest hscan =>
      refine ⟨negative, digits, numeral, rest, hat, hscan, ?_⟩
      rw [value] at h
      split at h
      · next hvalue => cases h; exact hvalue
      · cases h
    · cases h
  split at h
  case h_6 hcs => exact hnumber (.minus hcs) h
  case h_9 hcs =>
    split at h
    · next hd => exact hnumber (.digit hcs hd) h
    · cases h
  case h_1 => cases h
  case h_2 => cases value_of_scanWord h
  case h_3 => cases value_of_scanWord h
  case h_4 => cases value_of_scanWord h
  case h_5 inside _ =>
    change (Quoted.scan inside).1.text.map Json.string = _ at h
    cases htext : (Quoted.scan inside).1.text with
    | error e => rw [htext] at h; cases h
    | ok s => rw [htext] at h; cases h
  case h_7 =>
    obtain ⟨-, -, _, -, hx⟩ := value_array_eq_ok_iff.mp h
    cases hx
  case h_8 =>
    obtain ⟨-, -, _, -, hx⟩ := value_object_eq_ok_iff.mp h
    cases hx

end Begins

end Spelling

/-- What a text holds whose value was followed. -/
theorem ofText_of_scan {text : String} {sp : Spelling} {left : List Char} {v : Json}
    (h : Spelling.scan (2 * text.toList.length + 2) 0 text.toList = (sp, some left)) :
    ofText text = .ok v ↔ sp.value = .ok v ∧ dropSpace left = [] := by
  rw [ofText_eq_ok_iff, Document.ofText]
  simp only [h]
  split
  · next hleft => simp [hleft]
  · next hleft => exact iff_of_false (by simp) fun h => hleft h.2

/-! ### What stands anywhere -/

/-- A text is read as a value at every level, up to where a numeral ends. -/
def IsReadAt (level : Nat) (text : List Char) (v : Json) : Prop :=
  ∀ space fuel rest, dropSpace space = [] → 2 * text.length < fuel → Numeral.Ends rest →
    ∃ sp left, Spelling.scan fuel level (space ++ (text ++ rest)) = (sp, some left) ∧
      dropSpace left = dropSpace rest ∧ sp.value = .ok v

section Anywhere

variable {level : Nat} {text : List Char} {v : Json}

theorem IsReadAt.intro
    (h : ∀ fuel rest, 2 * text.length < fuel + 1 → Numeral.Ends rest →
      ∃ sp left, Spelling.scan (fuel + 1) level (text ++ rest) = (sp, some left) ∧
        dropSpace left = dropSpace rest ∧ sp.value = .ok v) :
    IsReadAt level text v := by
  intro space fuel rest hspace hfuel hrest
  obtain ⟨fuel, rfl⟩ : ∃ k, fuel = k + 1 := ⟨fuel - 1, by omega⟩
  rw [← Spelling.scan_dropSpace, dropSpace_append_of_nil hspace, Spelling.scan_dropSpace]
  exact h fuel rest hfuel hrest

/-- A floating-point number that is read back is read wherever it stands. -/
theorem isReadAt_float {x : Binary64} (h : x.ReadsBack) :
    IsReadAt level x.text.toList (.float x) := by
  refine .intro fun fuel rest _ hrest => ?_
  obtain ⟨hvalue, -⟩ := ofText_eq_ok_iff.mp h
  rw [root_ofText] at hvalue
  obtain ⟨negative, digits, numeral, left, hat, hscan, hx⟩ := Spelling.exists_atNumeral hvalue
  have hroot : Spelling.scan (2 * x.text.toList.length + 2) 0 x.text.toList =
      (.number numeral, some left) := by
    rw [hat.scan_eq, Spelling.scanNumber, hscan]
  have hleft : dropSpace left = [] := ((ofText_of_scan hroot).mp h).2
  refine ⟨.number { numeral with rest := left ++ rest }, left ++ rest, ?_,
    dropSpace_append_of_nil hleft, ?_⟩
  · rw [hat.append.scan_eq, Spelling.scanNumber, Numeral.scan_append hrest hscan]
  · have hx : Numeral.value? { numeral with rest := left ++ rest } = some (.float x) := hx
    rw [Spelling.value, hx]

/-- A value without parts that is spelled by a word. -/
theorem isReadAt_word {v : Json}
    (h : ∀ fuel rest, ∃ sp, Spelling.scan (fuel + 1) level (text ++ rest) = (sp, some rest) ∧
      sp.value = .ok v) : IsReadAt level text v :=
  .intro fun fuel rest _ _ =>
    let ⟨sp, hscan, hvalue⟩ := h fuel rest
    ⟨sp, rest, hscan, rfl, hvalue⟩

theorem isReadAt_int {i : Int} (low : -(UInt64.size / 2 : Int) ≤ i) (high : i < UInt64.size) :
    IsReadAt level (Text.decimalInt i).toList (.int i) := by
  refine .intro fun fuel rest _ hrest => ?_
  cases i with
  | ofNat n =>
    obtain ⟨d, digits, hdigits, -⟩ := Numeral.exists_toDigits_eq_cons n
    have hd : Text.isDigit d = true := Text.isDigit_of_mem_toDigits (n := n) (by simp [hdigits])
    have hat := Spelling.AtNumeral.of_isDigit hd (digits ++ rest)
    rw [← List.cons_append, ← hdigits] at hat
    have htext : (Text.decimalInt (.ofNat n)).toList = Nat.toDigits 10 n := by
      simp [Text.decimalInt, Text.decimal]
    refine ⟨.number ⟨rest, false, Nat.toDigits 10 n, [], false, none⟩, rest, ?_, rfl, ?_⟩
    · rw [htext, hat.scan_eq, Spelling.scanNumber, Numeral.scan_toDigits n false hrest]
    · rw [Spelling.value, Numeral.value?_toDigits (Int.ofNat_lt.mp high)]
      rfl
  | negSucc n =>
    have htext : (Text.decimalInt (.negSucc n)).toList = '-' :: Nat.toDigits 10 (n + 1) := by
      simp [Text.decimalInt, Text.decimal]
    have hat : Spelling.AtNumeral true (Nat.toDigits 10 (n + 1) ++ rest)
        ('-' :: (Nat.toDigits 10 (n + 1) ++ rest)) := .minus rfl
    refine ⟨.number ⟨rest, true, Nat.toDigits 10 (n + 1), [], false, none⟩, rest, ?_, rfl, ?_⟩
    · rw [htext, List.cons_append, hat.scan_eq, Spelling.scanNumber,
        Numeral.scan_toDigits _ true hrest]
    · rw [Spelling.value, Numeral.value?_toDigits_negative (by omega) (by omega)]
      rfl

theorem toList_quoted (s : String) :
    (quoted s).toList = '"' :: (s.toList.flatMap escaped ++ ['"']) := by
  simp [quoted]

theorem isReadAt_string (s : String) : IsReadAt level (quoted s).toList (.string s) := by
  refine .intro fun fuel rest _ _ => ?_
  obtain ⟨q, hscan, hfault, htext⟩ := Quoted.scan_toList s rest
  refine ⟨.string q, rest, ?_, rfl, ?_⟩
  · have hquote : (quoted s).toList ++ rest = '"' :: (s.toList.flatMap escaped ++ '"' :: rest) := by
      simp [toList_quoted]
    rw [hquote]
    change Spelling.scanString _ = _
    rw [Spelling.scanString, hscan]
    simp [hfault]
  · rw [Spelling.value, htext]
    rfl

end Anywhere

/-! ### Lists -/

namespace Spelling

section Steps

variable {fuel level : Nat} {afterComma : Bool} {cs rest more inside left : List Char}
  {sp : Spelling} {key : Quoted}

/-- An item with a comma behind it. -/
theorem scanItems_comma (h : scan (fuel + 1) level cs = (sp, some rest))
    (hrest : dropSpace rest = ',' :: more) : 
    scanItems (fuel + 2) level afterComma cs = .push sp (scanItems (fuel + 1) level true more) := by
  obtain ⟨c, tail, hcs, hc⟩ := exists_of_scan h
  rw [← scan_dropSpace, hcs] at h
  rw [scanItems]
  simp only [hcs, h, hrest]

/-- An item with the closing bracket behind it. -/
theorem scanItems_end (h : scan (fuel + 1) level cs = (sp, some rest))
    (hrest : dropSpace rest = ']' :: more) :
    scanItems (fuel + 2) level afterComma cs = .push sp (.closed more) := by
  obtain ⟨c, tail, hcs, hc⟩ := exists_of_scan h
  rw [← scan_dropSpace, hcs] at h
  rw [scanItems]
  simp only [hcs, h, hrest]

theorem scanMembers_comma (hcs : dropSpace cs = '"' :: inside)
    (hkey : Quoted.scan inside = (key, ':' :: left)) (hfault : key.fault = none)
    (h : scan fuel level left = (sp, some rest)) (hrest : dropSpace rest = ',' :: more) :
    scanMembers (fuel + 1) level afterComma cs =
      .push (key, sp) (scanMembers fuel level true more) := by
  have hcolon : dropSpace (':' :: left) = ':' :: left := rfl
  rw [scanMembers]
  simp only [hcs, hkey, hfault, hcolon, h, hrest]
  rfl

theorem scanMembers_end (hcs : dropSpace cs = '"' :: inside)
    (hkey : Quoted.scan inside = (key, ':' :: left)) (hfault : key.fault = none)
    (h : scan fuel level left = (sp, some rest)) (hrest : dropSpace rest = '\x7d' :: more) :
    scanMembers (fuel + 1) level afterComma cs = .push (key, sp) (.closed more) := by
  have hcolon : dropSpace (':' :: left) = ':' :: left := rfl
  rw [scanMembers]
  simp only [hcs, hkey, hfault, hcolon, h, hrest]
  rfl

end Steps

end Spelling

theorem length_newline (indent : Nat) : (newline indent).toList.length = 2 * indent + 1 := by
  simp [newline]

theorem ends_comma {rest : List Char} : Numeral.Ends (',' :: rest) := by
  rintro c ⟨⟩
  decide

section Lists

variable {level indent : Nat}

/-- **Printed items are read one by one,** up to the bracket behind them. -/
theorem scanItems_prettyItems {items : List Json} (hne : items ≠ [])
    (h : ∀ item ∈ items, IsReadAt level (prettyAt indent item).toList item.canonical)
    {fuel : Nat} (hfuel : 2 * (prettyItems indent items).toList.length < fuel)
    (afterComma : Bool) {tail more : List Char} (hends : Numeral.Ends tail)
    (htail : dropSpace tail = ']' :: more) :
    ∃ parts, Spelling.scanItems fuel level afterComma
        ((prettyItems indent items).toList ++ tail) = ⟨parts, none, some more⟩ ∧
      Spelling.itemValues parts = .ok (canonicalItems items) := by
  induction items generalizing fuel afterComma with
  | nil => exact absurd rfl hne
  | cons item rest ih =>
    obtain ⟨hitem, hothers⟩ := List.forall_mem_cons.mp h
    have hspace := dropSpace_newline indent
    have hline := length_newline indent
    cases rest with
    | nil =>
      simp only [prettyItems, String.toList_append, List.length_append] at hfuel
      obtain ⟨fuel, rfl⟩ : ∃ k, fuel = k + 2 := ⟨fuel - 2, by omega⟩
      obtain ⟨sp, left, hscan, hleft, hvalue⟩ :=
        hitem (newline indent).toList (fuel + 1) tail hspace (by omega) hends
      refine ⟨[sp], ?_, ?_⟩
      · simp only [prettyItems, String.toList_append, List.append_assoc]
        exact Spelling.scanItems_end hscan (hleft.trans htail)
      · exact Spelling.itemValues_cons_eq_ok_iff.mpr ⟨_, [], hvalue, rfl, rfl⟩
    | cons next rest =>
      have hcomma : ",".toList = [','] := rfl
      simp only [prettyItems, String.toList_append, List.length_append, hcomma,
        List.length_singleton] at hfuel
      obtain ⟨fuel, rfl⟩ : ∃ k, fuel = k + 2 := ⟨fuel - 2, by omega⟩
      obtain ⟨sp, left, hscan, hleft, hvalue⟩ :=
        hitem (newline indent).toList (fuel + 1)
          (',' :: ((prettyItems indent (next :: rest)).toList ++ tail)) hspace (by omega)
          ends_comma
      have hlength : 2 * (prettyItems indent (next :: rest)).toList.length < fuel + 1 := by omega
      obtain ⟨parts, hparts, hvalues⟩ := ih (List.cons_ne_nil _ _) hothers hlength true
      refine ⟨sp :: parts, ?_, Spelling.itemValues_cons_eq_ok_iff.mpr ⟨_, _, hvalue, hvalues, rfl⟩⟩
      simp only [prettyItems, String.toList_append, List.append_assoc, hcomma,
        List.cons_append, List.nil_append]
      rw [Spelling.scanItems_comma hscan hleft, hparts]
      rfl

/-- **Printed members are read one by one,** up to the brace behind them. -/
theorem scanMembers_prettyMembers {members : List (String × Json)} (hne : members ≠ [])
    (h : ∀ m ∈ members, IsReadAt level (prettyAt indent m.2).toList m.2.canonical)
    {fuel : Nat} (hfuel : 2 * (prettyMembers indent members).toList.length < fuel)
    (afterComma : Bool) {tail more : List Char} (hends : Numeral.Ends tail)
    (htail : dropSpace tail = '\x7d' :: more) :
    ∃ parts, Spelling.scanMembers fuel level afterComma
        ((prettyMembers indent members).toList ++ tail) = ⟨parts, none, some more⟩ ∧
      ∀ sorted, Spelling.memberValues parts sorted = .ok (canonicalMembers members sorted) := by
  induction members generalizing fuel afterComma with
  | nil => exact absurd rfl hne
  | cons m rest ih =>
    obtain ⟨key, value⟩ := m
    obtain ⟨hmember, hothers⟩ := List.forall_mem_cons.mp h
    have hmember : IsReadAt level (prettyAt indent value).toList value.canonical := hmember
    have hspace := dropSpace_newline indent
    have hline := length_newline indent
    have hcolon : ": ".toList = [':', ' '] := rfl
    cases rest with
    | nil =>
      simp only [prettyMembers, String.toList_append, List.length_append] at hfuel
      obtain ⟨fuel, rfl⟩ : ∃ k, fuel = k + 1 := ⟨fuel - 1, by omega⟩
      obtain ⟨sp, left, hscan, hleft, hvalue⟩ := hmember [' '] fuel tail rfl (by omega) hends
      obtain ⟨q, hkey, hfault, htext⟩ :=
        Quoted.scan_toList key (':' :: ' ' :: ((prettyAt indent value).toList ++ tail))
      refine ⟨[(q, sp)], ?_, fun sorted =>
        Spelling.memberValues_cons_eq_ok_iff.mpr ⟨_, _, htext, hvalue, rfl⟩⟩
      refine Spelling.scanMembers_end ?_ hkey hfault hscan (hleft.trans htail)
      simp only [prettyMembers, String.toList_append, List.append_assoc, hcolon, toList_quoted,
        List.cons_append, List.nil_append]
      exact dropSpace_append_of_nil hspace
    | cons next rest =>
      have hcomma : ",".toList = [','] := rfl
      simp only [prettyMembers, String.toList_append, List.length_append, hcomma,
        List.length_singleton] at hfuel
      obtain ⟨fuel, rfl⟩ : ∃ k, fuel = k + 1 := ⟨fuel - 1, by omega⟩
      obtain ⟨sp, left, hscan, hleft, hvalue⟩ :=
        hmember [' '] fuel (',' :: ((prettyMembers indent (next :: rest)).toList ++ tail)) rfl
          (by omega) ends_comma
      obtain ⟨q, hkey, hfault, htext⟩ := Quoted.scan_toList key
        (':' :: ' ' :: ((prettyAt indent value).toList ++
          ',' :: ((prettyMembers indent (next :: rest)).toList ++ tail)))
      have hlength : 2 * (prettyMembers indent (next :: rest)).toList.length < fuel := by omega
      obtain ⟨parts, hparts, hvalues⟩ := ih (List.cons_ne_nil _ _) hothers hlength true
      refine ⟨(q, sp) :: parts, ?_, fun sorted =>
        Spelling.memberValues_cons_eq_ok_iff.mpr ⟨_, _, htext, hvalue, hvalues _⟩⟩
      rw [Spelling.scanMembers_comma ?_ hkey hfault hscan hleft, hparts]
      · rfl
      · simp only [prettyMembers, String.toList_append, List.append_assoc, hcolon, hcomma,
          toList_quoted, List.cons_append, List.nil_append]
        exact dropSpace_append_of_nil hspace

variable {text : List Char}

/-- Items between brackets are read as an array if there is room for a level. -/
theorem isReadAt_array {vs : List Json} (hlevel : level + 1 ≤ deepestLevel)
    (h : ∀ fuel rest, 2 * text.length < fuel → ∃ parts,
      Spelling.scanItems fuel (level + 1) false (text ++ ']' :: rest) = ⟨parts, none, some rest⟩ ∧
        Spelling.itemValues parts = .ok vs) :
    IsReadAt level ('[' :: (text ++ [']'])) (.array vs) := by
  refine .intro fun fuel rest hfuel _ => ?_
  simp only [List.length_cons, List.length_append] at hfuel
  obtain ⟨parts, hparts, hvalues⟩ := h fuel rest (by omega)
  have hscan : Spelling.scan (fuel + 1) level ('[' :: (text ++ [']']) ++ rest) =
      (.array ⟨level + 1, text ++ ']' :: rest⟩ parts none, some rest) := by
    have htext : '[' :: (text ++ [']']) ++ rest = '[' :: (text ++ ']' :: rest) := by simp
    have hscan : Spelling.scan (fuel + 1) level ('[' :: (text ++ ']' :: rest)) =
        (.array ⟨level + 1, text ++ ']' :: rest⟩
          (Spelling.scanItems fuel (level + 1) false (text ++ ']' :: rest)).parts
          (Spelling.scanItems fuel (level + 1) false (text ++ ']' :: rest)).stop,
        (Spelling.scanItems fuel (level + 1) false (text ++ ']' :: rest)).rest) := rfl
    rw [htext, hscan, hparts]
  exact ⟨_, rest, hscan, rfl, Spelling.value_array_eq_ok_iff.mpr
    ⟨if_neg (Nat.not_lt.mpr hlevel), rfl, vs, hvalues, rfl⟩⟩

/-- Members between braces are read as an object if there is room for a level. -/
theorem isReadAt_object {ms : List (String × Json)} (hlevel : level + 1 ≤ deepestLevel)
    (h : ∀ fuel rest, 2 * text.length < fuel → ∃ parts,
      Spelling.scanMembers fuel (level + 1) false (text ++ '\x7d' :: rest) =
          ⟨parts, none, some rest⟩ ∧
        Spelling.memberValues parts [] = .ok ms) :
    IsReadAt level ('\x7b' :: (text ++ ['\x7d'])) (.object ms) := by
  refine .intro fun fuel rest hfuel _ => ?_
  simp only [List.length_cons, List.length_append] at hfuel
  obtain ⟨parts, hparts, hvalues⟩ := h fuel rest (by omega)
  have hscan : Spelling.scan (fuel + 1) level ('\x7b' :: (text ++ ['\x7d']) ++ rest) =
      (.object ⟨level + 1, text ++ '\x7d' :: rest⟩ parts none, some rest) := by
    have htext : '\x7b' :: (text ++ ['\x7d']) ++ rest = '\x7b' :: (text ++ '\x7d' :: rest) := by
      simp
    have hscan : Spelling.scan (fuel + 1) level ('\x7b' :: (text ++ '\x7d' :: rest)) =
        (.object ⟨level + 1, text ++ '\x7d' :: rest⟩
          (Spelling.scanMembers fuel (level + 1) false (text ++ '\x7d' :: rest)).parts
          (Spelling.scanMembers fuel (level + 1) false (text ++ '\x7d' :: rest)).stop,
        (Spelling.scanMembers fuel (level + 1) false (text ++ '\x7d' :: rest)).rest) := rfl
    rw [htext, hscan, hparts]
  exact ⟨_, rest, hscan, rfl, Spelling.value_object_eq_ok_iff.mpr
    ⟨if_neg (Nat.not_lt.mpr hlevel), rfl, ms, hvalues, rfl⟩⟩

/-- A line break ends a numeral. -/
theorem ends_newline {rest : List Char} : Numeral.Ends ((newline indent).toList ++ rest) := by
  rw [newline, String.toList_ofList]
  rintro c ⟨⟩
  decide

/-! ### Printed values -/

theorem isReadAt_bool (b : Bool) : IsReadAt level (prettyAt indent (.bool b)).toList (.bool b) := by
  cases b with
  | false =>
    have htext : (prettyAt indent (.bool false)).toList = ['f', 'a', 'l', 's', 'e'] := by
      simp [prettyAt, scalarText]
    rw [htext]
    exact isReadAt_word fun _ _ => ⟨.bool false, rfl, rfl⟩
  | true =>
    have htext : (prettyAt indent (.bool true)).toList = ['t', 'r', 'u', 'e'] := by
      simp [prettyAt, scalarText]
    rw [htext]
    exact isReadAt_word fun _ _ => ⟨.bool true, rfl, rfl⟩

/-- An array is read from where it is printed if its items are. -/
theorem isReadAt_prettyAt_array {items : List Json} (hlevel : level + 1 ≤ deepestLevel)
    (h : ∀ item ∈ items,
      IsReadAt (level + 1) (prettyAt (indent + 1) item).toList item.canonical) :
    IsReadAt level (prettyAt indent (.array items)).toList (.array (canonicalItems items)) := by
  cases items with
  | nil =>
    have htext : (prettyAt indent (.array [])).toList = '[' :: ([] ++ [']']) := by
      simp [prettyAt]
    rw [htext]
    refine isReadAt_array hlevel fun fuel rest hfuel => ⟨[], ?_, rfl⟩
    obtain ⟨fuel, rfl⟩ : ∃ k, fuel = k + 1 := ⟨fuel - 1, by omega⟩
    rfl
  | cons item items =>
    have htext : (prettyAt indent (.array (item :: items))).toList =
        '[' :: ((prettyItems (indent + 1) (item :: items) ++ newline indent).toList ++ [']']) := by
      simp [prettyAt]
    rw [htext]
    refine isReadAt_array hlevel fun fuel rest hfuel => ?_
    rw [String.toList_append, List.length_append] at hfuel
    rw [String.toList_append, List.append_assoc]
    exact scanItems_prettyItems (List.cons_ne_nil _ _) h (by omega) false ends_newline
      (dropSpace_append_of_nil (dropSpace_newline indent))

/-- An object is read from where it is printed if the values of its members are. -/
theorem isReadAt_prettyAt_object {members : List (String × Json)}
    (hlevel : level + 1 ≤ deepestLevel)
    (h : ∀ m ∈ members,
      IsReadAt (level + 1) (prettyAt (indent + 1) m.2).toList m.2.canonical) :
    IsReadAt level (prettyAt indent (.object members)).toList
      (.object (canonicalMembers members [])) := by
  cases members with
  | nil =>
    have htext : (prettyAt indent (.object [])).toList = '\x7b' :: ([] ++ ['\x7d']) := by
      simp [prettyAt]
    rw [htext]
    refine isReadAt_object hlevel fun fuel rest hfuel => ⟨[], ?_, rfl⟩
    obtain ⟨fuel, rfl⟩ : ∃ k, fuel = k + 1 := ⟨fuel - 1, by omega⟩
    rfl
  | cons m members =>
    have htext : (prettyAt indent (.object (m :: members))).toList =
        '\x7b' :: ((prettyMembers (indent + 1) (m :: members) ++ newline indent).toList ++
          ['\x7d']) := by
      simp [prettyAt]
    rw [htext]
    refine isReadAt_object hlevel fun fuel rest hfuel => ?_
    rw [String.toList_append, List.length_append] at hfuel
    rw [String.toList_append, List.append_assoc]
    have hlength : 2 * (prettyMembers (indent + 1) (m :: members)).toList.length < fuel := by
      omega
    have hbrace : dropSpace ((newline indent).toList ++ '\x7d' :: rest) = '\x7d' :: rest :=
      dropSpace_append_of_nil (dropSpace_newline indent)
    obtain ⟨parts, hparts, hvalues⟩ := scanMembers_prettyMembers (List.cons_ne_nil _ _)
      h hlength false ends_newline hbrace
    exact ⟨parts, hparts, hvalues []⟩

end Lists

/-- **A value that fits in a text is read from where it is printed,** at any level that leaves
room for it. -/
theorem isReadAt_prettyAt {n : Nat} {v : Json} (h : v.Fits Binary64.ReadsBack n)
    {level : Nat} (hlevel : level + n ≤ deepestLevel) (indent : Nat) :
    IsReadAt level (prettyAt indent v).toList v.canonical := by
  induction h generalizing level indent with
  | null =>
    have htext : (prettyAt indent .null).toList = ['n', 'u', 'l', 'l'] := by
      simp [prettyAt, scalarText]
    rw [htext]
    exact isReadAt_word fun _ _ => ⟨.null, rfl, rfl⟩
  | bool => exact isReadAt_bool _
  | int low high => exact isReadAt_int low high
  | float hx => exact isReadAt_float hx
  | string => exact isReadAt_string _
  | array _ ih =>
    exact isReadAt_prettyAt_array (by omega) fun item hitem =>
      ih item hitem (by omega) (indent + 1)
  | object _ ih =>
    exact isReadAt_prettyAt_object (by omega) fun m hm => ih m hm (by omega) (indent + 1)

/-- **A printed value is read as it was,** in canonical form: reading inverts printing on every
value that fits in a text and whose floating-point numbers are read back one by one. -/
theorem ofText_pretty {v : Json} (h : v.Fits Binary64.ReadsBack deepestLevel) :
    ofText v.pretty = .ok v.canonical := by
  have hread : IsReadAt 0 v.pretty.toList v.canonical :=
    isReadAt_prettyAt h (Nat.zero_add _).le 0
  obtain ⟨sp, left, hscan, hleft, hvalue⟩ :=
    hread [] (2 * v.pretty.toList.length + 2) [] rfl (Nat.lt_add_of_pos_right Nat.two_pos) nofun
  rw [List.append_nil] at hscan
  exact (ofText_of_scan hscan).mpr ⟨hvalue, hleft⟩

/-- The line break behind a value that is printed as a line makes no difference. -/
theorem ofText_pretty_line {v : Json} (h : v.Fits Binary64.ReadsBack deepestLevel) :
    ofText (v.pretty ++ "\n") = .ok v.canonical := by
  have hread : IsReadAt 0 v.pretty.toList v.canonical :=
    isReadAt_prettyAt h (Nat.zero_add _).le 0
  have htext : (v.pretty ++ "\n").toList = v.pretty.toList ++ ['\n'] := String.toList_append
  have hfuel : 2 * v.pretty.toList.length < 2 * (v.pretty ++ "\n").toList.length + 2 := by
    rw [htext, List.length_append]
    omega
  have hends : Numeral.Ends ['\n'] := by
    rintro c ⟨⟩
    decide
  obtain ⟨sp, left, hscan, hleft, hvalue⟩ := hread [] _ ['\n'] rfl hfuel hends
  rw [List.nil_append, ← htext] at hscan
  exact (ofText_of_scan hscan).mpr ⟨hvalue, hleft⟩

end Json

end PipelineCanvas
