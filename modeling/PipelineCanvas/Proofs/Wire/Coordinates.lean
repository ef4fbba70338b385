import Mathlib.Data.List.DropRight
import PipelineCanvas.Proofs.Wire.RoundTrip

/-!
# The grammar of coordinates

A coordinate is a number or a text, and a text is read by trimming it, taking the unit off if it
ends so, trimming what is left and reading that as a word. This file says which texts are read
without saying how: `Position.SpellsLength` is a grammar, a list of parts in their order. That the
two agree comes down to where a text can be cut. A word begins and ends with characters that are
not white space, so trimming finds it; and a unit ends with a character that no word ends with, so
it is taken off only where the grammar has one.

* `Text.trimChars_append`, `Text.exists_trimChars` – trimming takes off the white space around;
* `Text.SpellsWord`, `Text.word?_eq_some_iff` – which texts are words;
* `Position.SpellsLength`, **`Position.length?_eq_some_iff`** – which texts are lengths;
* **`Position.decode_grammar`** – which documents are positions.
-/

namespace PipelineCanvas

namespace Text

variable {c : Char} {cs lead trail ending : List Char} {n : Nat} {w : UInt32}

/-! ### Trimming -/

/-- There is nothing but white space. -/
def Space (cs : List Char) : Prop := ∀ c ∈ cs, isBlankChar c = true

instance : Decidable (Space cs) := decidable_of_iff (cs.all isBlankChar = true) List.all_eq_true

theorem Space.nil : Space [] := List.forall_mem_nil _

theorem Space.append (h : Space lead) (h' : Space trail) : Space (lead ++ trail) := fun c hc =>
  (List.mem_append.mp hc).elim (h c) (h' c)

theorem isBlank_iff {s : String} : isBlank s = true ↔ Space s.toList := List.all_eq_true

/-- What is trimmed off is white space. -/
theorem exists_trimChars (cs : List Char) :
    ∃ lead trail, cs = lead ++ trimChars cs ++ trail ∧ Space lead ∧ Space trail := by
  have htrim : trimChars cs = (cs.dropWhile isBlankChar).rdropWhile isBlankChar := rfl
  refine ⟨cs.takeWhile isBlankChar, (cs.dropWhile isBlankChar).rtakeWhile isBlankChar, ?_,
    fun c hc => List.mem_takeWhile_imp hc, fun c hc => List.mem_rtakeWhile_imp hc⟩
  rw [htrim, List.append_assoc, List.rdropWhile_append_rtakeWhile,
    List.takeWhile_append_dropWhile]

/-- White space is dropped up to the first other character. -/
theorem dropBlank_append (h : Space lead) (hhead : ∀ c ∈ cs.head?, isBlankChar c = false) :
    dropBlank (lead ++ cs) = cs := by
  rw [dropBlank, List.dropWhile_append_of_pos h]
  cases cs with
  | nil => rfl
  | cons c cs => exact List.dropWhile_cons_of_neg (by simp [hhead c rfl])

/-- **Only the white space around a text is trimmed off.** -/
theorem trimChars_append (hlead : Space lead) (htrail : Space trail) (hne : cs ≠ [])
    (hhead : ∀ c ∈ cs.head?, isBlankChar c = false)
    (hlast : ∀ c ∈ cs.getLast?, isBlankChar c = false) :
    trimChars (lead ++ cs ++ trail) = cs := by
  -- the front goes first; the back goes as the front of what is left, reversed
  have hfront : dropBlank (lead ++ (cs ++ trail)) = cs ++ trail := by
    refine dropBlank_append hlead fun c hc => hhead c ?_
    rwa [List.head?_append_of_ne_nil _ hne] at hc
  have hback : dropBlank (trail.reverse ++ cs.reverse) = cs.reverse := by
    refine dropBlank_append (fun c hc => htrail c (List.mem_reverse.mp hc)) fun c hc => ?_
    rw [List.head?_reverse] at hc
    exact hlast c hc
  rw [trimChars, List.append_assoc, hfront, List.reverse_append, hback, List.reverse_reverse]

theorem dropEnding?_eq_some (h : dropEnding? ending cs = some lead) : cs = lead ++ ending := by
  rw [dropEnding?] at h
  split at h
  · next hsuffix =>
    obtain ⟨front, rfl⟩ := List.isSuffixOf_iff_suffix.mp hsuffix
    cases h
    simp
  · cases h

/-! ### Words -/

theorem isDigit_of_digitValue? {d : Nat} (h : digitValue? c = some d) (hd : d < 10) :
    isDigit c = true := by
  have hzero : '0'.toNat = 48 := rfl
  have ha : 'a'.toNat = 97 := rfl
  have hA : 'A'.toNat = 65 := rfl
  rw [digitValue?] at h
  -- a letter stands for ten or more
  split at h
  · next hc => simpa [isDigit] using hc
  · split at h
    · cases h
      omega
    · split at h
      · cases h
        omega
      · cases h

/-- Only decimal digits have a value in base ten. -/
theorem isDigit_of_digitsFrom? {value : Nat} (h : digitsFrom? 10 value cs = some n) :
    ∀ c ∈ cs, isDigit c = true := by
  induction cs generalizing value with
  | nil => exact List.forall_mem_nil _
  | cons c cs ih =>
    rw [digitsFrom?] at h
    split at h
    · next d hd =>
      split at h
      · next hlt => exact List.forall_mem_cons.mpr ⟨isDigit_of_digitValue? hd hlt, ih h⟩
      · cases h
    · cases h

theorem digits?_eq_some_iff :
    digits? 10 cs = some n ↔
      cs ≠ [] ∧ (∀ c ∈ cs, isDigit c = true) ∧ Nat.ofDigitChars 10 cs 0 = n := by
  cases cs with
  | nil => simp [digits?]
  | cons c cs =>
    rw [digits?]
    constructor
    · intro h
      have hdigits := isDigit_of_digitsFrom? h
      rw [digitsFrom?_of_isDigit hdigits] at h
      exact ⟨List.cons_ne_nil c cs, hdigits, Option.some.inj h⟩
    · rintro ⟨-, hdigits, rfl⟩
      exact digitsFrom?_of_isDigit hdigits 0
    · exact List.cons_ne_nil c cs

/-- A text spells a number: digits of its value, leading zeros among them, and maybe a plus
before. -/
def SpellsWord (cs : List Char) (n : Nat) : Prop :=
  ∃ sign digits, cs = sign ++ digits ∧ (sign = [] ∨ sign = ['+']) ∧ digits ≠ [] ∧
    (∀ c ∈ digits, isDigit c = true) ∧ Nat.ofDigitChars 10 digits 0 = n

theorem toWord?_eq_some_iff : toWord? n = some w ↔ n = w.toNat := by
  rw [toWord?]
  split
  · next hlt =>
    rw [Option.some.injEq]
    constructor
    · rintro rfl
      exact (UInt32.toNat_ofNat_of_lt' hlt).symm
    · rintro rfl
      exact UInt32.ofNat_toNat
  · next hlt =>
    refine iff_of_false (by simp) ?_
    rintro rfl
    exact hlt w.toNat_lt

/-- **A word is read from exactly the texts that spell it.** -/
theorem word?_eq_some_iff : word? cs = some w ↔ SpellsWord cs w.toNat := by
  have hread : ∀ digits : List Char, (digits? 10 digits).bind toWord? = some w ↔
      digits? 10 digits = some w.toNat := fun digits => by
    simp only [Option.bind_eq_some_iff, toWord?_eq_some_iff, exists_eq_right]
  constructor
  · intro h
    unfold word? at h
    split at h
    · next rest =>
      exact ⟨['+'], rest, rfl, .inr rfl, digits?_eq_some_iff.mp ((hread _).mp h)⟩
    · exact ⟨[], cs, rfl, .inl rfl, digits?_eq_some_iff.mp ((hread _).mp h)⟩
  · rintro ⟨sign, digits, rfl, rfl | rfl, hdigits⟩
    · unfold word?
      split
      · next rest hrest =>
        -- a digit is not a plus
        rw [List.nil_append] at hrest
        subst hrest
        exact absurd (hdigits.2.1 '+' (List.mem_cons_self ..)) (by decide)
      · exact (hread _).mpr (digits?_eq_some_iff.mpr hdigits)
    · exact (hread _).mpr (digits?_eq_some_iff.mpr hdigits)

theorem SpellsWord.ne_nil (h : SpellsWord cs n) : cs ≠ [] := by
  obtain ⟨sign, digits, rfl, -, hne, -⟩ := h
  exact List.append_ne_nil_of_right_ne_nil sign hne

theorem SpellsWord.not_blank (h : SpellsWord cs n) : ∀ c ∈ cs, isBlankChar c = false := by
  obtain ⟨sign, digits, rfl, hsign, -, hdigits, -⟩ := h
  intro c hc
  rcases List.mem_append.mp hc with hc | hc
  · rcases hsign with rfl | rfl
    · cases hc
    · rw [List.mem_singleton.mp hc]
      decide
  · exact not_blank_of_isDigit (hdigits c hc)

theorem SpellsWord.isDigit_getLast (h : SpellsWord cs n) :
    ∀ c ∈ cs.getLast?, isDigit c = true := by
  obtain ⟨sign, digits, rfl, -, hne, hdigits, -⟩ := h
  intro c hc
  rw [List.getLast?_append_of_ne_nil _ hne] at hc
  exact hdigits c (List.mem_of_getLast? hc)

end Text

/-! ### Lengths -/

namespace Position

open Text

variable {unit text : String} {n : Nat} {w : UInt32}

/-- A text spells a length: a word, maybe white space and the unit behind it, and white space
around all that. -/
def SpellsLength (unit text : String) (n : Nat) : Prop :=
  ∃ lead number tail trail, text.toList = lead ++ (number ++ tail) ++ trail ∧
    Space lead ∧ Space trail ∧ SpellsWord number n ∧
    (tail = [] ∨ ∃ gap, Space gap ∧ tail = gap ++ unit.toList)

/-- The last character of a unit is neither white space nor a digit. -/
def EndsUnit (unit : String) : Prop :=
  ∃ c, unit.toList.getLast? = some c ∧ isBlankChar c = false ∧ isDigit c = false

theorem endsUnit_leftUnit : EndsUnit leftUnit := ⟨'w', by decide, by decide, by decide⟩

theorem endsUnit_topUnit : EndsUnit topUnit := ⟨'x', by decide, by decide, by decide⟩

/-- What is read as a length spells it. -/
theorem spellsLength_of_length? (h : length? unit text = some w) :
    SpellsLength unit text w.toNat := by
  obtain ⟨lead, trail, htext, hlead, htrail⟩ := exists_trimChars text.toList
  rw [length?] at h
  cases hdrop : dropEnding? unit.toList (trimChars text.toList) with
  | some front =>
    rw [hdrop] at h
    obtain ⟨lead', gap, hfront, hlead', hgap⟩ := exists_trimChars front
    refine ⟨lead ++ lead', trimChars front, gap ++ unit.toList, trail, ?_, hlead.append hlead',
      htrail, word?_eq_some_iff.mp h, .inr ⟨gap, hgap, rfl⟩⟩
    calc text.toList = lead ++ (front ++ unit.toList) ++ trail := by
          rw [← dropEnding?_eq_some hdrop]
          exact htext
      _ = lead ++ ((lead' ++ trimChars front ++ gap) ++ unit.toList) ++ trail := by
          rw [← hfront]
      _ = lead ++ lead' ++ (trimChars front ++ (gap ++ unit.toList)) ++ trail := by
          simp only [List.append_assoc]
  | none =>
    -- there is no unit, and what was trimmed is trimmed once more
    rw [hdrop] at h
    obtain ⟨lead', trail', htrim, hlead', htrail'⟩ := exists_trimChars (trimChars text.toList)
    refine ⟨lead ++ lead', trimChars (trimChars text.toList), [], trail' ++ trail, ?_,
      hlead.append hlead', htrail'.append htrail, word?_eq_some_iff.mp h, .inl rfl⟩
    calc text.toList = lead ++ trimChars text.toList ++ trail := htext
      _ = lead ++ (lead' ++ trimChars (trimChars text.toList) ++ trail') ++ trail := by
          rw [← htrim]
      _ = lead ++ lead' ++ (trimChars (trimChars text.toList) ++ []) ++ (trail' ++ trail) := by
          simp only [List.append_assoc, List.append_nil]

/-- **A length is read from exactly the texts that spell it.** -/
theorem length?_eq_some_iff (hunit : EndsUnit unit) :
    length? unit text = some w ↔ SpellsLength unit text w.toNat := by
  refine ⟨spellsLength_of_length?, ?_⟩
  rintro ⟨lead, number, tail, trail, htext, hlead, htrail, hnumber, htail⟩
  obtain ⟨c, hlast, hblank, hdigit⟩ := hunit
  have hhead : ∀ c ∈ number.head?, isBlankChar c = false := fun c hc =>
    hnumber.not_blank c (List.mem_of_mem_head? hc)
  have hlast' : ∀ c ∈ number.getLast?, isBlankChar c = false := fun c hc =>
    hnumber.not_blank c (List.mem_of_getLast? hc)
  have hword : word? number = some w := word?_eq_some_iff.mpr hnumber
  rw [length?, htext]
  rcases htail with rfl | ⟨gap, hgap, rfl⟩
  · have hne : dropEnding? unit.toList number = none := by
      -- the word would end like the unit, and it ends with a digit
      by_contra hsome
      obtain ⟨front, hfront⟩ := Option.ne_none_iff_exists'.mp hsome
      have hends : number.getLast? = some c := by
        rw [dropEnding?_eq_some hfront, List.getLast?_append, hlast, Option.some_or]
      rw [hnumber.isDigit_getLast c hends] at hdigit
      cases hdigit
    have htrim : trimChars number = number := trimChars_of_not_blank hnumber.not_blank
    simp only [List.append_nil, trimChars_append hlead htrail hnumber.ne_nil hhead hlast', hne,
      Option.getD_none, htrim, hword]
  · -- the gap stands between the word and the unit, so it outlasts the first trimming
    have htrim : trimChars (lead ++ (number ++ (gap ++ unit.toList)) ++ trail) =
        number ++ gap ++ unit.toList := by
      rw [← List.append_assoc number]
      refine trimChars_append hlead htrail ?_ (fun d hd => ?_) fun d hd => ?_
      · simp [hnumber.ne_nil]
      · rw [List.append_assoc, List.head?_append_of_ne_nil _ hnumber.ne_nil] at hd
        exact hhead d hd
      · rw [List.getLast?_append, hlast, Option.some_or, Option.mem_some_iff] at hd
        exact hd ▸ hblank
    have hbody : trimChars (number ++ gap) = number :=
      trimChars_append Space.nil hgap hnumber.ne_nil hhead hlast'
    simp only [htrim, dropEnding?_append, Option.getD_some, hbody, hword]

/-! ### Positions -/

open Decode

namespace Given

/-- A coordinate as a document gives it. -/
def json : Given → Json
  | .number w => .word w
  | .text s => .string s

/-- What a coordinate stands for, if anything. -/
def Means (unit : String) : Given → UInt32 → Prop
  | .number v, w => v = w
  | .text s, w => SpellsLength unit s w.toNat

end Given

variable {left top g : Given} {members : List (String × Json)}

theorem given?_aside_json (g : Given) : given? g.json.aside = some g := by
  cases g with
  | text s => rfl
  | number v =>
    change (toWord? v.toNat).map Given.number = _
    rw [toWord?_eq_some_iff.mpr rfl]
    rfl

theorem coordinate_eq_ok_iff (hunit : EndsUnit unit) :
    coordinate unit g = .ok w ↔ g.Means unit w := by
  cases g with
  | number v => simp [coordinate, Given.Means]
  | text s =>
    rw [Given.Means, ← length?_eq_some_iff hunit, coordinate]
    split
    · next v hv => simp [hv]
    · next hnone => simp [hnone, reject]

/-- A coordinate that stands for nothing is a text, and is refused with it. -/
theorem exists_coordinate_eq_error (hunit : EndsUnit unit) (h : ∀ w, ¬ g.Means unit w) :
    ∃ s, g = .text s ∧ coordinate unit g = .error (.rejected (.notLength s unit)) := by
  cases g with
  | number v => exact absurd rfl (h v)
  | text s =>
    refine ⟨s, rfl, ?_⟩
    have hnone : length? unit s = none := Option.eq_none_iff_forall_ne_some.mpr fun w hw =>
      h w ((length?_eq_some_iff hunit).mp hw)
    rw [coordinate, hnone]
    rfl

/-- Members give a coordinate under a name, and give it once. -/
def GivesOnce (members : List (String × Json)) (name : String) (g : Given) : Prop :=
  members.filter (·.1 = name) = [(name, g.json)]

/-- A coordinate that was found already is not given again, and one that was not is given once. -/
def Awaits (found : Option Given) (members : List (String × Json)) (name : String) (g : Given) :
    Prop :=
  (found = some g ∧ members.filter (·.1 = name) = []) ∨ (found = none ∧ GivesOnce members name g)

theorem awaits_cons_of_ne {found : Option Given} {key name : String} {value : Json}
    (hkey : key ≠ name) :
    Awaits found ((key, value) :: members) name g ↔ Awaits found members name g := by
  rw [Awaits, Awaits, GivesOnce, GivesOnce, List.filter_cons_of_neg (by simpa using hkey)]

/-- A member under the name of a coordinate gives it. -/
theorem Awaits.of_cons {found : Option Given} {name : String} {value : Json}
    (h : Awaits found ((name, value) :: members) name g) :
    found = none ∧ value = g.json ∧ Awaits (some g) members name g := by
  rcases h with ⟨-, hnone⟩ | ⟨hfound, hgives⟩
  · rw [List.filter_cons_of_pos (by simp)] at hnone
    cases hnone
  · rw [GivesOnce, List.filter_cons_of_pos (by simp)] at hgives
    obtain ⟨hvalue, hrest⟩ := List.cons.inj hgives
    exact ⟨hfound, (Prod.mk.inj hvalue).2, .inl ⟨rfl, hrest⟩⟩

theorem pair?_text (key : String) (v : Untyped) (rest : List (Untyped × Untyped)) (p : Pair) :
    pair? ((.text key, v) :: rest) p =
      if key = "left" then
        if p.left.isSome then none
        else (given? v).bind fun g => pair? rest { p with left := some g }
      else if key = "top" then
        if p.top.isSome then none
        else (given? v).bind fun g => pair? rest { p with top := some g }
      else pair? rest p := by
  simp [pair?]

/-- **Coordinates that are given once are found,** among whatever other members. -/
theorem pair?_asideMembers {p : Pair} (hleft : Awaits p.left members "left" left)
    (htop : Awaits p.top members "top" top) :
    pair? (Json.asideMembers members) p = some ⟨some left, some top⟩ := by
  induction members generalizing p with
  | nil =>
    obtain ⟨hl, -⟩ | ⟨-, hl⟩ := hleft
    · obtain ⟨ht, -⟩ | ⟨-, ht⟩ := htop
      · obtain ⟨_, _⟩ := p
        cases hl
        cases ht
        rfl
      · cases ht
    · cases hl
  | cons m rest ih =>
    obtain ⟨key, value⟩ := m
    rw [Json.asideMembers, pair?_text]
    by_cases hkey : key = "left"
    · subst hkey
      obtain ⟨hnone, rfl, hleft'⟩ := hleft.of_cons
      rw [if_pos rfl, hnone, given?_aside_json]
      exact ih hleft' ((awaits_cons_of_ne (by decide)).mp htop)
    · rw [if_neg hkey]
      by_cases hkey' : key = "top"
      · subst hkey'
        obtain ⟨hnone, rfl, htop'⟩ := htop.of_cons
        rw [if_pos rfl, hnone, given?_aside_json]
        exact ih ((awaits_cons_of_ne (by decide)).mp hleft) htop'
      · rw [if_neg hkey']
        exact ih ((awaits_cons_of_ne hkey).mp hleft) ((awaits_cons_of_ne hkey').mp htop)

variable {V : Type} [Source V Result] {doc : Json → V}

/-- Members that give both coordinates are read one coordinate after the other. -/
theorem decode_members (hd : Shows doc) (hleft : GivesOnce members "left" left)
    (htop : GivesOnce members "top" top) :
    decode (doc (.object members)) =
      (coordinate leftUnit left >>= fun l => coordinate topUnit top >>= fun t => .ok ⟨l, t⟩) := by
  have hpair : pair? (Json.asideMembers members) ⟨none, none⟩ = some ⟨some left, some top⟩ :=
    pair?_asideMembers (.inr ⟨rfl, hleft⟩) (.inr ⟨rfl, htop⟩)
  rw [decode, hd.untyped, ok_bind, Json.aside, ofUntyped]
  simp only [hpair]
  cases coordinate leftUnit left with
  | error e => rfl
  | ok l =>
    cases coordinate topUnit top with
    | error e => rfl
    | ok t => rfl

theorem decode_text (hd : Shows doc) (s : String) :
    decode (doc (.string s)) =
      if Text.isBlank s then .ok origin else .error (.rejected (.notStyle s)) := by
  rw [decode, hd.untyped, ok_bind, Json.aside, ofUntyped]
  split <;> rfl

/-- The members of a written position are read whether or not they are sorted: they are. -/
theorem canonical_toJson (p : Position) : p.toJson.canonical = p.toJson := rfl

/-- **Positions are read by one grammar.** Two coordinates make up a position if each stands for a
word in its unit, and then make up that one; otherwise the first that stands for none is named. A
text makes up the origin if it is blank, and nothing if it is not. A position that is written is
read back, so what any document is read as is written the same ever after. -/
theorem decode_grammar (hd : Shows doc) :
    (∀ members left top, GivesOnce members "left" left → GivesOnce members "top" top →
      (∀ p, decode (doc (.object members)) = .ok p ↔
        left.Means leftUnit p.left ∧ top.Means topUnit p.top) ∧
      ((∀ w, ¬ left.Means leftUnit w) → ∃ s, left = .text s ∧
        decode (doc (.object members)) = .error (.rejected (.notLength s leftUnit))) ∧
      ((∃ w, left.Means leftUnit w) → (∀ w, ¬ top.Means topUnit w) → ∃ s, top = .text s ∧
        decode (doc (.object members)) = .error (.rejected (.notLength s topUnit)))) ∧
    (∀ s, (Space s.toList → decode (doc (.string s)) = .ok ⟨0, 0⟩) ∧
      (¬ Space s.toList → decode (doc (.string s)) = .error (.rejected (.notStyle s)))) ∧
    (∀ p : Position, decode (doc p.toJson) = .ok p) ∧
    ∀ j p, decode (doc j) = .ok p →
      (decode (doc p.toJson)).map toJson = .ok p.toJson := by
  have hwritten : ∀ p : Position, decode (doc p.toJson) = .ok p := fun p => by
    rw [← canonical_toJson p]
    exact decode_toJson hd p
  refine ⟨fun members left top hleft htop => ?_, fun s => ⟨fun hs => ?_, fun hs => ?_⟩, hwritten,
    fun j p _ => by rw [hwritten p]; rfl⟩
  · rw [decode_members hd hleft htop]
    refine ⟨fun p => ?_, fun hnone => ?_, fun ⟨l, hl⟩ hnone => ?_⟩
    · rw [← coordinate_eq_ok_iff endsUnit_leftUnit, ← coordinate_eq_ok_iff endsUnit_topUnit]
      cases coordinate leftUnit left with
      | error e => exact iff_of_false nofun fun h => nomatch h.1
      | ok l =>
        cases coordinate topUnit top with
        | error e => exact iff_of_false nofun fun h => nomatch h.2
        | ok t =>
          simp only [ok_bind, Except.ok.injEq]
          constructor
          · rintro rfl
            exact ⟨rfl, rfl⟩
          · rintro ⟨rfl, rfl⟩
            rfl
    · obtain ⟨s, rfl, hs⟩ := exists_coordinate_eq_error endsUnit_leftUnit hnone
      refine ⟨s, rfl, ?_⟩
      rw [hs]
      rfl
    · obtain ⟨s, rfl, hs⟩ := exists_coordinate_eq_error endsUnit_topUnit hnone
      refine ⟨s, rfl, ?_⟩
      rw [(coordinate_eq_ok_iff endsUnit_leftUnit).mpr hl, hs]
      rfl
  · rw [decode_text hd, if_pos (isBlank_iff.mpr hs)]
    rfl
  · rw [decode_text hd, if_neg (isBlank_iff.not.mpr hs)]

/-- A text with all that the grammar allows beside a number, a text with the other unit, one that
stands for too much, and texts in place of both coordinates. -/
theorem decode_grammar_samples :
    decode (Json.object [("left", .string "\u3000+0050 vw\n"), ("icon", .null), ("top", .word 7)]) =
      .ok ⟨50, 7⟩ ∧
    decode (Json.object [("left", .string "50px"), ("top", .string "vw")]) =
      .error (.rejected (.notLength "50px" "vw")) ∧
    decode (Json.object [("left", .word 1), ("top", .string "4294967296")]) =
      .error (.rejected (.notLength "4294967296" "px")) ∧
    decode (Json.string "\u3000 ") = .ok ⟨0, 0⟩ ∧
    decode (Json.string "0vw") = .error (.rejected (.notStyle "0vw")) ∧
    (decode (toJson ⟨50, 7⟩)).map toJson = .ok (toJson ⟨50, 7⟩) := by
  obtain ⟨hmembers, htexts, -, hsame⟩ := decode_grammar shows_id
  have hbad : ∀ {unit s : String}, EndsUnit unit → length? unit s = none →
      ∀ w, ¬ (Given.text s).Means unit w := fun hunit hnone w hw => by
    rw [Given.Means, ← length?_eq_some_iff hunit, hnone] at hw
    cases hw
  have hread := ((hmembers [("left", .string "\u3000+0050 vw\n"), ("icon", .null),
      ("top", .word 7)] (.text "\u3000+0050 vw\n") (.number 7) rfl rfl).1 ⟨50, 7⟩).mpr
    ⟨(length?_eq_some_iff endsUnit_leftUnit).mp (by decide), rfl⟩
  refine ⟨hread, ?_, ?_, (htexts _).1 (by decide), (htexts _).2 (by decide), hsame _ _ hread⟩
  · obtain ⟨s, hs, herror⟩ := (hmembers [("left", .string "50px"), ("top", .string "vw")]
      (.text "50px") (.text "vw") rfl rfl).2.1 (hbad endsUnit_leftUnit (by decide))
    cases hs
    exact herror
  · obtain ⟨s, hs, herror⟩ := (hmembers [("left", .word 1), ("top", .string "4294967296")]
      (.number 1) (.text "4294967296") rfl rfl).2.2 ⟨1, rfl⟩
        (hbad endsUnit_topUnit (by decide))
    cases hs
    exact herror

end Position

end PipelineCanvas
