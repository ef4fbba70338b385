import Mathlib.Data.Set.Function
import PipelineCanvas.Canvas.Position

/-!
# The slots of the cascades

Every role has a cascade of slots, each a step below and beside the one before. Three operations
lead to a coordinate: the index becomes a word, the word is multiplied by the step, and the
beginning of the cascade is added. Each of them stops at the greatest word, and together they stop
just once (`Word.toNat_add_mul_clamp`): what comes out is the exact coordinate or the greatest
word, whichever is less.

Where the exact top of a slot is a word (`Position.Exact`), no other such slot of any role is in the
same place (`Position.forSlot_eq_iff`): the top tells the index, and for one index the left tells
the role. That is as far as it goes, since the next slot of a transform is already in the place of
one of a source (`Position.forSlot_meets`).

* `Position.toNat_left_forSlot`, `Position.toNat_top_forSlot` – the two coordinates;
* `Position.top_forSlot_le_iff` – a cascade goes down;
* **`Position.forSlot_exact`** – all of it, for every role and every index.
-/

namespace PipelineCanvas

/-- **Stopping three times is stopping once.** -/
theorem Word.toNat_add_mul_clamp (start step : UInt32) (n : Nat) :
    (Word.add start (Word.mul (Word.clamp n) step)).toNat =
      min (start.toNat + step.toNat * n) (UInt32.size - 1) := by
  rw [toNat_add, toNat_mul, toNat_clamp]
  have hstart : start.toNat < UInt32.size := start.toNat_lt_size
  rcases Nat.le_total n (UInt32.size - 1) with hn | hn
  · rw [Nat.min_eq_left hn, Nat.mul_comm n]
    omega
  · rw [Nat.min_eq_right hn]
    rcases Nat.eq_zero_or_pos step.toNat with hstep | hstep
    · rw [hstep]
      omega
    · -- both products are at the greatest word already, whatever the step is
      have hcut : UInt32.size - 1 ≤ (UInt32.size - 1) * step.toNat :=
        Nat.le_mul_of_pos_right _ hstep
      have hexact : UInt32.size - 1 ≤ step.toNat * n := hn.trans (Nat.le_mul_of_pos_left _ hstep)
      omega

namespace Position

variable {r r' : Role} {i j : Nat}

/-! ### The coordinates of a slot -/

/-- The left of a slot. -/
theorem toNat_left_forSlot (role : Role) (index : Nat) :
    (forSlot role index).left.toNat =
      min ((initialLeft role).toNat + leftStep.toNat * index) (UInt32.size - 1) :=
  Word.toNat_add_mul_clamp ..

/-- The top of a slot, the same for every role. -/
theorem toNat_top_forSlot (role : Role) (index : Nat) :
    (forSlot role index).top.toNat =
      min (initialTop.toNat + topStep.toNat * index) (UInt32.size - 1) :=
  Word.toNat_add_mul_clamp ..

theorem monotone_left_forSlot (role : Role) :
    Monotone fun index => (forSlot role index).left.toNat := by
  intro i j hij
  simp only [toNat_left_forSlot]
  have := Nat.mul_le_mul_left leftStep.toNat hij
  omega

theorem monotone_top_forSlot (role : Role) :
    Monotone fun index => (forSlot role index).top.toNat := by
  intro i j hij
  simp only [toNat_top_forSlot]
  have := Nat.mul_le_mul_left topStep.toNat hij
  omega

/-! ### Telling slots apart -/

/-- The exact top of the slots at an index is a word. -/
def Exact (index : Nat) : Prop := initialTop.toNat + topStep.toNat * index ≤ UInt32.size - 1

theorem exact_iff : Exact i ↔ i ≤ 61356672 := by
  have htop : initialTop.toNat = 250 := rfl
  have hstep : topStep.toNat = 70 := rfl
  have hsize : UInt32.size = 4294967296 := rfl
  rw [Exact, htop, hstep]
  omega

theorem Exact.mono (h : Exact j) (hij : i ≤ j) : Exact i :=
  (Nat.add_le_add_left (Nat.mul_le_mul_left _ hij) _).trans h

theorem initialLeft_injective : Function.Injective initialLeft := by
  intro r r' h
  revert h
  cases r <;> cases r' <;> decide

/-- The left of a slot is cut off later than its top. -/
theorem exact_left_le_exact_top (role : Role) (index : Nat) :
    (initialLeft role).toNat + leftStep.toNat * index ≤
      initialTop.toNat + topStep.toNat * index := by
  have hstart : (initialLeft role).toNat ≤ initialTop.toNat := by cases role <;> decide
  have hstep : leftStep.toNat ≤ topStep.toNat := by decide
  exact Nat.add_le_add hstart (Nat.mul_le_mul_right index hstep)

/-- **A cascade goes down,** as far as tops are exact. -/
theorem top_forSlot_le_iff (hi : Exact i) (hj : Exact j) :
    (forSlot r i).top ≤ (forSlot r' j).top ↔ i ≤ j := by
  have hstep : 0 < topStep.toNat := by decide
  rw [UInt32.le_iff_toNat_le, toNat_top_forSlot, toNat_top_forSlot, Nat.min_eq_left hi,
    Nat.min_eq_left hj, Nat.add_le_add_iff_left, Nat.mul_le_mul_left_iff hstep]

/-- **Slots in one place are the same slot,** as far as tops are exact. -/
theorem forSlot_eq_iff (hi : Exact i) (hj : Exact j) :
    forSlot r i = forSlot r' j ↔ r = r' ∧ i = j := by
  constructor
  · intro h
    have htop : (forSlot r i).top = (forSlot r' j).top := congrArg top h
    have hindex : i = j := Nat.le_antisymm
      ((top_forSlot_le_iff hi hj).mp (UInt32.le_of_eq htop))
      ((top_forSlot_le_iff hj hi).mp (UInt32.le_of_eq htop.symm))
    subst hindex
    have hleft : (forSlot r i).left.toNat = (forSlot r' i).left.toNat := by rw [h]
    rw [toNat_left_forSlot, toNat_left_forSlot,
      Nat.min_eq_left ((exact_left_le_exact_top r i).trans hi),
      Nat.min_eq_left ((exact_left_le_exact_top r' i).trans hi), Nat.add_right_cancel_iff] at hleft
    exact ⟨initialLeft_injective (UInt32.toNat_inj.mp hleft), rfl⟩
  · rintro ⟨rfl, rfl⟩
    rfl

/-- **Behind that, cascades meet:** where tops are cut off, only the left tells slots apart, and a
cascade that begins some steps further to the left gets to the same places. -/
theorem forSlot_meets {steps : Nat}
    (hleft : (initialLeft r).toNat = (initialLeft r').toNat + leftStep.toNat * steps)
    (hi : ¬Exact i) : forSlot r i = forSlot r' (i + steps) := by
  have hcut : ∀ {index}, ¬Exact index → UInt32.size - 1 ≤ initialTop.toNat + topStep.toNat * index :=
    fun h => Nat.le_of_not_le h
  have hj : ¬Exact (i + steps) := fun h => hi (h.mono (Nat.le_add_right i steps))
  have hlefts : (forSlot r i).left = (forSlot r' (i + steps)).left := by
    rw [← UInt32.toNat_inj, toNat_left_forSlot, toNat_left_forSlot, hleft, Nat.mul_add,
      Nat.add_assoc, Nat.add_comm (leftStep.toNat * steps)]
  have htops : (forSlot r i).top = (forSlot r' (i + steps)).top := by
    rw [← UInt32.toNat_inj, toNat_top_forSlot, toNat_top_forSlot, Nat.min_eq_right (hcut hi),
      Nat.min_eq_right (hcut hj)]
  exact congrArg₂ Position.mk hlefts htops

/-- **The slots of every role, at every index.** Each coordinate is the exact one or the greatest
word, whichever is less; both grow with the index; and slots whose exact top is a word are in
different places, those of different roles as well. -/
theorem forSlot_exact :
    (∀ role index,
      (forSlot role index).left.toNat =
          min ((initialLeft role).toNat + leftStep.toNat * index) (UInt32.size - 1) ∧
        (forSlot role index).top.toNat =
          min (initialTop.toNat + topStep.toNat * index) (UInt32.size - 1)) ∧
      (∀ role, (Monotone fun index => (forSlot role index).left.toNat) ∧
        Monotone fun index => (forSlot role index).top.toNat) ∧
      Set.InjOn (fun slot : Role × Nat => forSlot slot.1 slot.2)
        {slot | 250 + 70 * slot.2 ≤ UInt32.size - 1} := by
  refine ⟨fun role index => ⟨toNat_left_forSlot role index, toNat_top_forSlot role index⟩,
    fun role => ⟨monotone_left_forSlot role, monotone_top_forSlot role⟩, ?_⟩
  rintro ⟨r, i⟩ hi ⟨r', j⟩ hj h
  exact Prod.ext_iff.mpr ((forSlot_eq_iff hi hj).mp h)

/-- The last slot of transforms with an exact top is apart from that of sources beside it. The next
one is in the place of a slot of sources, and slots further on than any word reach the greatest
left. -/
theorem forSlot_exact_edge :
    (forSlot .transform 61356672).top.toNat = 250 + 70 * 61356672 ∧
      forSlot .transform 61356672 ≠ forSlot .source 61356672 ∧
      forSlot .transform 61356673 = forSlot .source 61356683 ∧
      (forSlot .sink (UInt64.size - 1)).left.toNat = UInt32.size - 1 := by
  obtain ⟨hcoordinates, -, hinjective⟩ := forSlot_exact
  have hcut : ¬Exact 61356673 := by
    rw [exact_iff]
    omega
  have hmeets : forSlot .transform 61356673 = forSlot .source (61356673 + 10) :=
    forSlot_meets (by decide) hcut
  refine ⟨?_, fun h => ?_, hmeets, ?_⟩
  · simp [(hcoordinates .transform _).2, initialTop, topStep]
  · have hlast : 250 + 70 * 61356672 ≤ UInt32.size - 1 := exact_iff.mpr le_rfl
    have hslot := @hinjective (Role.transform, 61356672) hlast (Role.source, 61356672) hlast h
    cases hslot
  · simp [(hcoordinates .sink _).1, initialLeft, leftStep]

end Position

end PipelineCanvas
