import Mathlib.Data.List.Nodup
import Mathlib.Data.List.Range
import PipelineCanvas.Listeners

/-!
# Who is told

Listeners come and go in any order, and the handle of a subscription can be given back many
times. What keeps the subscriptions apart are their numbers: one counter serves all channels,
and the handles that are issued in a run are numbered 1, 2, 3 and so on. So a handle that was
given back is never issued again, whoever subscribes later, and the subscriptions that hold are
those that were issued and not given back since.

* `Listeners.Call`, `Listeners.Call.answer`, `Listeners.Call.after` – what can be asked of the
  listeners, what is answered, and what is left;
* `Listeners.handles` – the handles that calls were answered with, and `Listeners.Honest` –
  calls that give back no other;
* `Listeners.Kept` – the counter, the numbers and the active subscriptions, which every call
  keeps in step (`Listeners.Honest.kept`);
* **`Listeners.delivery`** – who is told, and what it does to give back a handle.
-/

namespace PipelineCanvas

namespace Listeners

/-- What can be asked of the listeners. -/
inductive Call where
  | subscribe (channel : Channel) (name : String)
  | unsubscribe (handle : Subscription)
  /-- There is news on a channel. -/
  | notify (channel : Channel)
deriving DecidableEq

/-- What a call is answered with. -/
inductive Answer where
  | issued (handle : Subscription)
  /-- Whether the subscription held. -/
  | held (value : Bool)
  /-- The listeners that were told, in their order. -/
  | told (names : List String)
deriving DecidableEq

namespace Call

/-- What a call is answered with. -/
def answer (l : Listeners) : Call → Answer
  | .subscribe channel name => .issued (l.subscribe channel name).1
  | .unsubscribe handle => .held (l.holds handle)
  | .notify channel => .told (l.on channel)

/-- The listeners that a call leaves. -/
def after (l : Listeners) : Call → Listeners
  | .subscribe channel name => (l.subscribe channel name).2
  | .unsubscribe handle => l.unsubscribe handle
  | .notify _ => l

/-- The handle that a call is answered with, and the name of the listener that it is for. -/
def issued? (l : Listeners) (c : Call) : Option (Subscription × String) :=
  match c, c.answer l with
  | .subscribe _ name, .issued handle => some (handle, name)
  | _, _ => Option.none

end Call

/-- The listeners behind calls, which begin with none. -/
def run (calls : List Call) : Listeners := calls.foldl Call.after none

/-- The handles that calls are answered with, oldest first, when they begin with listeners. -/
def handlesFrom : Listeners → List Call → List (Subscription × String)
  | _, [] => []
  | l, c :: calls => (c.issued? l).toList ++ handlesFrom (c.after l) calls

/-- The handles that calls are answered with, oldest first, each with the name of its
listener. -/
def handles (calls : List Call) : List (Subscription × String) := handlesFrom none calls

/-- Calls that give back no handle but one that was issued before. -/
inductive Honest : List Call → Prop where
  | nil : Honest []
  | subscribe {calls : List Call} (h : Honest calls) (channel : Channel) (name : String) :
      Honest (calls ++ [.subscribe channel name])
  | unsubscribe {calls : List Call} (h : Honest calls) {handle : Subscription}
      (hissued : handle ∈ (handles calls).map (·.1)) : Honest (calls ++ [.unsubscribe handle])
  | notify {calls : List Call} (h : Honest calls) (channel : Channel) :
      Honest (calls ++ [.notify channel])

/-! ### One call more -/

variable {calls : List Call}

theorem run_concat (calls : List Call) (c : Call) : run (calls ++ [c]) = c.after (run calls) :=
  List.foldl_concat ..

theorem handlesFrom_concat (l : Listeners) (calls : List Call) (c : Call) :
    handlesFrom l (calls ++ [c]) =
      handlesFrom l calls ++ (c.issued? (calls.foldl Call.after l)).toList := by
  induction calls generalizing l with
  | nil => exact List.append_nil _
  | cons d calls ih =>
    rw [List.cons_append, handlesFrom, ih, handlesFrom, List.append_assoc]
    rfl

theorem handles_concat (calls : List Call) (c : Call) :
    handles (calls ++ [c]) = handles calls ++ (c.issued? (run calls)).toList :=
  handlesFrom_concat none calls c

theorem handles_subscribe (calls : List Call) (channel : Channel) (name : String) :
    handles (calls ++ [.subscribe channel name]) =
      handles calls ++ [(⟨channel, (run calls).issued + 1⟩, name)] :=
  handles_concat calls _

theorem handles_unsubscribe (calls : List Call) (handle : Subscription) :
    handles (calls ++ [.unsubscribe handle]) = handles calls :=
  (handles_concat calls _).trans (List.append_nil _)

theorem handles_notify (calls : List Call) (channel : Channel) :
    handles (calls ++ [.notify channel]) = handles calls :=
  (handles_concat calls _).trans (List.append_nil _)

/-- What was given back had been issued at the time, and so until now. -/
theorem Honest.mem_handles (h : Honest calls) {handle : Subscription}
    (hback : .unsubscribe handle ∈ calls) : handle ∈ (handles calls).map (·.1) := by
  induction h with
  | nil => cases hback
  | subscribe _ channel name ih =>
    have hearlier := ih (by simpa using hback)
    rw [handles_subscribe, List.map_append]
    exact List.mem_append_left _ hearlier
  | @unsubscribe calls handle' _ hissued ih =>
    rw [handles_unsubscribe]
    rcases List.mem_append.mp hback with hearlier | hnow
    · exact ih hearlier
    · cases List.mem_singleton.mp hnow
      exact hissued
  | notify _ channel ih =>
    rw [handles_notify]
    exact ih (by simpa using hback)

/-! ### What every call keeps in step -/

/-- The counter counts the handles, the handles are numbered in their order, and active are
those that were not given back. -/
structure Kept (calls : List Call) : Prop where
  issued : (run calls).issued = (handles calls).length
  numbers : (handles calls).map (·.1.number) = List.range' 1 (handles calls).length
  active : (run calls).active = (handles calls).filter fun e => .unsubscribe e.1 ∉ calls

/-- A handle is numbered at most by the count of all. -/
theorem Kept.number_le (h : Kept calls) {handle : Subscription}
    (hissued : handle ∈ (handles calls).map (·.1)) : handle.number ≤ (handles calls).length := by
  obtain ⟨e, he, rfl⟩ := List.mem_map.mp hissued
  have hmem : e.1.number ∈ (handles calls).map (·.1.number) := List.mem_map_of_mem he
  rw [h.numbers, List.mem_range'_1] at hmem
  omega

/-- The next handle is a new one. -/
theorem Kept.subscribe (h : Kept calls) (hhonest : Honest calls) (channel : Channel)
    (name : String) : Kept (calls ++ [.subscribe channel name]) := by
  have hhandles : handles (calls ++ [.subscribe channel name]) =
      handles calls ++ [(⟨channel, (handles calls).length + 1⟩, name)] := by
    rw [handles_subscribe, h.issued]
  -- it cannot have been given back already, since its number is above all others
  have hnew : Call.unsubscribe ⟨channel, (handles calls).length + 1⟩ ∉ calls := by
    intro hback
    have hle := h.number_le (hhonest.mem_handles hback)
    dsimp only at hle
    omega
  refine ⟨?_, ?_, ?_⟩
  · rw [run_concat, hhandles, List.length_append, ← h.issued]
    rfl
  · rw [hhandles, List.map_append, h.numbers, List.length_append, List.length_singleton,
      List.range'_1_concat, Nat.add_comm]
    rfl
  · have hactive : (run (calls ++ [.subscribe channel name])).active =
        (run calls).active ++ [(⟨channel, (run calls).issued + 1⟩, name)] := by
      rw [run_concat]
      rfl
    rw [hactive, h.active, h.issued, hhandles, List.filter_append]
    simp [hnew]

/-- Giving back a handle leaves the others. -/
theorem Kept.unsubscribe (h : Kept calls) (handle : Subscription) :
    Kept (calls ++ [.unsubscribe handle]) := by
  refine ⟨?_, ?_, ?_⟩
  · rw [run_concat, handles_unsubscribe, ← h.issued]
    rfl
  · rw [handles_unsubscribe, h.numbers]
  · have hactive : (run (calls ++ [.unsubscribe handle])).active =
        (run calls).active.filter fun e => e.1 != handle := by
      rw [run_concat]
      rfl
    rw [hactive, h.active, handles_unsubscribe, List.filter_filter]
    refine List.filter_congr fun e _ => ?_
    simp [bne, beq_eq_decide, and_comm]

theorem Kept.notify (h : Kept calls) (channel : Channel) : Kept (calls ++ [.notify channel]) := by
  have hrun : run (calls ++ [.notify channel]) = run calls := run_concat calls _
  refine ⟨?_, ?_, ?_⟩
  · rw [hrun, handles_notify, h.issued]
  · rw [handles_notify, h.numbers]
  · rw [hrun, handles_notify, h.active]
    simp

/-- **Every call keeps them in step.** -/
theorem Honest.kept (h : Honest calls) : Kept calls := by
  induction h with
  | nil => exact ⟨rfl, rfl, rfl⟩
  | subscribe h channel name ih => exact ih.subscribe h channel name
  | unsubscribe h hissued ih => exact ih.unsubscribe _
  | notify h channel ih => exact ih.notify channel

/-! ### Who is told -/

/-- No handle is issued twice: not even the numbers repeat. -/
theorem Kept.nodup (h : Kept calls) : ((handles calls).map (·.1)).Nodup := by
  refine List.Nodup.of_map Subscription.number ?_
  rw [List.map_map]
  exact h.numbers ▸ List.nodup_range'

/-- Those that are told listen to the channel and have not given back their handles. -/
theorem Kept.on_eq (h : Kept calls) (channel : Channel) :
    (run calls).on channel =
      ((handles calls).filter fun e =>
        e.1.channel = channel ∧ .unsubscribe e.1 ∉ calls).map (·.2) := by
  rw [on, h.active, List.filter_filter]
  simp [beq_eq_decide]

variable {e : Subscription × String}

/-- A handle holds until it is given back. -/
theorem Kept.holds_eq (h : Kept calls) (he : e ∈ handles calls) :
    (run calls).holds e.1 = decide (.unsubscribe e.1 ∉ calls) := by
  rw [Bool.eq_iff_iff, decide_eq_true_iff, holds, List.any_eq_true, h.active]
  constructor
  · rintro ⟨f, hf, hfe⟩
    rw [← beq_iff_eq.mp hfe]
    simpa using (List.mem_filter.mp hf).2
  · intro hback
    exact ⟨e, List.mem_filter.mpr ⟨he, by simpa using hback⟩, beq_self_eq_true _⟩

/-- Giving back a handle for the first time takes its listener off and no other. -/
theorem Kept.active_unsubscribe (h : Kept calls) (he : e ∈ handles calls)
    (hfirst : .unsubscribe e.1 ∉ calls) :
    ∃ before behind, (run calls).active = before ++ e :: behind ∧
      ((run calls).unsubscribe e.1).active = before ++ behind := by
  have hactive : e ∈ (run calls).active := by
    rw [h.active]
    exact List.mem_filter.mpr ⟨he, by simpa using hfirst⟩
  obtain ⟨before, behind, heq⟩ := List.append_of_mem hactive
  have hnodup : ((run calls).active.map (·.1)).Nodup := by
    rw [h.active]
    exact h.nodup.sublist (List.filter_sublist.map _)
  -- no other entry has the handle of this one
  have hothers : ∀ f ∈ before ++ behind, (f.1 != e.1) = true := by
    intro f hf
    rw [heq, List.map_append, List.map_cons, List.nodup_middle, List.nodup_cons,
      ← List.map_append] at hnodup
    exact bne_iff_ne.mpr fun hfe => hnodup.1 (hfe ▸ List.mem_map_of_mem hf)
  have hbefore := List.filter_eq_self.mpr fun f hf => hothers f (List.mem_append_left _ hf)
  have hbehind := List.filter_eq_self.mpr fun f hf => hothers f (List.mem_append_right _ hf)
  refine ⟨before, behind, heq, ?_⟩
  simp only [Listeners.unsubscribe, heq, List.filter_append, List.filter_cons, bne_self_eq_false,
    Bool.false_eq_true, if_false, hbefore, hbehind]

/-- Giving back a handle that does not hold does nothing. -/
theorem unsubscribe_of_not_holds {l : Listeners} {s : Subscription} (h : l.holds s = false) :
    l.unsubscribe s = l := by
  have hactive : (l.active.filter fun e => e.1 != s) = l.active := by
    rw [List.filter_eq_self]
    intro e he
    rw [holds, List.any_eq_false] at h
    simpa [bne] using h e he
  rw [Listeners.unsubscribe, hactive]

/-- **Who is told, and what it does to give back a handle,** whatever was asked of the
listeners so far. No two handles are alike on any channels: they are counted from 1. News on a
channel are told to those that listen to it and whose handle was not given back, each once, in
the order in which they subscribed. Giving back a handle for the first time is answered with
yes and takes its own listener off; whoever subscribes later, giving it back again is answered
with no and does nothing. -/
theorem delivery (h : Honest calls) :
    ((handles calls).map (·.1)).Nodup ∧
      (handles calls).map (·.1.number) = List.range' 1 (handles calls).length ∧
      (∀ channel, (Call.notify channel).answer (run calls) =
        .told (((handles calls).filter fun e =>
          e.1.channel = channel ∧ .unsubscribe e.1 ∉ calls).map (·.2))) ∧
      ∀ e ∈ handles calls,
        (Call.unsubscribe e.1).answer (run calls) = .held (.unsubscribe e.1 ∉ calls) ∧
        (.unsubscribe e.1 ∉ calls → ∃ before behind,
          (run calls).active = before ++ e :: behind ∧
            ((Call.unsubscribe e.1).after (run calls)).active = before ++ behind) ∧
        (.unsubscribe e.1 ∈ calls → (Call.unsubscribe e.1).after (run calls) = run calls) := by
  have hkept := h.kept
  refine ⟨hkept.nodup, hkept.numbers, fun channel => congrArg _ (hkept.on_eq channel),
    fun e he => ⟨congrArg _ (hkept.holds_eq he), hkept.active_unsubscribe he, fun hback => ?_⟩⟩
  refine unsubscribe_of_not_holds ?_
  rw [hkept.holds_eq he]
  simpa using hback

/-- Two listen to resets and one to new nodes; the first gives its handle back and subscribes
again, after which its old handle does nothing any more. -/
theorem delivery_subscribed_again :
    let first : Subscription := ⟨.reset, 1⟩
    let calls : List Call :=
      [.subscribe .reset "palette", .subscribe .added "ruler", .subscribe .reset "minimap",
        .unsubscribe first, .notify .added, .subscribe .reset "palette"]
    Honest calls ∧
      (Call.notify .reset).answer (run calls) = .told ["minimap", "palette"] ∧
      (Call.unsubscribe first).answer (run calls) = .held false ∧
      (Call.unsubscribe first).after (run calls) = run calls := by
  intro first calls
  have hhonest : Honest calls :=
    ((((Honest.nil.subscribe _ _).subscribe _ _).subscribe _ _).unsubscribe
      (by decide)).notify _ |>.subscribe _ _
  obtain ⟨-, -, htold, hback⟩ := delivery hhonest
  obtain ⟨hheld, -, hagain⟩ := hback (first, "palette") (by decide)
  exact ⟨hhonest, (htold .reset).trans (by decide), hheld.trans (by decide), hagain (by decide)⟩

end Listeners

end PipelineCanvas
