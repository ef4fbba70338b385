/-!
# Listeners

Parts of the editor listen to what happens in a session, on three channels: a node
was added, the session was reset, a pipeline was found invalid. A listener is told
in the order of subscription and until its subscription ends.

Every subscription has a number of its own, and numbers are never given twice, so a
subscription that ended cannot end another one. Numbers are natural ones: a counter of
64 bits gives the same as long as there were fewer than `2 ^ 64` subscriptions.

* `Listeners` – the subscriptions that hold, oldest first;
* `Listeners.subscribe`, `Listeners.unsubscribe` – beginning and end of one;
* `Listeners.on` – the listeners to tell.
-/

namespace PipelineCanvas

/-- What a listener listens to. -/
inductive Channel where
  | added
  | reset
  | invalid
deriving DecidableEq, Repr

/-- A listener's place on a channel. -/
structure Subscription where
  channel : Channel
  /-- Which subscription of the session it is, counted from 1 over all channels. Below
  `2 ^ 64` it is what a counter of 64 bits says as well. -/
  number : Nat
deriving DecidableEq, Repr

/-- The listeners of a session. -/
structure Listeners where
  /-- How many subscriptions there ever were. As long as these are fewer than `2 ^ 64`, a
  counter of 64 bits agrees. -/
  issued : Nat
  /-- The subscriptions that hold, with the names of the listeners, oldest first. -/
  active : List (Subscription × String)
deriving DecidableEq, Repr

namespace Listeners

/-- No listener. -/
def none : Listeners := ⟨0, []⟩

instance : Inhabited Listeners := ⟨none⟩

/-- Begins a subscription. -/
def subscribe (l : Listeners) (channel : Channel) (name : String) : Subscription × Listeners :=
  let s : Subscription := ⟨channel, l.issued + 1⟩
  (s, ⟨l.issued + 1, l.active ++ [(s, name)]⟩)

/-- Whether a subscription holds. -/
def holds (l : Listeners) (s : Subscription) : Bool := l.active.any fun e => e.1 == s

/-- Ends a subscription. -/
def unsubscribe (l : Listeners) (s : Subscription) : Listeners :=
  { l with active := l.active.filter fun e => e.1 != s }

/-- The listeners on a channel, in the order in which they are told. -/
def on (l : Listeners) (channel : Channel) : List String :=
  (l.active.filter fun e => e.1.channel == channel).map (·.2)

@[simp] theorem holds_unsubscribe_self (l : Listeners) (s : Subscription) :
    (l.unsubscribe s).holds s = false := by
  simp [holds, unsubscribe]

end Listeners

end PipelineCanvas
