import HydraSeat.Runtime.WindowPolicy

/-!
# The events of the window tracker

Hints wait in a bounded queue, and what comes of them is numbered and kept in
a bounded history.  A consumer that names the last number it has seen is told
of a loss, or gets every event behind it.
-/

namespace HydraSeat.Windowing

open List

inductive WindowChangeHint where
  | rescan | created | destroyed | shown | hidden | titleChanged | locationChanged | overflow
  deriving DecidableEq

structure RawEvent where
  nativeHandle : UInt64 := 0
  hint : WindowChangeHint := .rescan
  deriving DecidableEq

structure WindowTrackerEvent where
  sequence : UInt64 := 0
  hint : WindowChangeHint := .rescan
  nativeHandle : UInt64 := 0
  window : Option TrackedWindow := none
  droppedCallbackEvents : UInt64 := 0

structure WindowTrackerOptions where
  (callbackQueueCapacity eventHistoryCapacity : Nat := 256)

def kDuplicateScanDepth : Nat := 16

structure WindowTracker where
  options : WindowTrackerOptions
  queue : List RawEvent := []
  history : List WindowTrackerEvent := []
  (sequence droppedCallbackEvents : UInt64 := 0)
  overflowDirty : Bool := false

namespace WindowTracker

/-- Each capacity is at least one and at most 4096. -/
def new (requested : WindowTrackerOptions) : WindowTracker where
  options :=
    { callbackQueueCapacity := max 1 (min requested.callbackQueueCapacity 4096)
      eventHistoryCapacity := max 1 (min requested.eventHistoryCapacity 4096) }

variable (tracker : WindowTracker)

def enqueue (nativeHandle : UInt64) (hint : WindowChangeHint) : Bool × WindowTracker :=
  if hint ≠ .rescan ∧ nativeHandle = 0 then (false, tracker)
  else if ⟨nativeHandle, hint⟩ ∈ tracker.queue.reverse.take kDuplicateScanDepth then (true, tracker)
  else if tracker.queue.length ≥ tracker.options.callbackQueueCapacity then
    (false,
      { tracker with
        droppedCallbackEvents := tracker.droppedCallbackEvents + 1, overflowDirty := true })
  else (true, { tracker with queue := tracker.queue ++ [⟨nativeHandle, hint⟩] })

/-- `processQueued` takes the whole queue. -/
def takeQueue : WindowTracker := { tracker with queue := [] }

def nextEvent (hint : WindowChangeHint) (nativeHandle : UInt64) (window : Option TrackedWindow) :
    WindowTrackerEvent where
  sequence := tracker.sequence + 1
  hint
  nativeHandle
  window
  droppedCallbackEvents := tracker.droppedCallbackEvents

def publishEvent (event : WindowTrackerEvent) : WindowTracker :=
  let history := tracker.history ++ [event]
  { tracker with
    sequence := event.sequence
    history := history.drop (history.length - tracker.options.eventHistoryCapacity) }

/-- A tracker after some calls, with the events that were published.  Which
events the worker publishes for a hint depends on the windows. -/
inductive Run (requested : WindowTrackerOptions) : List WindowTrackerEvent → WindowTracker → Prop
  | new : Run requested [] (new requested)
  | enqueued {published : List WindowTrackerEvent} {tracker : WindowTracker}
      (nativeHandle : UInt64) (hint : WindowChangeHint) (run : Run requested published tracker) :
      Run requested published (tracker.enqueue nativeHandle hint).2
  | taken {published : List WindowTrackerEvent} {tracker : WindowTracker}
      (run : Run requested published tracker) : Run requested published tracker.takeQueue
  | overflowed {published : List WindowTrackerEvent} {tracker : WindowTracker}
      (dirty : tracker.overflowDirty = true) (run : Run requested published tracker) :
      Run requested (published ++ [tracker.nextEvent .overflow 0 none])
        ({ tracker with overflowDirty := false }.publishEvent (tracker.nextEvent .overflow 0 none))
  | published {published : List WindowTrackerEvent} {tracker : WindowTracker}
      (hint : WindowChangeHint) (nativeHandle : UInt64) (window : Option TrackedWindow)
      (run : Run requested published tracker) :
      Run requested (published ++ [tracker.nextEvent hint nativeHandle window])
        (tracker.publishEvent (tracker.nextEvent hint nativeHandle window))

/-- The events are numbered in order, and the newest of them are retained. -/
structure Logged (published : List WindowTrackerEvent) (tracker : WindowTracker) : Prop where
  positive : 0 < tracker.options.eventHistoryCapacity
  numbered :
    ∀ index event, published[index]? = some event → event.sequence.toNat = (index + 1) % 2 ^ 64
  newest : tracker.sequence.toNat = published.length % 2 ^ 64
  retained :
    tracker.history = published.drop (published.length - tracker.options.eventHistoryCapacity)

variable {requested : WindowTrackerOptions} {published : List WindowTrackerEvent}
  {tracker : WindowTracker}

theorem Logged.publishEvent (logged : Logged published tracker) {event : WindowTrackerEvent}
    (next : event.sequence = tracker.sequence + 1) :
    Logged (published ++ [event]) (tracker.publishEvent event) := by
  obtain ⟨positive, numbered, newest, retained⟩ := logged
  have number : event.sequence.toNat = (published.length + 1) % 2 ^ 64 := by
    rw [next, UInt64.toNat_add, newest]
    exact Nat.mod_add_mod _ _ _
  refine ⟨positive, ?_, ?_, ?_⟩
  · intro index found isFound
    rw [getElem?_append] at isFound
    split at isFound
    · exact numbered index found isFound
    next behind =>
      rw [getElem?_singleton] at isFound
      split at isFound
      next last =>
        cases isFound
        rw [number, show index = published.length by omega]
      · cases isFound
  · rw [length_append]
    exact number
  · change drop (_ - tracker.options.eventHistoryCapacity) (tracker.history ++ [event]) =
      drop (_ - tracker.options.eventHistoryCapacity) _
    rw [retained, ← drop_append_of_le_length (Nat.sub_le _ _), drop_drop]
    congr 1
    simp only [length_drop, length_append, length_singleton]
    omega

theorem Run.logged (run : Run requested published tracker) : Logged published tracker := by
  induction run with
  | new => exact ⟨Nat.lt_of_lt_of_le Nat.one_pos (Nat.le_max_left 1 _), nofun, rfl, drop_nil.symm⟩
  | enqueued nativeHandle hint _ ih =>
    obtain ⟨positive, numbered, newest, retained⟩ := ih
    unfold enqueue
    split_ifs <;> exact ⟨positive, numbered, newest, retained⟩
  | taken _ ih => exact ⟨ih.positive, ih.numbered, ih.newest, ih.retained⟩
  | overflowed _ _ ih =>
    obtain ⟨positive, numbered, newest, retained⟩ :=
      ih.publishEvent (rfl : (nextEvent _ .overflow 0 none).sequence = _)
    exact ⟨positive, numbered, newest, retained⟩
  | published _ _ _ _ ih => exact ih.publishEvent rfl

/-- The hint waits, or an overflow is marked. -/
def Kept (tracker : WindowTracker) (nativeHandle : UInt64) (hint : WindowChangeHint) : Prop :=
  let enqueued := tracker.enqueue nativeHandle hint
  (enqueued.1 = true ∧ ⟨nativeHandle, hint⟩ ∈ enqueued.2.queue) ∨
    (enqueued.1 = false ∧ enqueued.2.overflowDirty = true)

end WindowTracker

end HydraSeat.Windowing
