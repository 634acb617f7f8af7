import H9d.Core.LabeledMachine
import H9d.Core.OrderedMap
import H9d.Model.H9FrameComparator

/-! # Observers of frames

The bus is the subject: an observer is attached with a comparator, and is called for the frames that
the comparator accepts. The observers are kept in a map from comparators to lists.
-/

namespace H9d

open Machine Cxx

variable {FrameObserver : Type}

structure FrameSubject (FrameObserver : Type) where
  frameObservers : OrderedMap H9FrameComparator (List FrameObserver)

namespace FrameSubject

/-- A call of an observer. -/
inductive Callback (FrameObserver : Type)
  | onFrameRecv (observer : FrameObserver) (frame : H9Frame)
  | onFrameSend (observer : FrameObserver) (frame : H9Frame)
  deriving DecidableEq

def new : FrameSubject FrameObserver := ⟨[]⟩

variable (s : FrameSubject FrameObserver)

/-- Undefined where `operator<` is no order on the keys. -/
def attachFrameObserver (observer : FrameObserver) (comparator : H9FrameComparator) :
    Option (FrameSubject FrameObserver) :=
  if StrictWeakOn H9FrameComparator.lt (comparator :: s.frameObservers.keys) then
    some ⟨s.frameObservers.access H9FrameComparator.lt comparator [] (· ++ [observer])⟩
  else none

def detachFrameObserver [DecidableEq FrameObserver] (observer : FrameObserver) : FrameSubject FrameObserver :=
  ⟨(s.frameObservers.map fun it => (it.1, it.2.filter (· ≠ observer))).filter fun it => it.2 ≠ []⟩

/-- The observers that a frame is for, one entry after the other. -/
def notified (frame : H9Frame) (frameObservers : OrderedMap H9FrameComparator (List FrameObserver)) :
    List FrameObserver :=
  (frameObservers.filter fun o => o.1.eqFrame frame).flatMap Prod.snd

def notifyFrameRecvObserver (frame : H9Frame) : List (Callback FrameObserver) :=
  (notified frame s.frameObservers).map (.onFrameRecv · frame)

def notifyFrameSendObserver (frame : H9Frame) : List (Callback FrameObserver) :=
  (notified frame s.frameObservers).map (.onFrameSend · frame)

inductive Event (FrameObserver : Type)
  | attach (observer : FrameObserver) (comparator : H9FrameComparator)
  | detach (observer : FrameObserver)

def step? [DecidableEq FrameObserver] (s : FrameSubject FrameObserver) : Event FrameObserver → Option (FrameSubject FrameObserver)
  | .attach observer comparator => s.attachFrameObserver observer comparator
  | .detach observer => some (s.detachFrameObserver observer)

def machine [DecidableEq FrameObserver] : LabeledMachine (FrameSubject FrameObserver) (Event FrameObserver) where
  Initial s := s = new
  step? := step?

section Notified

variable (frame : H9Frame) (entries more : OrderedMap H9FrameComparator (List FrameObserver))

theorem notified_append :
    notified frame (entries ++ more) = notified frame entries ++ notified frame more := by
  rw [notified, List.filter_append, List.flatMap_append]
  rfl

theorem notified_cons (c : H9FrameComparator) (observers : List FrameObserver) :
    notified frame ((c, observers) :: entries) =
      (if c.eqFrame frame then observers else []) ++ notified frame entries := by
  rw [notified, List.filter_cons]
  dsimp only
  split
  · rfl
  · rfl

/-- An entry without observers is as good as none. -/
theorem notified_detached [DecidableEq FrameObserver] (observer : FrameObserver) :
    notified frame (detachFrameObserver ⟨entries⟩ observer).frameObservers =
      (notified frame entries).filter (· ≠ observer) := by
  induction entries with
  | nil => rfl
  | cons entry entries ih =>
    obtain ⟨c, observers⟩ := entry
    rw [detachFrameObserver] at ih ⊢
    dsimp only at ih ⊢
    rw [notified_cons, List.filter_append, ← ih, List.map_cons, List.filter_cons]
    dsimp only
    by_cases empty : observers.filter (· ≠ observer) = []
    · rw [if_neg (by simpa using empty)]
      split
      · rw [empty]
        rfl
      · rfl
    · rw [if_pos (by simpa using empty), notified_cons]
      split
      · rfl
      · rfl

end Notified

end FrameSubject

end H9d
