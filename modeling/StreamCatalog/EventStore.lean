import Std.Data.ExtTreeMap
import StreamCatalog.Key

namespace StreamCatalog

abbrev Payload := List UInt8

def Payload.ofText (text : String) : Payload := text.toUTF8.data.toList

/-- One life of a stream's name, from its creation to its deletion. -/
structure Incarnation where
  stream : StreamId
  generation : Nat
  deriving DecidableEq, Repr

instance : Ord Incarnation where
  compare := compareLex (compareOn Incarnation.stream) (compareOn Incarnation.generation)

theorem Incarnation.compare_eq (a b : Incarnation) :
    compare a b = (compare a.stream b.stream).then (compare a.generation b.generation) := rfl

instance : Std.TransOrd Incarnation :=
  inferInstanceAs
    (Std.TransCmp (compareLex (compareOn Incarnation.stream) (compareOn Incarnation.generation)))

instance : Std.LawfulEqOrd Incarnation where
  eq_of_compare {a b} same := by
    rw [Incarnation.compare_eq, Ordering.then_eq_eq] at same
    cases a
    cases b
    simp_all

structure EventStore where
  incarnations : Std.ExtTreeMap Incarnation (Std.ExtTreeMap Nat (Array Payload))

namespace EventStore

def empty : EventStore := ⟨∅⟩

def segments (store : EventStore) (incarnation : Incarnation) :
    Std.ExtTreeMap Nat (Array Payload) :=
  store.incarnations.getD incarnation ∅

def read (store : EventStore) (incarnation : Incarnation) (segment : Nat) : Array Payload :=
  (store.segments incarnation).getD segment #[]

def append (store : EventStore) (incarnation : Incarnation) (segment : Nat) (event : Payload) :
    Nat × EventStore :=
  let events := store.read incarnation segment
  (events.size,
    ⟨store.incarnations.insert incarnation
      ((store.segments incarnation).insert segment (events.push event))⟩)

@[simp]
theorem read_empty (incarnation : Incarnation) (segment : Nat) :
    empty.read incarnation segment = #[] := by
  simp [empty, read, segments]

/-- An event goes to the end of its own segment, and no other segment is touched. -/
theorem read_append (store : EventStore) (incarnation other : Incarnation) (segment place : Nat)
    (event : Payload) :
    (store.append incarnation segment event).2.read other place =
      if incarnation = other ∧ segment = place then (store.read other place).push event
      else store.read other place := by
  by_cases same : incarnation = other
  · subst same
    by_cases here : segment = place
    · subst here
      simp [append, read, segments]
    · simp [append, read, segments, here, Std.ExtTreeMap.getD_insert]
  · simp [append, read, segments, same, Std.ExtTreeMap.getD_insert]

def count (store : EventStore) (incarnation : Incarnation) : Nat :=
  (store.segments incarnation).toList.foldr (fun (_, events) total => events.size + total) 0

def usedSegments (store : EventStore) (incarnation : Incarnation) : List Nat :=
  (store.segments incarnation).keys

end EventStore

end StreamCatalog
