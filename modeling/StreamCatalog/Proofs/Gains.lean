import StreamCatalog.Proofs.Course
import StreamCatalog.Proofs.Segments

namespace StreamCatalog

namespace DataPath

/-- The later events are the earlier ones and one more, at the end of this segment. -/
structure Gains (before later : DataPath) (client : Nat) (incarnation : Incarnation) (segment : Nat)
    (event : Payload) : Prop where
  pushed : (later.events client).read incarnation segment =
    ((before.events client).read incarnation segment).push event
  beside : ∀ place, place ≠ segment →
    ((later.events client).segments incarnation)[place]? =
      ((before.events client).segments incarnation)[place]?
  elsewhere : ∀ other life, ¬ (client = other ∧ incarnation = life) →
    (later.events other).segments life = (before.events other).segments life

namespace Gains

variable {before later : DataPath} {client : Nat} {incarnation : Incarnation} {segment : Nat}
  {event : Payload}

theorem of_append (put : ∀ other, later.events other =
      if client = other then ((before.events other).append incarnation segment event).2
      else before.events other) : before.Gains later client incarnation segment event := by
  have own := put client
  rw [if_pos rfl] at own
  constructor
  · rw [own, EventStore.read_append, if_pos ⟨rfl, rfl⟩]
  · intro place apart
    have different : ¬ compare segment place = .eq :=
      fun same => apart (Std.LawfulEqOrd.eq_of_compare same).symm
    rw [own, EventStore.segments_append, if_pos rfl, Std.ExtTreeMap.getElem?_insert,
      if_neg different]
  · intro other life apart
    rw [put]
    split
    · rename_i same
      rw [EventStore.segments_append, if_neg fun here => apart ⟨same, here⟩]
    · rfl

variable (gains : before.Gains later client incarnation segment event)

include gains

theorem read (other : Nat) (life : Incarnation) (place : Nat) :
    (later.events other).read life place =
      if client = other ∧ incarnation = life ∧ segment = place then
        ((before.events other).read life place).push event
      else (before.events other).read life place := by
  by_cases own : client = other ∧ incarnation = life
  · obtain ⟨rfl, rfl⟩ := own
    by_cases here : segment = place
    · subst here
      rw [if_pos ⟨rfl, rfl, rfl⟩, gains.pushed]
    · rw [if_neg fun same => here same.2.2, EventStore.read_eq, EventStore.read_eq,
        gains.beside place (Ne.symm here)]
  · rw [if_neg fun same => own ⟨same.1, same.2.1⟩, EventStore.read, EventStore.read,
      gains.elsewhere other life own]

theorem compact (other : Nat) (compact : (before.events other).Compact) :
    (later.events other).Compact := by
  intro life place
  by_cases own : client = other ∧ incarnation = life
  · obtain ⟨rfl, rfl⟩ := own
    by_cases here : segment = place
    · subst here
      have filled : (later.events client).read incarnation segment ≠ #[] := by
        rw [gains.pushed]
        exact Array.push_ne_empty
      exact iff_of_true (EventStore.mem_segments_of_read filled) filled
    · have same := gains.beside place (Ne.symm here)
      rw [EventStore.read_eq, Std.ExtTreeMap.mem_iff_isSome_getElem?, same, ← EventStore.read_eq,
        ← Std.ExtTreeMap.mem_iff_isSome_getElem?]
      exact compact incarnation place
  · have same := gains.elsewhere other life own
    rw [EventStore.read, same, ← EventStore.read]
    exact compact life place

end Gains

end DataPath

theorem Writer.Puts.gains {writing : OpenWriter} {path : DataPath} {event : Payload}
    {placed : Position × Writer × EventStore}
    (puts : writing.writer.Puts (path.events writing.client) event placed) (handle : Nat) :
    path.Gains (path.keepWrite handle writing.client placed) writing.client
      writing.writer.incarnation placed.1.segment event := by
  apply DataPath.Gains.of_append
  intro other
  rw [DataPath.events_keepWrite]
  split
  · rename_i here
    rw [puts.events, here]
  · rfl

end StreamCatalog
