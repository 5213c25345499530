import Mathlib.Algebra.BigOperators.Group.List.Lemmas
import Mathlib.Algebra.Ring.Nat
import StreamCatalog.EventStore

namespace StreamCatalog.EventStore

@[simp]
theorem segments_empty (incarnation : Incarnation) : empty.segments incarnation = ∅ := by
  simp [empty, segments]

theorem segments_append (store : EventStore) (incarnation other : Incarnation) (segment : Nat)
    (event : Payload) :
    (store.append incarnation segment event).2.segments other =
      if incarnation = other then
        (store.segments other).insert segment ((store.read other segment).push event)
      else store.segments other := by
  by_cases same : incarnation = other
  · subst same
    simp [append, segments]
  · simp [append, segments, same, Std.ExtTreeMap.getD_insert]

theorem read_eq (store : EventStore) (incarnation : Incarnation) (segment : Nat) :
    store.read incarnation segment = ((store.segments incarnation)[segment]?).getD #[] :=
  Std.ExtTreeMap.getD_eq_getD_getElem?

theorem mem_segments_of_read {store : EventStore} {incarnation : Incarnation} {segment : Nat}
    (filled : store.read incarnation segment ≠ #[]) : segment ∈ store.segments incarnation := by
  by_contra unused
  exact filled (Std.ExtTreeMap.getD_eq_fallback unused)

/-- Whether no segment is kept that holds no events. -/
def Compact (store : EventStore) : Prop :=
  ∀ incarnation segment,
    segment ∈ store.segments incarnation ↔ store.read incarnation segment ≠ #[]

theorem Compact.empty : Compact .empty := by simp [Compact]

section Views

variable (store : EventStore) (incarnation : Incarnation)

theorem usedSegments_increasing : (store.usedSegments incarnation).Pairwise (· < ·) := by
  have ordered := Std.ExtTreeMap.ordered_keys (t := store.segments incarnation)
  exact ordered.imp fun below => Nat.compare_eq_lt.mp below

theorem mem_usedSegments {store : EventStore} (compact : store.Compact) (segment : Nat) :
    segment ∈ store.usedSegments incarnation ↔ store.read incarnation segment ≠ #[] := by
  rw [usedSegments, Std.ExtTreeMap.mem_keys, compact]

theorem count_eq_sum : store.count incarnation =
    ((store.usedSegments incarnation).map fun segment =>
      (store.read incarnation segment).size).sum := by
  have folded (listed : List (Nat × Array Payload)) :
      listed.foldr (fun held total => held.2.size + total) 0 =
        (listed.map fun held => held.2.size).sum := by
    induction listed with
    | nil => rfl
    | cons held rest ih => simp [ih]
  have sizes : ∀ held ∈ (store.segments incarnation).toList,
      held.2.size = (store.read incarnation held.1).size := by
    intro held member
    have found := Std.ExtTreeMap.mem_toList_iff_getElem?_eq_some.mp member
    rw [read_eq, found]
    rfl
  calc store.count incarnation
      = ((store.segments incarnation).toList.map fun held => held.2.size).sum := folded _
    _ = ((store.segments incarnation).toList.map fun held =>
          (store.read incarnation held.1).size).sum := by rw [List.map_congr_left sizes]
    _ = ((store.usedSegments incarnation).map fun segment =>
          (store.read incarnation segment).size).sum := by
        rw [usedSegments, ← Std.ExtTreeMap.map_fst_toList_eq_keys, List.map_map]
        rfl

theorem usedSegments_of_silent {store : EventStore} (compact : store.Compact)
    (silent : ∀ segment, store.read incarnation segment = #[]) :
    store.usedSegments incarnation = [] := by
  apply List.eq_nil_iff_forall_not_mem.mpr
  intro segment used
  exact (mem_usedSegments incarnation compact segment).mp used (silent segment)

theorem usedSegments_of_single {store : EventStore} (compact : store.Compact) {segment : Nat}
    (filled : store.read incarnation segment ≠ #[])
    (silent : ∀ other, other ≠ segment → store.read incarnation other = #[]) :
    store.usedSegments incarnation = [segment] := by
  have used (other : Nat) : other ∈ store.usedSegments incarnation ↔ other ∈ [segment] := by
    rw [mem_usedSegments incarnation compact, List.mem_singleton]
    constructor
    · intro found
      exact Decidable.byContradiction fun apart => found (silent other apart)
    · rintro rfl
      exact filled
  have distinct : (store.usedSegments incarnation).Nodup :=
    (store.usedSegments_increasing incarnation).imp Nat.ne_of_lt
  exact List.perm_singleton.mp
    ((List.perm_ext_iff_of_nodup distinct (List.nodup_singleton segment)).mpr used)

theorem count_eq_length {store : EventStore} (compact : store.Compact) (places : List Nat)
    (sizes : ∀ segment, (store.read incarnation segment).size = places.count segment) :
    store.count incarnation = places.length := by
  have used (segment : Nat) : segment ∈ store.usedSegments incarnation ↔ segment ∈ places := by
    rw [mem_usedSegments incarnation compact, ne_eq, ← Array.size_eq_zero_iff, sizes,
      ← List.one_le_count_iff]
    omega
  have distinct : (store.usedSegments incarnation).Nodup :=
    (store.usedSegments_increasing incarnation).imp Nat.ne_of_lt
  have listed : (store.usedSegments incarnation).Perm places.dedup := by
    rw [List.perm_ext_iff_of_nodup distinct places.nodup_dedup]
    intro segment
    rw [used, List.mem_dedup]
  calc store.count incarnation
      = ((store.usedSegments incarnation).map fun segment => places.count segment).sum := by
        rw [count_eq_sum]
        simp only [sizes]
    _ = (places.dedup.map fun segment => places.count segment).sum := (listed.map _).sum_eq
    _ = places.length := places.sum_map_count_dedup_eq_length

end Views

end StreamCatalog.EventStore
