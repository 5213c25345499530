import Std.Data.ExtTreeMap

namespace StreamCatalog

@[ext]
structure StreamId where
  scope : String
  name : String
  deriving DecidableEq, Repr

inductive Key where
  | scope (name : String)
  | stream (id : StreamId)
  deriving DecidableEq, Repr

def StreamId.display (id : StreamId) : String := id.scope ++ "/" ++ id.name

def Key.display : Key → String
  | .scope name => "scope:" ++ name
  | .stream id => "stream:" ++ id.display

instance : Ord StreamId where
  compare := compareLex (compareOn StreamId.scope) (compareOn StreamId.name)

theorem StreamId.compare_eq (a b : StreamId) :
    compare a b = (compare a.scope b.scope).then (compare a.name b.name) := rfl

instance : Std.TransOrd StreamId :=
  inferInstanceAs (Std.TransCmp (compareLex (compareOn StreamId.scope) (compareOn StreamId.name)))

instance : Std.LawfulEqOrd StreamId where
  eq_of_compare {a b} same := by
    rw [StreamId.compare_eq, Ordering.then_eq_eq] at same
    cases a
    cases b
    simp_all

def StreamId.sort (ids : List StreamId) : List StreamId :=
  ids.mergeSort fun a b => (compare a b).isLE

def Key.compare : Key → Key → Ordering
  | .scope a, .scope b => Ord.compare a b
  | .scope _, .stream _ => .lt
  | .stream _, .scope _ => .gt
  | .stream a, .stream b => Ord.compare a b

instance : Ord Key := ⟨Key.compare⟩

theorem Key.compare_swap : (a b : Key) → compare a b = (compare b a).swap
  | .scope a, .scope b => Std.OrientedOrd.eq_swap (a := a) (b := b)
  | .stream a, .stream b => Std.OrientedOrd.eq_swap (a := a) (b := b)
  | .scope _, .stream _ | .stream _, .scope _ => rfl

theorem Key.compare_trans : (a b c : Key) →
    (compare a b).isLE → (compare b c).isLE → (compare a c).isLE
  | .scope a, .scope b, .scope c => Std.TransOrd.isLE_trans (a := a) (b := b) (c := c)
  | .stream a, .stream b, .stream c => Std.TransOrd.isLE_trans (a := a) (b := b) (c := c)
  | .scope _, _, .stream _ => fun _ _ => rfl
  | .stream _, .scope _, _ => nofun
  | _, .stream _, .scope _ => nofun

theorem Key.compare_same : (a : Key) → compare a a = .eq
  | .scope a => Std.ReflOrd.compare_self (a := a)
  | .stream a => Std.ReflOrd.compare_self (a := a)

theorem Key.eq_of_compare : (a b : Key) → compare a b = .eq → a = b
  | .scope _, .scope _ => fun same => congrArg Key.scope (Std.LawfulEqOrd.eq_of_compare same)
  | .stream _, .stream _ => fun same => congrArg Key.stream (Std.LawfulEqOrd.eq_of_compare same)
  | .scope _, .stream _ | .stream _, .scope _ => nofun

instance : Std.TransOrd Key where
  eq_swap := Key.compare_swap _ _
  isLE_trans := Key.compare_trans _ _ _

instance : Std.LawfulEqOrd Key where
  compare_self := Key.compare_same _
  eq_of_compare := Key.eq_of_compare _ _

end StreamCatalog
