import StreamCatalog.Record

namespace StreamCatalog

inductive Rejection where
  | scopeNotFound
  | scopeNotEmpty
  | streamNotActive
  | streamNotSealed
  deriving DecidableEq, Repr

inductive Transition (σ : Type) where
  | apply (next : σ)
  | noOp
  | reject (reason : Rejection)
  deriving DecidableEq, Repr

inductive ScopeVerb where
  | create
  | delete
  deriving DecidableEq, Repr

inductive StreamVerb where
  | create
  | update
  | seal
  | delete
  deriving DecidableEq, Repr

def ScopeVerb.transition (verb : ScopeVerb) (current : Option ScopeState) (hasMembers : Bool) :
    Transition ScopeState :=
  match verb, current with
  | .create, some .active => .noOp
  | .create, none | .create, some .deleted => .apply .active
  | .delete, some .active => if hasMembers then .reject .scopeNotEmpty else .apply .deleted
  | .delete, none | .delete, some .deleted => .noOp

/-- Creating and deleting may be repeated once their end holds; updating and sealing may not. -/
def StreamVerb.transition (verb : StreamVerb) (current : Option StreamState) (nameReuse : Bool) :
    Transition StreamState :=
  match verb, current with
  | .create, none => .apply .active
  | .create, some .deleted => if nameReuse then .apply .active else .noOp
  | .create, some .active | .create, some .sealed => .noOp
  | .update, some .active => .apply .active
  | .update, _ => .reject .streamNotActive
  | .seal, some .active => .apply .sealed
  | .seal, _ => .reject .streamNotActive
  | .delete, some .sealed => .apply .deleted
  | .delete, some .active => .reject .streamNotSealed
  | .delete, none | .delete, some .deleted => .noOp

end StreamCatalog
