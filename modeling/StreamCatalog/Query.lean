import StreamCatalog.Lookup

namespace StreamCatalog

inductive Query where
  | scopeExists (scope : String)
  | scopeIsEmpty (scope : String)
  | scopes
  | streams (scope : String)
  | streamExists (stream : StreamId)
  | streamInfo (stream : StreamId)
  | streamIsActive (stream : StreamId)
  deriving DecidableEq, Repr

inductive Answer where
  | flag (value : Bool)
  | names (names : List String)
  | info (info : Option StreamInfo)
  deriving DecidableEq, Repr

namespace Query

def listStreams (scope : String) : Action (List String) := do
  let current ← Lookup.scopeRecord scope
  let some parent := current.filter (·.value.state = .active) | throw (.scopeNotFound scope)
  return parent.value.members.toList

def plan : Query → Action Answer
  | scopeExists scope => do return .flag (← Lookup.scopeExists scope)
  | scopeIsEmpty scope => do return .flag (← Lookup.scopeIsEmpty scope)
  | scopes => do return .names (← Lookup.scopes)
  | streams scope => do return .names (← listStreams scope)
  | streamExists stream => do return .flag (← Lookup.streamExists stream)
  | streamInfo stream => do return .info (← Lookup.streamInfo stream)
  | streamIsActive stream => do return .flag (← Lookup.streamIsActive stream)

end Query

end StreamCatalog
