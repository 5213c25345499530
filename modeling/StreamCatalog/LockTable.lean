import Std.Data.ExtTreeSet
import StreamCatalog.Lifecycle

namespace StreamCatalog

/-- Nobody holds a lock between two operations, so all that are found then are idle. -/
structure LockTable where
  scopes : Std.ExtTreeSet String := ∅
  streams : Std.ExtTreeSet StreamId := ∅

namespace LockTable

def enter (table : LockTable) (operation : Operation) : LockTable where
  scopes := table.scopes.insert operation.scope
  streams := match operation.stream? with
    | some stream => table.streams.insert stream
    | none => table.streams

def removalNotices (size : Nat) : List Notice := if size = 0 then [] else [.locksPruned size]

def pruneNotices (table : LockTable) : List Notice :=
  removalNotices table.streams.size ++ removalNotices table.scopes.size

end LockTable

structure Controller where
  settings : Settings := {}
  locks : LockTable := {}

namespace Controller

def enter (controller : Controller) (operation : Operation) : Controller :=
  match operation.check controller.settings with
  | .ok _ => { controller with locks := controller.locks.enter operation }
  | .error _ => controller

def leave (controller : Controller) (operation : Operation) (result : Except Error Bool) :
    List Notice × Controller :=
  match operation.isDeletion, result with
  | true, .ok true => (controller.locks.pruneNotices, { controller with locks := {} })
  | _, _ => ([], controller)

end Controller

end StreamCatalog
