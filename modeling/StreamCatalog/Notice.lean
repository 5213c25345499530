import StreamCatalog.Error

namespace StreamCatalog

inductive Level where
  | error
  | warn
  | info
  | debug
  | trace
  deriving DecidableEq, Repr

inductive Notice where
  | scopeCreated (scope : String)
  | scopeAlreadyExists (scope : String)
  | scopeDeleted (scope : String)
  | scopeAlreadyAbsent (scope : String)
  | scopeDeletionRejected (scope : String) (streams : Nat)
  | scopeRollBackFailed (scope : String) (error : StoreFailure)
  | streamWithoutScope (stream : StreamId)
  | streamCreated (stream : StreamId) (generation segments : Nat)
  | streamAlreadyExists (stream : StreamId) (state : Option StreamState)
  | streamUpdated (stream : StreamId) (epoch segments : Nat)
  | streamUpdateRejected (stream : StreamId) (state : Option StreamState)
  | streamSealed (stream : StreamId) (epoch : Nat)
  | streamSealRejected (stream : StreamId) (state : Option StreamState)
  | streamDeleted (stream : StreamId)
  | streamAlreadyAbsent (stream : StreamId)
  | streamDeletionRejected (stream : StreamId) (state : Option StreamState)
  | streamRollBackFailed (stream : StreamId) (error : StoreFailure)
  | writeRefused (key : Key) (expected actual : Option Nat)
  | locksPruned (removed : Nat)
  | writerOpened (stream : StreamId) (generation epoch segments : Nat)
  | writerOutlived (stream : StreamId) (generation current : Nat)
  | writerRefreshed (stream : StreamId) (oldEpoch newEpoch segments : Nat)
  | eventWritten (stream : StreamId) (segment offset : Nat)
  deriving DecidableEq, Repr

def Notice.level : Notice → Level
  | .scopeRollBackFailed .. | .streamRollBackFailed .. => .error
  | .scopeDeletionRejected .. | .streamWithoutScope .. | .streamUpdateRejected ..
  | .streamSealRejected .. | .streamDeletionRejected .. | .writerOutlived .. => .warn
  | .scopeCreated .. | .scopeDeleted .. | .streamCreated .. | .streamUpdated ..
  | .streamSealed .. | .streamDeleted .. => .info
  | .scopeAlreadyExists .. | .scopeAlreadyAbsent .. | .streamAlreadyExists ..
  | .streamAlreadyAbsent .. | .writeRefused .. | .writerOpened .. | .writerRefreshed .. => .debug
  | .locksPruned .. | .eventWritten .. => .trace

def Notice.message : Notice → String
  | .scopeCreated .. => "Scope created"
  | .scopeAlreadyExists .. => "Scope already exists"
  | .scopeDeleted .. => "Scope deleted"
  | .scopeAlreadyAbsent .. => "Scope already absent"
  | .scopeDeletionRejected .. => "Scope deletion rejected"
  | .scopeRollBackFailed .. => "Failed to restore scope membership"
  | .streamWithoutScope .. => "Stream creation rejected, scope not found"
  | .streamCreated .. => "Stream created"
  | .streamAlreadyExists .. => "Stream already exists"
  | .streamUpdated .. => "Stream configuration updated"
  | .streamUpdateRejected .. => "Stream update rejected"
  | .streamSealed .. => "Stream sealed"
  | .streamSealRejected .. => "Stream seal rejected"
  | .streamDeleted .. => "Stream deleted"
  | .streamAlreadyAbsent .. => "Stream already absent"
  | .streamDeletionRejected .. => "Stream deletion rejected"
  | .streamRollBackFailed .. => "Failed to restore stream"
  | .writeRefused .. => "Compare-and-set rejected"
  | .locksPruned .. => "Pruned idle locks"
  | .writerOpened .. => "Writer opened"
  | .writerOutlived .. => "Write rejected, stream was recreated"
  | .writerRefreshed .. => "Writer picked up new configuration"
  | .eventWritten .. => "Event written"

def Notice.details : Notice → List (String × String)
  | .scopeCreated scope | .scopeAlreadyExists scope | .scopeDeleted scope
  | .scopeAlreadyAbsent scope => [("scope", scope)]
  | .scopeDeletionRejected scope streams => [("scope", scope), ("streams", toString streams)]
  | .scopeRollBackFailed scope error => [("scope", scope), ("error", error.message)]
  | .streamWithoutScope stream | .streamDeleted stream | .streamAlreadyAbsent stream =>
    [("stream", stream.display)]
  | .streamCreated stream generation segments =>
    [("stream", stream.display), ("generation", toString generation),
      ("segments", toString segments)]
  | .streamUpdated stream epoch segments =>
    [("stream", stream.display), ("epoch", toString epoch), ("segments", toString segments)]
  | .streamSealed stream epoch => [("stream", stream.display), ("epoch", toString epoch)]
  | .streamAlreadyExists stream state | .streamUpdateRejected stream state
  | .streamSealRejected stream state | .streamDeletionRejected stream state =>
    [("stream", stream.display), ("state", displayOption StreamState.display state)]
  | .streamRollBackFailed stream error => [("stream", stream.display), ("error", error.message)]
  | .writeRefused key expected actual =>
    [("key", key.display), ("expected", displayOption toString expected),
      ("actual", displayOption toString actual)]
  | .locksPruned removed => [("removed", toString removed)]
  | .writerOpened stream generation epoch segments =>
    [("stream", stream.display), ("generation", toString generation), ("epoch", toString epoch),
      ("segments", toString segments)]
  | .writerOutlived stream generation current =>
    [("stream", stream.display), ("generation", toString generation),
      ("current", toString current)]
  | .writerRefreshed stream oldEpoch newEpoch segments =>
    [("stream", stream.display), ("old_epoch", toString oldEpoch),
      ("new_epoch", toString newEpoch), ("segments", toString segments)]
  | .eventWritten stream segment offset =>
    [("stream", stream.display), ("segment", toString segment), ("offset", toString offset)]

end StreamCatalog
