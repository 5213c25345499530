import StreamCatalog.Name
import StreamCatalog.Record
import StreamCatalog.Text.Quoted
import StreamCatalog.Transition

namespace StreamCatalog

def displayOption (display : α → String) : Option α → String
  | none => "None"
  | some value => "Some(" ++ display value ++ ")"

inductive StoreFailure where
  | versionMismatch (key : Key) (expected actual : Option Nat)
  | unexpectedRecord (key : Key)
  | unavailable (text : String)
  deriving DecidableEq, Repr

def StoreFailure.message : StoreFailure → String
  | .versionMismatch key expected actual =>
    "Version mismatch on " ++ key.display ++ ": expected " ++ displayOption toString expected ++
      ", found " ++ displayOption toString actual
  | .unexpectedRecord key => "Unexpected record kind under " ++ key.display
  | .unavailable text => "Metadata store unavailable: " ++ text

inductive Error where
  | scopeNotFound (scope : String)
  | scopeNotEmpty (scope : String) (streams : Nat)
  | streamNotActive (stream : StreamId)
  | streamNotSealed (stream : StreamId)
  | invalidName (name : String) (fault : NameFault)
  | invalidConfig (fault : ConfigFault)
  | store (error : StoreFailure)
  deriving DecidableEq, Repr

def Error.message : Error → String
  | .scopeNotFound scope => "Scope not found: " ++ scope
  | .scopeNotEmpty scope streams =>
    "Scope not empty: " ++ scope ++ " (" ++ toString streams ++ " live streams)"
  | .streamNotActive stream => "Stream not active: " ++ stream.display
  | .streamNotSealed stream => "Stream not sealed: " ++ stream.display
  | .invalidName name fault => "Invalid name " ++ Text.quoted name ++ ": " ++ fault.message
  | .invalidConfig fault => "Invalid stream configuration: " ++ fault.message
  | .store error => error.message

def Error.rejection? : Error → Option Rejection
  | .scopeNotFound _ => some .scopeNotFound
  | .scopeNotEmpty _ _ => some .scopeNotEmpty
  | .streamNotActive _ => some .streamNotActive
  | .streamNotSealed _ => some .streamNotSealed
  | .invalidName _ _ | .invalidConfig _ | .store _ => none

def Rejection.onScope (scope : String) (streams : Nat) : Rejection → Error
  | .scopeNotEmpty => .scopeNotEmpty scope streams
  | _ => .scopeNotFound scope

def Rejection.onStream (stream : StreamId) : Rejection → Error
  | .scopeNotFound => .scopeNotFound stream.scope
  | .scopeNotEmpty => .scopeNotEmpty stream.scope 0
  | .streamNotActive => .streamNotActive stream
  | .streamNotSealed => .streamNotSealed stream

inductive WriteError where
  | streamNotActive (stream : StreamId)
  | streamSealed (stream : StreamId)
  | streamRecreated (stream : StreamId)
  | control (error : Error)
  deriving DecidableEq, Repr

def WriteError.message : WriteError → String
  | .streamNotActive stream => "Stream not active: " ++ stream.display
  | .streamSealed stream => "Stream sealed: " ++ stream.display
  | .streamRecreated stream => "Stream recreated: " ++ stream.display
  | .control error => error.message

end StreamCatalog
