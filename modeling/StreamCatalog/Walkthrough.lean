import StreamCatalog.Catalog
import StreamCatalog.Text.Decimal

namespace StreamCatalog

namespace Reply

def isChange : Reply → Bool
  | .lifecycle (.ok true) => true
  | _ => false

def isNoChange : Reply → Bool
  | .lifecycle (.ok false) => true
  | _ => false

def isRejection (reason : Rejection) : Reply → Bool
  | .lifecycle (.error failure) => failure.rejection? = some reason
  | _ => false

def isRefusal : Reply → Bool
  | .lifecycle (.error _) => true
  | _ => false

def isWritten : Reply → Bool
  | .written (.ok _) => true
  | _ => false

end Reply

namespace Walkthrough

structure Mishap where
  call : Call

abbrev Walk := ExceptT Mishap (StateM Catalog)

def ask (hash : String → UInt64) (call : Call) : Walk Reply := do
  let catalog ← get
  let done := catalog.perform hash call
  set done.2
  return done.1

def expect (hash : String → UInt64) (kind : Reply → Bool) (call : Call) : Walk Unit := do
  let reply ← ask hash call
  unless kind reply do throw ⟨call⟩

def operate (hash : String → UInt64) (kind : Reply → Bool) (operation : Operation) : Walk Unit :=
  expect hash kind (.lifecycle {} operation)

def eventsPerStream : Nat := 100

def writeEvents (hash : String → UInt64) (stream : StreamId) : Walk Unit := do
  let call := .openWriter 0 stream
  match ← ask hash call with
  | .opened (.ok handle) =>
    (List.range eventsPerStream).forM fun n =>
      expect hash Reply.isWritten (.write handle stream.name (Payload.ofText (toString n)))
  | _ => throw ⟨call⟩

/-- The life of the stream with this number, which starts with as many segments and then has twice
    as many. Numbers are unbounded, where a 32-bit one overflows when doubled from 2 ^ 31 on. -/
def walkStream (hash : String → UInt64) (scope : String) (number : Nat) : Walk Unit := do
  let stream : StreamId := ⟨scope, toString number⟩
  let wider := StreamConfig.fixed (number * 2)
  operate hash (Reply.isRejection .scopeNotFound)
    (.createStream ⟨"nonexistentScope", stream.name⟩ {})
  operate hash Reply.isChange (.createStream stream (.fixed number))
  operate hash Reply.isChange (.updateStream stream wider)
  if number % 2 = 0 then
    writeEvents hash stream
  operate hash Reply.isChange (.updateStream stream wider)
  operate hash (Reply.isRejection .scopeNotEmpty) (.deleteScope scope)
  operate hash (Reply.isRejection .streamNotSealed) (.deleteStream stream)
  operate hash Reply.isChange (.sealStream stream)
  operate hash Reply.isChange (.deleteStream stream)
  operate hash Reply.isRefusal (.sealStream stream)
  operate hash Reply.isNoChange (.deleteStream stream)

def scopeName (index : Nat) : String := "lifecycle" ++ toString index

def walkScope (hash : String → UInt64) (streams index : Nat) : Walk String := do
  let scope := scopeName index
  operate hash Reply.isNoChange (.deleteScope scope)
  operate hash Reply.isChange (.createScope scope)
  (List.range streams).forM fun n => walkStream hash scope (n + 1)
  operate hash Reply.isNoChange (.createScope scope)
  operate hash Reply.isChange (.deleteScope scope)
  return "Scope " ++ scope ++ " done"

def summary (scopes streams : Nat) : String :=
  "Managed " ++ toString scopes ++ " scopes x " ++ toString streams ++ " streams"

def walk (hash : String → UInt64) (scopes streams : Nat) : Walk (List String) := do
  let lines ← (List.range scopes).mapM (walkScope hash streams)
  return lines ++ [summary scopes streams]

def run (hash : String → UInt64) (scopes streams : Nat) : Except Mishap (List String) × Catalog :=
  (walk hash scopes streams).run.run .empty

structure Outcome where
  code : Nat
  output : List String
  errors : List String
  deriving DecidableEq, Repr

def usage : List String :=
  ["Usage: lifecycle [NUM_SCOPES] [NUM_STREAMS]",
    "",
    "Examples:",
    "  lifecycle          # 5 scopes with 20 streams each",
    "  lifecycle 2 4      # 2 scopes with 4 streams each"]

def maxSize : Nat := 4294967295

def readSize (standard : Nat) (argument : Option String) :
    Except (String × Text.NumberFault) Nat :=
  match argument with
  | none => .ok standard
  | some text => (Text.readNumber maxSize text).mapError fun fault => (text, fault)

def readSizes (arguments : List String) : Except (String × Text.NumberFault) (Nat × Nat) := do
  let scopes ← readSize 5 arguments[0]?
  let streams ← readSize 20 arguments[1]?
  return (scopes, streams)

def command (hash : String → UInt64) (arguments : List String) : Outcome :=
  match readSizes arguments with
  | .error (text, fault) =>
    ⟨1, [], ("Error: " ++ text ++ ": " ++ fault.message) :: "" :: usage⟩
  | .ok (scopes, streams) =>
    match (run hash scopes streams).1 with
    | .ok lines => ⟨0, lines, []⟩
    | .error _ => ⟨1, [], ["Error: unexpected answer"]⟩

end Walkthrough

end StreamCatalog
