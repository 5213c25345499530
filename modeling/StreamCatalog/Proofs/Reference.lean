import StreamCatalog.DataPath
import StreamCatalog.Proofs.ByteOrder
import StreamCatalog.Proofs.Contents
import StreamCatalog.Proofs.Names

namespace StreamCatalog

/-- The catalogue without lists of members: which streams a scope has is found by looking through
    all of them. -/
structure Reference where
  scopes : Std.ExtTreeMap String ScopeState
  streams : Std.ExtTreeMap StreamId StreamRecord

/-- What is wrong with a name. Reasons go by bytes where the rule goes by characters. -/
def Settings.nameFault? (settings : Settings) (name : String) : Option Error :=
  if IsName settings.maxNameLength name then none
  else if name = "" then some (.invalidName name .empty)
  else if settings.maxNameLength < name.utf8ByteSize then some (.invalidName name .tooLong)
  else some (.invalidName name .forbiddenCharacter)

/-- The numbers that must not be zero, in the order they are looked at, with the fault if one is. -/
def Scaling.demands : Scaling → List (Nat × ConfigFault)
  | .fixed segments => [(segments, .noSegments)]
  | .byEventRate target scaleFactor minSegments | .byDataRate target scaleFactor minSegments =>
    [(minSegments, .noSegments), (scaleFactor, .noScaleFactor), (target, .noTarget)]

def Retention.demands : Retention → List (Nat × ConfigFault)
  | .infinite => []
  | .byTime seconds nanoseconds => [(seconds + nanoseconds, .noRetentionTime)]
  | .bySize bytes => [(bytes, .noRetentionSize)]

def StreamConfig.demands (config : StreamConfig) : List (Nat × ConfigFault) :=
  config.scaling.demands ++ config.retention.demands

def unmet (demands : List (Nat × ConfigFault)) : Option ConfigFault :=
  (demands.find? fun demand => demand.1 = 0).map (·.2)

def StreamConfig.fault? (config : StreamConfig) : Option Error :=
  (unmet config.demands).map .invalidConfig

def Operation.fault? (settings : Settings) : Operation → Option Error
  | createScope scope | deleteScope scope => settings.nameFault? scope
  | createStream stream config | updateStream stream config =>
    settings.nameFault? stream.scope <|> settings.nameFault? stream.name <|> config.fault?
  | sealStream stream | deleteStream stream =>
    settings.nameFault? stream.scope <|> settings.nameFault? stream.name

theorem Settings.checkName_eq (settings : Settings) (name : String) :
    settings.checkName name =
      match settings.nameFault? name with
      | some error => .error error
      | none => .ok () := by
  have accepted := StreamCatalog.checkName_ok_iff settings.maxNameLength name
  rw [Settings.checkName, nameFault?]
  cases checked : StreamCatalog.checkName settings.maxNameLength name with
  | ok _ =>
    rw [if_pos (accepted.mp checked)]
    rfl
  | error fault =>
    have rejected : ¬ IsName settings.maxNameLength name :=
      fun fits => nomatch checked.symm.trans (accepted.mpr fits)
    obtain ⟨empty, tooLong, forbidden⟩ := checkName_error checked
    rw [if_neg rejected]
    cases fault with
    | empty =>
      rw [if_pos (empty.mp rfl)]
      rfl
    | tooLong =>
      obtain ⟨filled, long⟩ := tooLong.mp rfl
      rw [if_neg filled, if_pos long]
      rfl
    | forbiddenCharacter =>
      obtain ⟨filled, short⟩ := forbidden.mp rfl
      rw [if_neg filled, if_neg (Nat.not_lt.mpr short)]
      rfl

theorem Scaling.check_eq (scaling : Scaling) :
    scaling.check =
      match unmet scaling.demands with
      | some fault => .error fault
      | none => .ok () := by
  cases scaling with
  | fixed segments => cases segments <;> rfl
  | byEventRate target scaleFactor minSegments | byDataRate target scaleFactor minSegments =>
    cases minSegments <;> cases scaleFactor <;> cases target <;> rfl

theorem Retention.check_eq (retention : Retention) :
    retention.check =
      match unmet retention.demands with
      | some fault => .error fault
      | none => .ok () := by
  cases retention with
  | infinite => rfl
  | byTime seconds nanoseconds => cases seconds <;> cases nanoseconds <;> rfl
  | bySize bytes => cases bytes <;> rfl

theorem unmet_append (first second : List (Nat × ConfigFault)) :
    unmet (first ++ second) = (unmet first <|> unmet second) := by
  rw [unmet, unmet, unmet, List.find?_append]
  cases first.find? fun demand => demand.1 = 0 <;> rfl

theorem StreamConfig.check_eq (config : StreamConfig) :
    config.check.mapError .invalidConfig =
      match config.fault? with
      | some error => .error error
      | none => .ok () := by
  rw [StreamConfig.check, Scaling.check_eq, Retention.check_eq, fault?, demands, unmet_append]
  cases unmet config.scaling.demands <;> cases unmet config.retention.demands <;> rfl

theorem Operation.check_eq (settings : Settings) (operation : Operation) :
    operation.check settings =
      match operation.fault? settings with
      | some error => .error error
      | none => .ok () := by
  cases operation <;>
    simp only [check, fault?, scope, stream?, config?, Settings.checkName_eq, StreamConfig.check_eq]
  case createScope | deleteScope => cases settings.nameFault? _ <;> rfl
  case sealStream stream | deleteStream stream =>
    cases settings.nameFault? stream.scope <;> cases settings.nameFault? stream.name <;> rfl
  case createStream stream config | updateStream stream config =>
    cases settings.nameFault? stream.scope <;> cases settings.nameFault? stream.name <;>
      cases config.fault? <;> rfl

theorem Settings.nameFault?_eq_none {settings : Settings} {name : String} :
    settings.nameFault? name = none ↔ settings.checkName name = .ok () := by
  rw [checkName_eq]
  cases settings.nameFault? name <;> simp

theorem StreamConfig.fault?_eq_none {config : StreamConfig} :
    config.fault? = none ↔ config.check = .ok () := by
  have mapped := config.check_eq
  cases checked : config.check <;> cases faulty : config.fault? <;>
    simp_all [Except.mapError]

theorem Operation.fault?_eq_none {settings : Settings} {operation : Operation} :
    operation.fault? settings = none ↔ operation.check settings = .ok () := by
  rw [check_eq]
  cases operation.fault? settings <;> simp

theorem Settings.nameFault?_eq_some {settings : Settings} {name : String} {error : Error}
    (wrong : settings.nameFault? name = some error) : ∃ fault, error = .invalidName name fault := by
  simp only [nameFault?] at wrong
  split_ifs at wrong <;> exact ⟨_, (Option.some.inj wrong).symm⟩

theorem StreamConfig.fault?_eq_some {config : StreamConfig} {error : Error}
    (wrong : config.fault? = some error) : ∃ fault, error = .invalidConfig fault := by
  obtain ⟨fault, -, same⟩ := Option.map_eq_some_iff.mp wrong
  exact ⟨fault, same.symm⟩

inductive Request where
  | lifecycle (settings : Settings) (operation : Operation)
  | query (query : Query)

def Request.call : Request → Call
  | lifecycle settings operation => .lifecycle settings operation
  | query asked => .query asked

namespace Reference

def empty : Reference := ⟨∅, ∅⟩

def setScope (reference : Reference) (name : String) (state : ScopeState) : Reference :=
  { reference with scopes := reference.scopes.insert name state }

def setStream (reference : Reference) (stream : StreamId) (record : StreamRecord) : Reference :=
  { reference with streams := reference.streams.insert stream record }

def liveStreams (reference : Reference) (scope : String) : List String :=
  (reference.streams.toList.filter fun entry => entry.1.scope = scope ∧ entry.2.Live).map (·.1.name)

def activeScopes (reference : Reference) : List String :=
  (reference.scopes.toList.filter (·.2 = .active)).map (·.1)

def createScope (reference : Reference) (name : String) : Except Error Bool × Reference :=
  match reference.scopes[name]? with
  | some .active => (.ok false, reference)
  | none | some .deleted => (.ok true, reference.setScope name .active)

def deleteScope (reference : Reference) (name : String) : Except Error Bool × Reference :=
  match reference.scopes[name]?, reference.liveStreams name with
  | some .active, [] => (.ok true, reference.setScope name .deleted)
  | some .active, live => (.error (.scopeNotEmpty name live.length), reference)
  | none, _ | some .deleted, _ => (.ok false, reference)

def createStream (reference : Reference) (nameReuse : Bool) (stream : StreamId)
    (config : StreamConfig) : Except Error Bool × Reference :=
  match reference.scopes[stream.scope]?, reference.streams[stream]? with
  | none, _ | some .deleted, _ => (.error (.scopeNotFound stream.scope), reference)
  | some .active, none => (.ok true, reference.setStream stream ⟨.active, config, 0, 0⟩)
  | some .active, some ⟨.deleted, _, _, generation⟩ =>
    if nameReuse then (.ok true, reference.setStream stream ⟨.active, config, 0, generation + 1⟩)
    else (.ok false, reference)
  | some .active, some _ => (.ok false, reference)

def updateStream (reference : Reference) (stream : StreamId) (config : StreamConfig) :
    Except Error Bool × Reference :=
  match reference.streams[stream]? with
  | some ⟨.active, _, epoch, generation⟩ =>
    (.ok true, reference.setStream stream ⟨.active, config, epoch + 1, generation⟩)
  | _ => (.error (.streamNotActive stream), reference)

def sealStream (reference : Reference) (stream : StreamId) : Except Error Bool × Reference :=
  match reference.streams[stream]? with
  | some ⟨.active, config, epoch, generation⟩ =>
    (.ok true, reference.setStream stream ⟨.sealed, config, epoch, generation⟩)
  | _ => (.error (.streamNotActive stream), reference)

def deleteStream (reference : Reference) (stream : StreamId) : Except Error Bool × Reference :=
  match reference.streams[stream]? with
  | some ⟨.sealed, config, epoch, generation⟩ =>
    (.ok true, reference.setStream stream ⟨.deleted, config, epoch, generation⟩)
  | some ⟨.active, _, _, _⟩ => (.error (.streamNotSealed stream), reference)
  | none | some ⟨.deleted, _, _, _⟩ => (.ok false, reference)

def carryOut (reference : Reference) (settings : Settings) :
    Operation → Except Error Bool × Reference
  | .createScope scope => reference.createScope scope
  | .deleteScope scope => reference.deleteScope scope
  | .createStream stream config => reference.createStream settings.nameReuse stream config
  | .updateStream stream config => reference.updateStream stream config
  | .sealStream stream => reference.sealStream stream
  | .deleteStream stream => reference.deleteStream stream

def operate (reference : Reference) (settings : Settings) (operation : Operation) :
    Except Error Bool × Reference :=
  match operation.fault? settings with
  | some error => (.error error, reference)
  | none => reference.carryOut settings operation

/-- Names are listed in the order of their bytes. -/
def answer (reference : Reference) : Query → Except Error Answer
  | .scopeExists scope => .ok (.flag (reference.scopes[scope]? = some .active))
  | .scopeIsEmpty scope => .ok (.flag (reference.liveStreams scope).isEmpty)
  | .scopes => .ok (.names (reference.activeScopes.mergeSort byteOrder))
  | .streams scope =>
    if reference.scopes[scope]? = some .active then
      .ok (.names ((reference.liveStreams scope).mergeSort byteOrder))
    else .error (.scopeNotFound scope)
  | .streamExists stream => .ok (.flag (reference.streams[stream]?.any fun record => record.Live))
  | .streamInfo stream => .ok (.info (reference.streams[stream]?.map (⟨stream, ·⟩)))
  | .streamIsActive stream => .ok (.flag (reference.streams[stream]?.any (·.state = .active)))

def perform (reference : Reference) : Request → Reply × Reference
  | .lifecycle settings operation =>
    let done := reference.operate settings operation
    (.lifecycle done.1, done.2)
  | .query query => (.query (reference.answer query), reference)

def performAll : List Request → Reference → List Reply
  | [], _ => []
  | request :: rest, reference =>
    let done := reference.perform request
    done.1 :: performAll rest done.2

end Reference

end StreamCatalog
