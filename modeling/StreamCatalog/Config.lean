namespace StreamCatalog

/-- A fixed number of segments, or one that follows the load on each segment: events or kilobytes
    per second. -/
inductive Scaling where
  | fixed (segments : Nat)
  | byEventRate (target scaleFactor minSegments : Nat)
  | byDataRate (target scaleFactor minSegments : Nat)
  deriving DecidableEq, Repr

inductive Retention where
  | infinite
  | byTime (seconds nanoseconds : Nat)
  | bySize (bytes : Nat)
  deriving DecidableEq, Repr

structure StreamConfig where
  scaling : Scaling := .fixed 1
  retention : Retention := .infinite
  deriving DecidableEq, Repr

inductive ConfigFault where
  | noSegments
  | noScaleFactor
  | noTarget
  | noRetentionTime
  | noRetentionSize
  | other (text : String)
  deriving DecidableEq, Repr

def ConfigFault.message : ConfigFault → String
  | .noSegments => "segment count must be at least 1"
  | .noScaleFactor => "scale factor must be at least 1"
  | .noTarget => "scaling target must be positive"
  | .noRetentionTime => "retention time must be positive"
  | .noRetentionSize => "retention size must be positive"
  | .other text => text

def Scaling.minSegments : Scaling → Nat
  | .fixed segments => segments
  | .byEventRate _ _ minSegments | .byDataRate _ _ minSegments => minSegments

def Scaling.checkRate (target scaleFactor : Nat) : Except ConfigFault Unit :=
  if scaleFactor = 0 then .error .noScaleFactor
  else if target = 0 then .error .noTarget
  else .ok ()

def Scaling.check (scaling : Scaling) : Except ConfigFault Unit :=
  if scaling.minSegments = 0 then .error .noSegments
  else match scaling with
    | .fixed _ => .ok ()
    | .byEventRate target scaleFactor _ | .byDataRate target scaleFactor _ =>
      checkRate target scaleFactor

def Retention.check : Retention → Except ConfigFault Unit
  | .infinite => .ok ()
  | .byTime seconds nanoseconds =>
    if seconds = 0 ∧ nanoseconds = 0 then .error .noRetentionTime else .ok ()
  | .bySize bytes => if bytes = 0 then .error .noRetentionSize else .ok ()

/-- Every number of a configuration is positive. The scaling is looked at first. -/
def StreamConfig.check (config : StreamConfig) : Except ConfigFault Unit := do
  config.scaling.check
  config.retention.check

def StreamConfig.fixed (segments : Nat) : StreamConfig := { scaling := .fixed segments }

def StreamConfig.segmentCount (config : StreamConfig) : Nat := config.scaling.minSegments

end StreamCatalog
