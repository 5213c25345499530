import StreamCatalog.Error

namespace StreamCatalog

structure Settings where
  maxNameLength : Nat := 255
  nameReuse : Bool := true
  deriving DecidableEq, Repr

def Settings.checkName (settings : Settings) (name : String) : Except Error Unit :=
  (StreamCatalog.checkName settings.maxNameLength name).mapError (.invalidName name)

end StreamCatalog
