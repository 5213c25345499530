namespace StreamCatalog

inductive NameFault where
  | empty
  | tooLong
  | forbiddenCharacter
  deriving DecidableEq, Repr

def NameFault.message : NameFault → String
  | .empty => "name is empty"
  | .tooLong => "name is too long"
  | .forbiddenCharacter => "name may only contain alphanumerics, '-' and '.'"

def isNameChar (c : Char) : Bool := c.isAlphanum || c = '-' || c = '.'

/-- The length counts UTF-8 bytes, and is looked at before the characters. -/
def checkName (maxLength : Nat) (name : String) : Except NameFault Unit :=
  if name.isEmpty then .error .empty
  else if maxLength < name.utf8ByteSize then .error .tooLong
  else if name.toList.all isNameChar then .ok ()
  else .error .forbiddenCharacter

end StreamCatalog
