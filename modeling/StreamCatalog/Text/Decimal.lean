namespace StreamCatalog.Text

inductive NumberFault where
  | empty
  | invalidDigit
  | tooLarge
  deriving DecidableEq, Repr

def NumberFault.message : NumberFault → String
  | .empty => "cannot parse integer from empty string"
  | .invalidDigit => "invalid digit found in string"
  | .tooLarge => "number too large to fit in target type"

/-- One more digit behind those already read. A character that is no digit is reported as such even
    where a digit would have been too much. -/
def appendDigit (limit value : Nat) (c : Char) : Except NumberFault Nat :=
  if c.isDigit then
    let longer := value * 10 + (c.toNat - '0'.toNat)
    if longer ≤ limit then .ok longer else .error .tooLarge
  else
    .error .invalidDigit

def readDigits (limit : Nat) (digits : List Char) : Except NumberFault Nat :=
  digits.foldlM (appendDigit limit) 0

def readNumber (limit : Nat) (text : String) : Except NumberFault Nat :=
  match text.toList with
  | [] => .error .empty
  | ['+'] => .error .invalidDigit
  | '+' :: digits => readDigits limit digits
  | digits => readDigits limit digits

end StreamCatalog.Text
