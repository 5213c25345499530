import StreamCatalog.Text.CharacterRanges

namespace StreamCatalog.Text

/-- The voiced and the semi-voiced halfwidth sound mark: the only letters among the extending
    characters. Each fills a place of its own. -/
def isSoundMark (c : Char) : Bool := c = '\uff9e' || c = '\uff9f'

/-- A character that would be invisible, or would join the one before it. -/
def hidden (c : Char) : Bool :=
  inRanges unprintableRanges c || inRanges ignorableRanges c ||
    (inRanges extendingRanges c && !isSoundMark c)

def codePoint (c : Char) : List Char :=
  '\\' :: 'u' :: '\x7b' :: (Nat.toDigits 16 c.toNat ++ ['\x7d'])

def escapeChar (c : Char) : List Char :=
  if c = '"' then ['\\', '"']
  else if c = '\\' then ['\\', '\\']
  else if c = '\n' then ['\\', 'n']
  else if c = '\r' then ['\\', 'r']
  else if c = '\t' then ['\\', 't']
  else if c = '\x00' then ['\\', '0']
  else if hidden c then codePoint c
  else [c]

def quoted (text : String) : String :=
  String.ofList ('"' :: (text.toList.flatMap escapeChar ++ ['"']))

end StreamCatalog.Text
