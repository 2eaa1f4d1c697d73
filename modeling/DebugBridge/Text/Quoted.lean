import DebugBridge.Text.Hidden

/-!
# Quoted text

A text in double quotes, as diagnostics show it: quotes and backslashes are escaped, the usual
control characters have their short escapes, and every other character that is hidden or extends
the one before it is written by its code point.
-/

namespace DebugBridge.Text

/-- Whether a character is written by its code point when quoted. -/
def isHidden (c : Char) : Bool :=
  inRanges extendingRanges c || inRanges hiddenRanges c

/-- A character as it stands between quotes. -/
def quotedChar (c : Char) : List Char :=
  if c = '\x00' then ['\\', '0']
  else if c = '\t' then ['\\', 't']
  else if c = '\r' then ['\\', 'r']
  else if c = '\n' then ['\\', 'n']
  else if c = '"' then ['\\', '"']
  else if c = '\\' then ['\\', '\\']
  else if isHidden c then ['\\', 'u', '\x7b'] ++ Nat.toDigits 16 c.toNat ++ ['\x7d']
  else [c]

/-- A text in quotes. -/
def quoted (text : String) : String :=
  String.ofList ('"' :: (text.toList.flatMap quotedChar ++ ['"']))

end DebugBridge.Text
