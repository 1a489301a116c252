import DeviceClaims.Text.Hex
import DeviceClaims.Text.Printable

namespace DeviceClaims.Quoted

/-- Quotes and backslashes get a backslash, the usual controls their letter, and a character that does
not show on its own is written as its code in braces, so nothing in a text can end its quotation. -/
def escape (c : Char) : List Char :=
  if c = '\x00' then ['\\', '0']
  else if c = '\t' then ['\\', 't']
  else if c = '\r' then ['\\', 'r']
  else if c = '\n' then ['\\', 'n']
  else if c = '"' then ['\\', '"']
  else if c = '\\' then ['\\', '\\']
  else if Printable.showsAlone c then [c]
  else '\\' :: 'u' :: '\x7b' :: (Hex.ofNat c.toNat ++ ['\x7d'])

def write (s : String) : String :=
  String.ofList ('"' :: (s.toList.flatMap escape ++ ['"']))

end DeviceClaims.Quoted
