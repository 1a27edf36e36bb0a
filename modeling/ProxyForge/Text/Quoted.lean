import ProxyForge.Text.Hidden

/-!
# ProxyForge.Text.Quoted — texts between quotes

A quoted text shows every character in a visible way: quotes and backslashes
behind a backslash, line ends, tabs and NUL by a letter or digit, other hidden
characters by their code.
-/

namespace ProxyForge.Text

/-- A character as a quoted text writes it. -/
def quoteChar (c : Char) : List Char :=
  if c = '"' then ['\\', '"']
  else if c = '\\' then ['\\', '\\']
  else if c = '\n' then ['\\', 'n']
  else if c = '\r' then ['\\', 'r']
  else if c = '\t' then ['\\', 't']
  else if c = '\x00' then ['\\', '0']
  else if isHidden c then '\\' :: 'u' :: '\x7b' :: (Nat.toDigits 16 c.toNat ++ ['\x7d'])
  else [c]

/-- A text between quotes. -/
def quote (s : String) : String :=
  String.ofList ('"' :: (s.toList.flatMap quoteChar ++ ['"']))

end ProxyForge.Text
