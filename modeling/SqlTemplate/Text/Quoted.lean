import SqlTemplate.Text.Printable

namespace SqlTemplate.Text.Quoted

def escape (c : Char) : List Char :=
  if c = '"' then ['\\', '"']
  else if c = '\\' then ['\\', '\\']
  else if c = '\n' then ['\\', 'n']
  else if c = '\r' then ['\\', 'r']
  else if c = '\t' then ['\\', 't']
  else if c = '\x00' then ['\\', '0']
  else if isPrintable c then [c]
  else ['\\', 'u', '{'] ++ Nat.toDigits 16 c.toNat ++ ['}']

def encode (s : List Char) : List Char := ['"'] ++ s.flatMap escape ++ ['"']

end SqlTemplate.Text.Quoted
