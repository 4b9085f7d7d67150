/-
  CommandConsole.Text.Quoted — text in a form that shows every character.

  The quoted form stands between double quotes. A quote and a backslash inside get a
  backslash, the five characters with a short escape use it, and every other hidden
  character is written as its number in hexadecimal, in braces. All else stands for
  itself, so the form can be read back without loss.
-/

import CommandConsole.Text.Hidden

namespace CommandConsole.Text

def hexDigit (n : Nat) : Char := Char.ofNat (if n < 10 then 48 + n else 87 + n)

/-- A number in lower-case hexadecimal, without leading zeros. -/
def hexDigits (n : Nat) : List Char :=
  if n < 16 then [hexDigit n] else hexDigits (n / 16) ++ [hexDigit (n % 16)]

def quoteChar (c : Char) : List Char :=
  if c = '"' then ['\\', '"']
  else if c = '\\' then ['\\', '\\']
  else if c = '\n' then ['\\', 'n']
  else if c = '\r' then ['\\', 'r']
  else if c = '\t' then ['\\', 't']
  else if c.toNat = 0 then ['\\', '0']
  else if isHidden c then ['\\', 'u', '\x7b'] ++ hexDigits c.toNat ++ ['\x7d']
  else [c]

/-- The text between double quotes, with every hidden character spelled out. -/
def quoted (s : String) : String := String.ofList ('"' :: s.toList.flatMap quoteChar ++ ['"'])

end CommandConsole.Text
