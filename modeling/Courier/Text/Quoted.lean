import Courier.Text.HiddenTable
import Courier.Text.Blank

/-!
# `Courier.Text.Quoted`: texts between quotation marks

A quoted text shows every character: quotation marks and backslashes are escaped, the usual
controls have letters, and any other hidden character is written by its code point in braces.
A file name is quoted by the same rule but escapes the apostrophe too.
-/

set_option autoImplicit false

namespace Courier.Text

/-- Whether a character does not show by itself. -/
def isHidden (c : Char) : Bool := inRanges hiddenRanges c

/-- A code point in lower-case hexadecimal between braces. -/
def codePointEscape (c : Char) : List Char :=
  ['\\', 'u', '\x7b'] ++ Nat.toDigits 16 c.toNat ++ ['\x7d']

/-- How one character is written between quotation marks. -/
def quoteChar (apostrophe : Bool) (c : Char) : List Char :=
  if c = Char.ofNat 0 then ['\\', '0']
  else if c = '\t' then ['\\', 't']
  else if c = '\r' then ['\\', 'r']
  else if c = '\n' then ['\\', 'n']
  else if c = '"' || c = '\\' || (apostrophe && c.toNat = 39) then ['\\', c]
  else if isHidden c then codePointEscape c
  else [c]

/-- A text between quotation marks. -/
def quoted (s : String) : String :=
  String.ofList ('"' :: s.toList.flatMap (quoteChar false) ++ ['"'])

/-- A file name between quotation marks. -/
def quotedPath (s : String) : String :=
  String.ofList ('"' :: s.toList.flatMap (quoteChar true) ++ ['"'])

end Courier.Text
