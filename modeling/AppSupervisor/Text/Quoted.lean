import AppSupervisor.Text.Digit
import AppSupervisor.Text.Printable

/-!
Texts in quotation marks, as messages show them.

Apostrophes surround the text unless it holds an apostrophe and no double quote; then double quotes
do. The quotation mark in use and the backslash are escaped, and so is all that is not printable.
-/

namespace AppSupervisor.Text

def quoteMark (cs : List Char) : Char :=
  if cs.contains '\'' && !cs.contains '"' then '"' else '\''

def quoteChar (mark c : Char) : List Char :=
  if c == mark || c == '\\' then ['\\', c]
  else if c == '\n' then ['\\', 'n']
  else if c == '\r' then ['\\', 'r']
  else if c == '\t' then ['\\', 't']
  else if c.toNat < 0x20 || c.toNat == 0x7f then '\\' :: 'x' :: (hex c.toNat 2).toList
  else if isPrintable c then [c]
  else if c.toNat < 0x100 then '\\' :: 'x' :: (hex c.toNat 2).toList
  else if c.toNat < 0x10000 then '\\' :: 'u' :: (hex c.toNat 4).toList
  else '\\' :: 'U' :: (hex c.toNat 8).toList

def quote (s : String) : String :=
  let mark := quoteMark s.toList
  String.ofList (mark :: s.toList.flatMap (quoteChar mark) ++ [mark])

end AppSupervisor.Text
