import CompilerDriver.Text.Printable

/-!
Quoted text.  A text is written between quotation marks on one line: the quotation mark, the
backslash and four common controls have short escapes, every other character that is not
printable is written by its code point.
-/

namespace CompilerDriver.Quoted

/-- The code point of a character in lower-case hexadecimal. -/
def codeDigits (c : Char) : List Char :=
  Nat.toDigits 16 c.toNat

/-- One character as it stands in a quoted text. -/
def escapeChar (c : Char) : List Char :=
  if c = '\t' then ['\\', 't']
  else if c = '\r' then ['\\', 'r']
  else if c = '\n' then ['\\', 'n']
  else if c = '\x00' then ['\\', '0']
  else if c = '"' then ['\\', '"']
  else if c = '\\' then ['\\', '\\']
  else if Printable.isPrintable c then [c]
  else '\\' :: 'u' :: '\x7b' :: codeDigits c ++ ['\x7d']

/-- The characters between the quotation marks. -/
def escape (text : List Char) : List Char :=
  text.flatMap escapeChar

/-- A text between quotation marks. -/
def quote (text : String) : String :=
  String.ofList ('"' :: escape text.toList ++ ['"'])

@[simp] theorem escape_nil : escape [] = [] := rfl

@[simp] theorem escape_cons (c : Char) (rest : List Char) :
    escape (c :: rest) = escapeChar c ++ escape rest := rfl

end CompilerDriver.Quoted
