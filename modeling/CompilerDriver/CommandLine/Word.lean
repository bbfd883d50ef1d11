import CompilerDriver.Text.Split
import CompilerDriver.Text.Utf8

/-!
The shape of a single argument, before it is known which flags exist.
-/

namespace CompilerDriver

/-- An argument by its shape. -/
inductive Word where
  /-- The argument `--`, after which nothing is a flag. -/
  | terminator
  /-- Two dashes and a name, and the value after the first equals sign if there is one. -/
  | long (name : Bytes) (attached : Option Bytes)
  /-- One dash and at least one more byte. -/
  | short (first : UInt8) (rest : Bytes)
  /-- Anything else: no dash in front, or a single dash. -/
  | plain (bytes : Bytes)
  deriving DecidableEq, Repr

namespace Word

/-- The byte of a dash. -/
def dash : UInt8 := 0x2D

/-- The byte of an equals sign. -/
def equals : UInt8 := 0x3D

/-- The shape of an argument. -/
def ofBytes : Bytes → Word
  | [] => .plain []
  | first :: rest =>
    if first = dash then
      match rest with
      | [] => .plain [first]
      | second :: more =>
        if second = dash then
          if more = [] then .terminator
          else .long (cut equals more).1 (cut equals more).2
        else .short second more
    else .plain (first :: rest)

end Word

end CompilerDriver
