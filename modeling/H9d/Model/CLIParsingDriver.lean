import H9d.Core.CString

/-! # Blanks in the names of the command line

A name that is completed outside quotes gets a backslash in front of each blank, and the scanner takes
the backslashes away again. Both are loops over a block that is large enough for any string.
-/

namespace H9d

open Cxx

namespace CLIParsingDriver

/-- The loop of `escape`, from the character `i` on. -/
def escapeLoop : List Char → ℕ → ℕ → Buffer Char → Except MemoryFault (ℕ × Buffer Char)
  | [], _, j, escaped => .ok (j, escaped)
  | c :: rest, i, j, escaped => do
      let (j, escaped) ←
        if c = ' ' then do
          let escaped ← escaped.store j '\\'
          .ok (← increment j, escaped)
        else .ok (j, escaped)
      let escaped ← escaped.store j c
      escapeLoop rest (← increment i) (← increment j) escaped

/-- `malloc` and `realloc` are taken to succeed. -/
def escape (str : CString) : Except MemoryFault CString := do
  let (j, escaped) ← escapeLoop str.chars 0 0 (Buffer.malloc (2 * str.chars.length + 1))
  escaped.terminate j

/-- The loop of `unescape`; behind the last character there is the terminator, which is no blank. -/
def unescapeLoop : List Char → ℕ → ℕ → Buffer Char → Except MemoryFault (ℕ × Buffer Char)
  | [], _, j, unescaped => .ok (j, unescaped)
  | '\\' :: ' ' :: rest, i, j, unescaped => do
      let i ← increment i
      let unescaped ← unescaped.store j ' '
      unescapeLoop rest (← increment i) (← increment j) unescaped
  | c :: rest, i, j, unescaped => do
      let unescaped ← unescaped.store j c
      unescapeLoop rest (← increment i) (← increment j) unescaped

def unescape (str : CString) : Except MemoryFault CString := do
  let (j, unescaped) ← unescapeLoop str.chars 0 0 (Buffer.malloc (str.chars.length + 1))
  unescaped.terminate j

end CLIParsingDriver

end H9d
