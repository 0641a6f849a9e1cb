import CommitStyle.Text.Hex
import CommitStyle.Text.Printable

/-! Quoted text for messages. A text stands in single quotes, or in double
quotes when it holds a single quote and no double one. Backslashes, the quote in
use and unprintable characters are escaped, so that a message shows what a
reader could not see. -/

namespace CommitStyle.Text

def quoteFor (s : List Char) : Char :=
  if s.contains '\x27' && !s.contains '"' then '"' else '\x27'

/-- One character inside quotes. -/
def escapeIn (quote c : Char) : List Char :=
  if c == quote || c == '\\' then ['\\', c]
  else if c == '\n' then ['\\', 'n']
  else if c == '\r' then ['\\', 'r']
  else if c == '\t' then ['\\', 't']
  else if isPrintable c then [c]
  else if c.toNat < 0x100 then '\\' :: 'x' :: hexDigits c.toNat 2
  else if c.toNat < 0x10000 then '\\' :: 'u' :: hexDigits c.toNat 4
  else '\\' :: 'U' :: hexDigits c.toNat 8

def quoted (s : String) : String :=
  let quote := quoteFor s.toList
  String.ofList (quote :: s.toList.flatMap (escapeIn quote) ++ [quote])

end CommitStyle.Text
