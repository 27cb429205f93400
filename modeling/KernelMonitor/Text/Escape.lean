import KernelMonitor.Text.Hex
import KernelMonitor.Text.Escaped

/-! # Quoted debug text

A character or string in debug text stands between quotes. NUL, tab, CR, LF, the backslash and
the surrounding quote are written with a backslash; the characters of `escapedRanges` as
`\u{…}` with lowercase hexadecimal digits; all others as themselves.
-/

namespace KernelMonitor.Text

/-- A character as it appears between the quotes `quote`. -/
def escapeChar (quote : Char) (c : Char) : String :=
  if c = '\x00' then "\\0"
  else if c = '\t' then "\\t"
  else if c = '\r' then "\\r"
  else if c = '\n' then "\\n"
  else if c = '\\' then "\\\\"
  else if c = quote then "\\" ++ c.toString
  else if isEscaped c then "\\u\x7b" ++ hex c.toNat ++ "\x7d"
  else c.toString

def apostrophe : Char := Char.ofNat 39

def doubleQuote : Char := Char.ofNat 34

def quoteChar (c : Char) : String :=
  apostrophe.toString ++ escapeChar apostrophe c ++ apostrophe.toString

/-- A string in double quotes, as debug text shows it. -/
def quoteString (s : String) : String :=
  doubleQuote.toString ++ String.join (s.toList.map (escapeChar doubleQuote)) ++
    doubleQuote.toString

end KernelMonitor.Text
