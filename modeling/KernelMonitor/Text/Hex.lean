/-! # Hexadecimal and decimal text

Numbers are written in lowercase hexadecimal without a prefix, or in decimal. A field of fixed
width is written as separate pieces: one `"0"` or `" "` per missing character, then the text, so a
console that refuses a piece stops the field exactly there.
-/

namespace KernelMonitor.Text

/-- The lowercase hexadecimal digit for `d < 16`. -/
def hexDigit (d : Nat) : Char :=
  if d < 10 then Char.ofNat (48 + d) else Char.ofNat (87 + d)

/-- The lowercase hexadecimal digits of `n`, most significant first, for an `n` with at most
`bound + 1` digits. -/
def hexCharsUpTo : Nat → Nat → List Char
  | 0, n => [hexDigit n]
  | bound + 1, n =>
    if n < 16 then [hexDigit n] else hexCharsUpTo bound (n / 16) ++ [hexDigit (n % 16)]

/-- The lowercase hexadecimal digits of `n`, most significant first; zero is one digit. A number
has fewer digits than its value, so `n` bounds them. -/
def hexChars (n : Nat) : List Char := hexCharsUpTo n n

def hex (n : Nat) : String := String.ofList (hexChars n)

def dec (n : Nat) : String := toString n

/-- The pieces of a right-aligned field of `width` characters, padded with zeros. -/
def zeroPadded (width : Nat) (text : String) : List String :=
  List.replicate (width - text.length) "0" ++ [text]

def leftAligned (width : Nat) (text : String) : List String :=
  text :: List.replicate (width - text.length) " "

/-- A word as eight hexadecimal digits, one piece per padding zero. -/
def hex8 (w : UInt32) : List String := zeroPadded 8 (hex w.toNat)

def hex4 (w : UInt16) : List String := zeroPadded 4 (hex w.toNat)

def hexPrefixed (n : Nat) : String := "0x" ++ hex n

end KernelMonitor.Text
