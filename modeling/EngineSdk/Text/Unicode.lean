import EngineSdk.Unicode.Printable
import EngineSdk.Unicode.Grapheme
import EngineSdk.Unicode.Ident
import EngineSdk.Unicode.Case

/-!
# Classes of Unicode characters

Source text is split into words by classes of characters: white space, characters that may
start an identifier, characters that may continue one (`EngineSdk.Unicode.Ident`).  Generated
names are upper-cased (`EngineSdk.Unicode.Case`), and literals and diagnostics escape the
characters that do not print on their own (`EngineSdk.Unicode.Printable`) or that would be drawn
on the character before them (`EngineSdk.Unicode.Grapheme`).
-/

namespace EngineSdk.Unicode

/-- White space as source text counts it: the Unicode property White_Space, and the two
direction marks. -/
def isWhitespace (c : Char) : Bool :=
  let n := c.toNat
  n == 0x20 || (0x09 ≤ n && n ≤ 0x0D) || n == 0x85 || n == 0xA0 || n == 0x1680 ||
    (0x2000 ≤ n && n ≤ 0x200A) || n == 0x2028 || n == 0x2029 || n == 0x202F || n == 0x205F ||
    n == 0x3000 || n == 0x200E || n == 0x200F

/-- Lower-case hexadecimal digits of a number. -/
def hexLower (n : Nat) : String := String.ofList (Nat.toDigits 16 n)

/-- A character as a literal shows it: quote marks and backslashes escaped, the null character
and the named control characters by name, and characters that extend the one before them or do
not print as `\u` with the hexadecimal code in braces. -/
def escapeDebug (c : Char) : String :=
  if c.toNat = 0 then "\\0"
  else if c = '\t' then "\\t"
  else if c = '\r' then "\\r"
  else if c = '\n' then "\\n"
  else if c = '\\' then "\\\\"
  else if c = '"' then "\\\""
  else if c = '\'' then "\\'"
  else if isGraphemeExtended c || !isPrintable c then "\\u\x7b" ++ hexLower c.toNat ++ "\x7d"
  else c.toString

end EngineSdk.Unicode
