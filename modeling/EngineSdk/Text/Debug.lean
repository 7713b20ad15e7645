import EngineSdk.Text.Unicode

/-!
# Strings as diagnostics show them

Diagnostics quote strings in double quotes and escape what would not read back, as a character
literal does (`EngineSdk.Unicode.escapeDebug`), except the apostrophe, which needs no escape
between double quotes.
-/

namespace EngineSdk.Text

/-- A character as a diagnostic shows it inside double quotes. -/
def debugChar (c : Char) : String :=
  if c = '\'' then "'" else Unicode.escapeDebug c

/-- A string in double quotes as a diagnostic shows it. -/
def debugQuote (s : String) : String :=
  "\"" ++ String.join (s.toList.map debugChar) ++ "\""

end EngineSdk.Text
