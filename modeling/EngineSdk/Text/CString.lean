/-!
# C strings

Names in engine structures are C strings: pointers to bytes ending in NUL.  A `CString` is
the bytes before the NUL, or none for a null pointer.  A null name matches nothing; a name is
text only when its bytes are UTF-8.
-/

namespace EngineSdk

/-- A C string: its bytes before the NUL, or none for a null pointer. -/
abbrev CString := Option (List UInt8)

namespace CString

/-- The string is present and equals `expected` byte for byte. -/
def sameAs (n : CString) (expected : List UInt8) : Bool :=
  match n with
  | some bytes => bytes == expected
  | none => false

/-- The string as text, when it is present and UTF-8. -/
def text? (n : CString) : Option String :=
  n.bind fun bytes => String.fromUTF8? ⟨bytes.toArray⟩

/-- The string as shown in listings: its text, or `<unnamed>`. -/
def shown (n : CString) : String := n.text?.getD "<unnamed>"

end CString

end EngineSdk
