/-!
# Blank characters and words

`isBlank` is the Unicode White_Space property: the ASCII tab, line feed, vertical tab, form
feed, carriage return and space, the next line control U+0085, the no-break space U+00A0, the
Ogham space mark U+1680, the spaces U+2000 to U+200A, the line and paragraph separators U+2028
and U+2029, the narrow no-break space U+202F, the medium mathematical space U+205F and the
ideographic space U+3000.  The zero-width space U+200B is not blank.

`words` splits a text at runs of blanks and drops empty pieces.
-/

namespace EngineSdk.Text

/-- The Unicode White_Space property. -/
def isBlank (c : Char) : Bool :=
  let n := c.toNat
  (9 ≤ n && n ≤ 13) || n == 32 || n == 0x85 || n == 0xA0 || n == 0x1680
    || (0x2000 ≤ n && n ≤ 0x200A) || n == 0x2028 || n == 0x2029 || n == 0x202F || n == 0x205F
    || n == 0x3000

/-- The pieces of a character list between runs of blanks; `current` is the piece being read,
last character first. -/
def wordsAux (current : List Char) : List Char → List (List Char)
  | [] => if current.isEmpty then [] else [current.reverse]
  | c :: cs =>
    if isBlank c then
      if current.isEmpty then wordsAux [] cs else current.reverse :: wordsAux [] cs
    else wordsAux (c :: current) cs

/-- The non-empty pieces of a text between runs of blanks, in order. -/
def words (s : String) : List String := (wordsAux [] s.toList).map String.ofList

theorem isBlank_of_isWhitespace (c : Char) (h : c.isWhitespace = true) : isBlank c = true := by
  simp only [Char.isWhitespace, Bool.or_eq_true, decide_eq_true_eq] at h
  rcases h with ((h | h) | h) | h <;> simp [isBlank, h]

end EngineSdk.Text
