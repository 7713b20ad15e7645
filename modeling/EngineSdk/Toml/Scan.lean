/-!
# Scanning bytes, with committed failures

A `Scan` reads the bytes of a document from a position and either produces a value and a new
position, or fails.  A failure is either soft, so that an enclosing choice goes on to its next
alternative, or committed (`cut`), so that every enclosing rule gives up at once.

A failure records the position at which reading stood when it surfaced.  Most rules leave the
position where the failing step left it; the rules that rewind on failure (`peek`, `verify`,
`tryMap`, `convert`) move it back to where they started, and a choice reports the failure of
its last alternative where that alternative stopped.  On their way out, enclosing rules add
`Note`s to a failure, innermost first, and a failure may carry a cause: the text of an error
raised by a conversion.

`Failure.message` renders a failure for a reader: `invalid <label>` for the first label,
`expected <a>, <b>` for every expectation, then the cause, each on its own line.
-/

namespace EngineSdk.Toml

/-- What a failed rule expected to see. -/
inductive Expected where
  /-- One character. -/
  | char (c : Char)
  /-- A fixed text. -/
  | literal (s : String)
  /-- A description in words, such as `digit`. -/
  | description (s : String)
deriving Repr, DecidableEq

/-- A remark that an enclosing rule adds to a failure. -/
inductive Note where
  /-- The name of what was being read. -/
  | label (s : String)
  /-- Something that would have been accepted. -/
  | expected (e : Expected)
deriving Repr, DecidableEq

/-- A failure to read. -/
structure Failure where
  /-- No alternative is to be tried. -/
  cut : Bool
  /-- Where reading stood when the failure surfaced. -/
  pos : Nat
  /-- The notes added on the way out, innermost first. -/
  notes : List Note
  /-- The text of the error a conversion raised, if one did. -/
  cause : Option String
deriving Repr, DecidableEq

/-- Reading the bytes of a document from a position. -/
abbrev Scan (α : Type) := ReaderT (Array UInt8) (StateT Nat (Except Failure)) α

/-- The text of an expectation. -/
def Expected.text : Expected → String
  | .char c =>
    if c = '\n' then "newline"
    else if c = '`' then "'`'"
    else if c.toNat < 32 ∨ c.toNat = 127 then
      "`" ++ (if c = '\t' then "\\t" else if c = '\r' then "\\r" else if c = '\x00' then "\\0"
        else "\\u" ++ "\x7b" ++ String.ofList (Nat.toDigits 16 c.toNat) ++ "\x7d") ++ "`"
    else "`" ++ c.toString ++ "`"
  | .literal s => "`" ++ s ++ "`"
  | .description s => s

/-- The label of a note, if it is one. -/
def Note.label? : Note → Option String
  | .label s => some s
  | .expected _ => none

/-- The expectation of a note, if it is one. -/
def Note.expected? : Note → Option Expected
  | .label _ => none
  | .expected e => some e

/-- The text a reader sees for a failure: `invalid` and the first label, `expected` and every
expectation, and the cause, each on a line of its own. -/
def Failure.message (f : Failure) : String :=
  let label := f.notes.findSome? Note.label?
  let expected := f.notes.filterMap Note.expected?
  let first := match label with
    | some l => ["invalid " ++ l]
    | none => []
  let second := if expected.isEmpty then []
    else ["expected " ++ ", ".intercalate (expected.map Expected.text)]
  let third := match f.cause with
    | some c => [c]
    | none => []
  "\n".intercalate (first ++ second ++ third)

namespace Scan

variable {α β : Type}

/-- A soft failure at `p`, without notes. -/
def failureAt (p : Nat) : Failure := ⟨false, p, [], none⟩

/-- The current position. -/
def position : Scan Nat := fun _ p => .ok (p, p)

/-- Fails softly here. -/
def fail : Scan α := fun _ p => .error (failureAt p)

/-- Fails here with a cause, committed or not. -/
def failWith (cut : Bool) (cause : String) : Scan α := fun _ p => .error ⟨cut, p, [], some cause⟩

/-- The next byte, without reading it. -/
def peekByte : Scan (Option UInt8) := fun src p => .ok (src[p]?, p)

/-- The next byte; fails at the end. -/
def anyByte : Scan UInt8 := fun src p =>
  match src[p]? with
  | some b => .ok (b, p + 1)
  | none => .error (failureAt p)

/-- The next byte when it satisfies `ok`; fails without reading otherwise. -/
def oneOf (ok : UInt8 → Bool) : Scan UInt8 := fun src p =>
  match src[p]? with
  | some b => if ok b then .ok (b, p + 1) else .error (failureAt p)
  | none => .error (failureAt p)

/-- The bytes `bs` stand at position `p`. -/
def standsAt (src : Array UInt8) (p : Nat) : List UInt8 → Bool
  | [] => true
  | b :: bs => src[p]? == some b && standsAt src (p + 1) bs

/-- The fixed bytes `bs`; fails without reading otherwise. -/
def literal (bs : List UInt8) : Scan Unit := fun src p =>
  if standsAt src p bs then .ok ((), p + bs.length) else .error (failureAt p)

/-- The fixed text `s`. -/
def text (s : String) : Scan Unit := literal s.toUTF8.toList

/-- How many bytes from `p` on satisfy `ok`, counting at most `limit`. -/
def countWhile (src : Array UInt8) (ok : UInt8 → Bool) (p : Nat) : Nat → Nat
  | 0 => 0
  | limit + 1 =>
    match src[p]? with
    | some b => if ok b then countWhile src ok (p + 1) limit + 1 else 0
    | none => 0

/-- The longest run of at most `hi` bytes satisfying `ok` (no bound when `hi` is none); fails
without reading when the run is shorter than `lo`. -/
def takeWhile (lo : Nat) (hi : Option Nat) (ok : UInt8 → Bool) : Scan (List UInt8) := fun src p =>
  let n := countWhile src ok p (hi.getD (src.size - p))
  if n < lo then .error (failureAt p) else .ok ((src.extract p (p + n)).toList, p + n)

/-- Succeeds only at the end of the bytes. -/
def atEnd : Scan Unit := fun src p =>
  if p < src.size then .error (failureAt p) else .ok ((), p)

/-- `s`, or nothing after a soft failure, which rewinds. -/
def opt (s : Scan α) : Scan (Option α) := fun src p =>
  match s src p with
  | .ok (a, q) => .ok (some a, q)
  | .error f => if f.cut then .error f else .ok (none, p)

/-- The first alternative that does not fail softly, each tried from the start; when all fail
softly, the failure of the last. -/
def firstOf : List (Scan α) → Scan α
  | [] => fail
  | [s] => s
  | s :: rest => fun src p =>
    match s src p with
    | .error f => if f.cut then .error f else firstOf rest src p
    | r => r

/-- Makes every failure of `s` committed. -/
def cut (s : Scan α) : Scan α := fun src p =>
  match s src p with
  | .error f => .error { f with cut := true }
  | r => r

/-- Adds a note to every failure of `s`. -/
def note (n : Note) (s : Scan α) : Scan α := fun src p =>
  match s src p with
  | .error f => .error { f with notes := f.notes ++ [n] }
  | r => r

/-- Adds a label to every failure of `s`. -/
def label (l : String) (s : Scan α) : Scan α := note (.label l) s

/-- Adds an expectation of one character to every failure of `s`. -/
def expecting (c : Char) (s : Scan α) : Scan α := note (.expected (.char c)) s

/-- `s` without reading: the position is restored whatever the outcome. -/
def peek (s : Scan α) : Scan α := fun src p =>
  match s src p with
  | .ok (a, _) => .ok (a, p)
  | .error f => .error { f with pos := p }

/-- `s`, when its value satisfies `ok`; a soft failure at the start otherwise. -/
def verify (s : Scan α) (ok : α → Bool) : Scan α := fun src p =>
  match s src p with
  | .ok (a, q) => if ok a then .ok (a, q) else .error (failureAt p)
  | .error f => .error f

/-- `s` followed by a conversion of its value; a failed conversion is a soft failure at the
start, caused by the conversion's error. -/
def tryMap (s : Scan α) (f : α → Except String β) : Scan β := fun src p =>
  match s src p with
  | .ok (a, q) =>
    match f a with
    | .ok b => .ok (b, q)
    | .error e => .error ⟨false, p, [], some e⟩
  | .error e => .error e

/-- `s` followed by a conversion of its value that may fail with a whole failure, which then
stands at the start. -/
def convert (s : Scan α) (f : α → Except Failure β) : Scan β := fun src p =>
  match s src p with
  | .ok (a, q) =>
    match f a with
    | .ok b => .ok (b, q)
    | .error e => .error { e with pos := p }
  | .error e => .error e

/-- The value of `s` with the byte range it read. -/
def spanned (s : Scan α) : Scan (α × Nat × Nat) := fun src p =>
  match s src p with
  | .ok (a, q) => .ok ((a, p, q), q)
  | .error f => .error f

/-- The bytes `s` read. -/
def taken (s : Scan α) : Scan (List UInt8) := fun src p =>
  match s src p with
  | .ok (_, q) => .ok ((src.extract p q).toList, q)
  | .error f => .error f

/-- `s` repeated at most `fuel` times, until it fails softly, which rewinds to the start of
that attempt; a committed failure ends it all.  An attempt that reads nothing ends it too. -/
def manyFuel (s : Scan α) : Nat → Scan (List α)
  | 0 => pure []
  | fuel + 1 => fun src p =>
    match s src p with
    | .ok (a, q) =>
      if q ≤ p then .ok ([a], q)
      else
        match manyFuel s fuel src q with
        | .ok (as, r) => .ok (a :: as, r)
        | .error f => .error f
    | .error f => if f.cut then .error f else .ok ([], p)

/-- `s` repeated while it reads something and does not fail softly. -/
def many (s : Scan α) : Scan (List α) := fun src p => manyFuel s (src.size - p + 1) src p

/-- `s` once, then repeated as by `many`. -/
def many1 (s : Scan α) : Scan (List α) := do
  let a ← s
  let as ← many s
  pure (a :: as)

/-- Further items, each after a separator, at most `fuel` of them: a soft failure of the
separator or of the item rewinds to before the separator and ends the list. -/
def moreFuel (s : Scan α) (sep : Scan β) : Nat → Scan (List α)
  | 0 => pure []
  | fuel + 1 => fun src p =>
    match sep src p with
    | .error f => if f.cut then .error f else .ok ([], p)
    | .ok (_, q) =>
      match s src q with
      | .error f => if f.cut then .error f else .ok ([], p)
      | .ok (a, r) =>
        if r ≤ p then .ok ([a], r)
        else
          match moreFuel s sep fuel src r with
          | .ok (as, t) => .ok (a :: as, t)
          | .error f => .error f

/-- One or more items with separators between them. -/
def sepBy1 (s : Scan α) (sep : Scan β) : Scan (List α) := do
  let a ← s
  let as ← fun src p => moreFuel s sep (src.size - p + 1) src p
  pure (a :: as)

/-- Zero or more items with separators between them: no items when the first fails softly,
which rewinds. -/
def sepBy (s : Scan α) (sep : Scan β) : Scan (List α) := do
  match ← opt s with
  | none => pure []
  | some a =>
    let as ← fun src p => moreFuel s sep (src.size - p + 1) src p
    pure (a :: as)

/-- Runs `s` over all of `src` from the start. -/
def run (s : Scan α) (src : Array UInt8) : Except Failure (α × Nat) := s src 0

end Scan

end EngineSdk.Toml
