import Mathlib
import EngineSdk.Proofs.TableSearch
import EngineSdk.Proofs.Utf8

/-!
# Listing a table

`Arena.dump` writes a table and the tables below it as a pre-order walk: a table's name, then
each of its properties, a data-table property followed by the listing of its table one level
further in, indented two more spaces.  It is compared here with a reference walk, `listing`,
that records for each line the data-table properties through which its table is reached (its
path), and does no arithmetic.

* The dump writes exactly the reference lines, each property with the sum of the data-table
  offsets along its path and its own, when every such sum fits 32 signed bits, and stops
  otherwise (`dump_eq_listing`).  Its running base is the sum taken from the outermost
  property in, so a sum that fits is the exact one.
* The reference walk has a table's name for each path of at most `maxDepth` data-table
  properties that leads to it, and a property for each such path that leads to its table
  (`mem_listing_iff`): the paths the property search follows, to the same depth.
* So a dump that completes shows each property the search finds, at the offset and with the
  type the search answers (`findProp_listed`), although the search sums the offsets from the
  innermost property out.
-/

namespace EngineSdk

/-- A name given as the bytes of a text is shown as that text. -/
theorem CString.shown_toUTF8 (n : String) : CString.shown (some n.toUTF8.toList) = n := by
  have hbytes : (⟨n.toUTF8.toList.toArray⟩ : ByteArray) = n.toUTF8 := by
    apply ByteArray.ext
    rw [ByteArray.toList, Utf8.byteArray_toList_loop]
    simp
  unfold CString.shown CString.text?
  rw [Option.bind_some, hbytes, String.fromUTF8?,
    dif_pos (show n.toUTF8.IsValidUTF8 from n.isValidUTF8)]
  rfl

namespace Netvar

theorem pathSum_nil (l : Property) : pathSum [] l = l.offset := by
  simp [pathSum]

theorem pathSum_cons (d : Property) (ds : List Property) (l : Property) :
  pathSum (d :: ds) l = d.offset + pathSum ds l
  := by
  simp only [pathSum, List.map_cons, List.sum_cons]
  omega

/-- One data-table property further out moves the base by its offset. -/
theorem add_pathSum_cons (base : Int) (d : Property) (ds : List Property) (l : Property) :
  base + pathSum (d :: ds) l = base + d.offset + pathSum ds l
  := by
  rw [pathSum_cons]
  omega

/-- What a line of a listing shows: a table's name, or a property of the table. -/
inductive ListedItem where
  | table (name : CString)
  | prop (p : Property)

/-- A line of a listing before it is written: what it shows, and the data-table properties,
outermost first, through which its table is reached from the listed table. -/
structure Listed where
  path : List Property
  item : ListedItem

/-- The table shown is `table`, or the property shown is one of its properties. -/
def ListedItem.In (table : Table) : ListedItem → Prop
  | .table name => table.name = name
  | .prop p => p ∈ table.props

namespace Listed

/-- The line seen from one data-table property further out. -/
def under (d : Property) (e : Listed) : Listed := ⟨d :: e.path, e.item⟩

/-- The text of the line in a listing that starts `depth` levels in, at offset `base`: the
indentation of its level, then its table's name, or the property's name, offset and type. -/
def textAt (depth : Nat) (base : Int) (e : Listed) : String :=
  let indent := String.join (List.replicate (depth + e.path.length) "  ")
  match e.item with
  | .table name => indent ++ name.shown
  | .prop p => indent ++ "  " ++ p.name.shown ++ " @ " ++
      Arena.offsetText (base + pathSum e.path p) ++ " (" ++ Arena.kindText p.kind ++ ")"

/-- The offset the line shows, if any, fits 32 signed bits in a listing that starts at offset
`base`. -/
def FitsFrom (base : Int) (e : Listed) : Prop :=
  match e.item with
  | .table _ => True
  | .prop p => FitsI32 (base + pathSum e.path p)

instance (base : Int) : DecidablePred (FitsFrom base) := fun e =>
  match e with
  | ⟨_, .table _⟩ => isTrue trivial
  | ⟨path, .prop p⟩ => inferInstanceAs (Decidable (FitsI32 (base + pathSum path p)))

/-- The line as the listing of a table writes it. -/
def line (e : Listed) : String := e.textAt 0 0

/-- The offset the line shows, if any, fits 32 signed bits. -/
def Fits (e : Listed) : Prop := e.FitsFrom 0

instance : DecidablePred Fits := fun e => inferInstanceAs (Decidable (e.FitsFrom 0))

theorem textAt_under (d : Property) (e : Listed) (depth : Nat) (base : Int) :
  (e.under d).textAt depth base = e.textAt (depth + 1) (base + d.offset)
  := by
  obtain ⟨path, item⟩ := e
  have hdepth : depth + (path.length + 1) = depth + 1 + path.length := by omega
  cases item with
  | table name => simp [textAt, under, hdepth]
  | prop p => simp only [textAt, under, List.length_cons, hdepth, add_pathSum_cons]

theorem fitsFrom_under (d : Property) (e : Listed) (base : Int) :
  (e.under d).FitsFrom base ↔ e.FitsFrom (base + d.offset)
  := by
  obtain ⟨path, item⟩ := e
  cases item with
  | table name => simp [FitsFrom, under]
  | prop p => simp only [FitsFrom, under, add_pathSum_cons]

end Listed

namespace Arena

variable (a : Arena)

/-- The lines of the listing of table `t`, at most `fuel` levels deep, in the order they are
written: the table's name, then each property, a data-table property followed by the lines of
its table one level further in. -/
def listingAt (a : Arena) : Nat → Nat → List Listed
  | 0, _ => []
  | fuel + 1, t =>
    match a.get? t with
    | none => []
    | some table =>
      ⟨[], .table table.name⟩ :: table.props.flatMap fun p =>
        ⟨[], .prop p⟩ :: p.child.toList.flatMap fun c => (a.listingAt fuel c).map (Listed.under p)

/-- The lines of the listing of a table. -/
def listing (t : Nat) : List Listed := a.listingAt (maxDepth + 1) t

/-- The data-table properties `ds` lead from table `t` down to table `c`, each in the table the
one before leads to. -/
inductive Reaches : Nat → List Property → Nat → Prop
  | here (t : Nat) : Reaches t [] t
  | down {t c u : Nat} {table : Table} {d : Property} {ds : List Property} :
      a.get? t = some table → d ∈ table.props → d.child = some c → Reaches c ds u →
      Reaches t (d :: ds) u

/-- The line belongs in the listing of table `t`: its path leads from `t` to a table that is
there, and that it names or of which it shows a property. -/
def Locates (t : Nat) (e : Listed) : Prop :=
  ∃ c table, a.Reaches t e.path c ∧ a.get? c = some table ∧ e.item.In table

variable {a}

theorem reaches_nil_iff {t c : Nat} : a.Reaches t [] c ↔ c = t := by
  constructor
  · rintro ⟨⟩
    rfl
  · rintro rfl
    exact .here _

theorem reaches_cons_iff {t u : Nat} {d : Property} {ds : List Property} :
  a.Reaches t (d :: ds) u ↔
    ∃ table c, a.get? t = some table ∧ d ∈ table.props ∧ d.child = some c ∧ a.Reaches c ds u
  := by
  constructor
  · rintro (_ | ⟨htable, hd, hchild, hrest⟩)
    exact ⟨_, _, htable, hd, hchild, hrest⟩
  · rintro ⟨table, c, htable, hd, hchild, hrest⟩
    exact .down htable hd hchild hrest

theorem locates_nil_iff {t : Nat} {table : Table} (htable : a.get? t = some table)
    (item : ListedItem) : a.Locates t ⟨[], item⟩ ↔ item.In table
  := by
  simp only [Locates, reaches_nil_iff]
  constructor
  · rintro ⟨c, table', rfl, hget, hin⟩
    obtain rfl : table' = table := Option.some_injective _ (hget.symm.trans htable)
    exact hin
  · intro hin
    exact ⟨t, table, rfl, htable, hin⟩

theorem locates_under_iff {t : Nat} {table : Table} (htable : a.get? t = some table)
    (d : Property) (e : Listed) :
  a.Locates t (e.under d) ↔ d ∈ table.props ∧ ∃ c, d.child = some c ∧ a.Locates c e
  := by
  simp only [Locates, Listed.under, reaches_cons_iff]
  constructor
  · rintro ⟨u, table'', ⟨table', c, hget, hd, hchild, hrest⟩, hgetu, hin⟩
    obtain rfl : table' = table := Option.some_injective _ (hget.symm.trans htable)
    exact ⟨hd, c, hchild, u, table'', hrest, hgetu, hin⟩
  · rintro ⟨hd, c, hchild, u, table'', hrest, hgetu, hin⟩
    exact ⟨u, table'', ⟨table, c, htable, hd, hchild, hrest⟩, hgetu, hin⟩

theorem not_locates_of_get?_eq_none {t : Nat} (htable : a.get? t = none) (e : Listed) :
  ¬ a.Locates t e
  := by
  obtain ⟨path, item⟩ := e
  rintro ⟨c, table, hreach, hget, -⟩
  cases path with
  | nil =>
    rw [reaches_nil_iff.1 hreach, htable] at hget
    cases hget
  | cons d ds =>
    obtain ⟨table', c', hget', -⟩ := reaches_cons_iff.1 hreach
    rw [htable] at hget'
    cases hget'

/-- A property search's path is a listed line's. -/
theorem leads_iff_locates {t : Nat} {ds : List Property} {l : Property} :
  a.Leads t ds l ↔ a.Locates t ⟨ds, .prop l⟩
  := by
  induction ds generalizing t with
  | nil =>
    constructor
    · intro h
      cases h with
      | here htable hl => exact ⟨t, _, .here t, htable, hl⟩
    · rintro ⟨c, table, hreach, hget, hl⟩
      obtain rfl := reaches_nil_iff.1 hreach
      exact .here hget hl
  | cons d ds ih =>
    constructor
    · intro h
      cases h with
      | down htable hd hchild hrest =>
        obtain ⟨u, table', hreach, hget, hl⟩ := ih.1 hrest
        exact ⟨u, table', .down htable hd hchild hreach, hget, hl⟩
    · rintro ⟨u, table', hreach, hget, hl⟩
      obtain ⟨table, c, htable, hd, hchild, hrest⟩ := reaches_cons_iff.1 hreach
      exact .down htable hd hchild (ih.2 ⟨u, table', hrest, hget, hl⟩)

variable (a)

/-- The walk lists exactly the lines whose path has fewer data-table properties than the
levels it goes down, and leads to the table the line belongs to. -/
theorem mem_listingAt_iff (fuel t : Nat) (e : Listed) :
  e ∈ a.listingAt fuel t ↔ e.path.length < fuel ∧ a.Locates t e
  := by
  induction fuel generalizing t e with
  | zero => simp [listingAt]
  | succ fuel ih =>
    rw [listingAt]
    cases htable : a.get? t with
    | none => simp [not_locates_of_get?_eq_none htable e]
    | some table =>
      dsimp only
      obtain ⟨path, item⟩ := e
      cases path with
      | nil =>
        rw [locates_nil_iff htable]
        cases item with
        | table name =>
          simp [ListedItem.In, Listed.under, eq_comm]
        | prop p =>
          simp [ListedItem.In, Listed.under]
      | cons d ds =>
        have hunder : (⟨d :: ds, item⟩ : Listed) = Listed.under d ⟨ds, item⟩ := rfl
        rw [hunder, locates_under_iff htable]
        simp only [List.mem_cons, List.mem_flatMap, List.mem_map, Option.mem_toList]
        constructor
        · rintro (h | ⟨p, hp, h | ⟨c, hc, e', he', heq⟩⟩)
          · cases h
          · cases h
          · obtain ⟨rfl, rfl⟩ : p = d ∧ e' = ⟨ds, item⟩ := by
              cases e'
              simp only [Listed.under, Listed.mk.injEq, List.cons.injEq] at heq
              exact ⟨heq.1.1, by rw [heq.1.2, heq.2]⟩
            obtain ⟨hlen, hloc⟩ := (ih c _).1 he'
            exact ⟨Nat.succ_lt_succ hlen, hp, c, hc, hloc⟩
        · rintro ⟨hlen, hd, c, hc, hloc⟩
          exact .inr ⟨d, hd, .inr ⟨c, hc, ⟨ds, item⟩,
            (ih c _).2 ⟨Nat.lt_of_succ_lt_succ hlen, hloc⟩, rfl⟩⟩

/-- Writing the properties of a table in turn: when each property's step writes its lines
after what is written so far, or stops, the whole is written unless some line stops it. -/
theorem foldlM_lines (entries : Property → List Listed) (P : Listed → Prop) [DecidablePred P]
    (text : Listed → String) {step : List String → Property → Except Panic (List String)}
    (hstep : ∀ acc p, step acc p =
      if ∀ e ∈ entries p, P e then .ok (acc ++ (entries p).map text) else .error .addOverflow)
    (ps : List Property) (acc : List String) :
  ps.foldlM step acc =
    if ∀ e ∈ ps.flatMap entries, P e then .ok (acc ++ (ps.flatMap entries).map text)
    else .error .addOverflow
  := by
  induction ps generalizing acc with
  | nil => simp [pure, Except.pure]
  | cons p ps ih =>
    rw [List.foldlM_cons, hstep]
    by_cases hp : ∀ e ∈ entries p, P e
    · rw [if_pos hp]
      show ps.foldlM step (acc ++ (entries p).map text) = _
      rw [ih]
      simp only [List.flatMap_cons, List.forall_mem_append, and_iff_right hp, List.map_append,
        List.append_assoc]
    · rw [if_neg hp, if_neg fun h => hp fun e he => h e (List.mem_append_left _ he)]
      rfl

/-- The dump of table `t` from level `depth` and offset `base` writes the lines of the walk,
when every offset shown fits, and stops otherwise. -/
theorem dumpAt_eq (fuel depth t : Nat) (base : Int) :
  a.dumpAt fuel depth t base =
    if ∀ e ∈ a.listingAt fuel t, e.FitsFrom base then
      .ok ((a.listingAt fuel t).map (Listed.textAt depth base))
    else .error .addOverflow
  := by
  induction fuel generalizing depth t base with
  | zero => simp [dumpAt, listingAt]
  | succ fuel ih =>
    rw [dumpAt, listingAt]
    cases a.get? t with
    | none => simp
    | some table =>
      dsimp only
      rw [foldlM_lines (fun p => ⟨[], .prop p⟩ ::
          p.child.toList.flatMap fun c => (a.listingAt fuel c).map (Listed.under p))
        (Listed.FitsFrom base) (Listed.textAt depth base) (fun acc p => ?_)]
      · have hname : (⟨[], .table table.name⟩ : Listed).textAt depth base =
            String.join (List.replicate depth "  ") ++ table.name.shown := by
          simp [Listed.textAt]
        have htrue : (⟨[], .table table.name⟩ : Listed).FitsFrom base := trivial
        rw [List.map_cons, hname]
        simp only [List.forall_mem_cons, htrue, true_and, List.singleton_append]
      rw [Panic.addSigned_32]
      have hown : (⟨[], .prop p⟩ : Listed).FitsFrom base ↔ FitsI32 (base + p.offset) := by
        simp [Listed.FitsFrom, pathSum_nil]
      have hline : (⟨[], .prop p⟩ : Listed).textAt depth base =
          String.join (List.replicate depth "  ") ++ "  " ++ p.name.shown ++ " @ " ++
            offsetText (base + p.offset) ++ " (" ++ kindText p.kind ++ ")" := by
        simp [Listed.textAt, pathSum_nil]
      have hunder : Listed.textAt depth base ∘ Listed.under p =
          Listed.textAt (depth + 1) (base + p.offset) :=
        funext fun e => Listed.textAt_under p e depth base
      by_cases hfit : FitsI32 (base + p.offset)
      · cases hc : p.child with
        | none =>
          simp [hfit, hown, hline, bind, Except.bind]
        | some c =>
          simp only [hfit, if_true, ih, bind, Except.bind, Option.toList_some,
            List.flatMap_singleton, List.forall_mem_cons, hown, true_and, List.forall_mem_map,
            Listed.fitsFrom_under, List.map_cons, List.map_map, hunder, hline]
          split_ifs <;> simp
      · simp [hfit, hown, bind, Except.bind]

/-- The dump of a table writes the lines of its listing when every offset shown fits, and stops
otherwise. -/
theorem dump_eq_listing (t : Nat) :
  a.dump (some t) =
    if ∀ e ∈ a.listing t, e.Fits then .ok ((a.listing t).map Listed.line)
    else .error .addOverflow
  :=
  a.dumpAt_eq (maxDepth + 1) 0 t 0

theorem mem_listing_iff (t : Nat) (e : Listed) :
  e ∈ a.listing t ↔ e.path.length ≤ maxDepth ∧ a.Locates t e
  := by
  rw [listing, mem_listingAt_iff, Nat.lt_succ_iff]

/-- A property the search finds lies along a path it picked, at the exact sum of the offsets
along it. -/
theorem findProp_eq_ok_some {t : Nat} {prop : List UInt8} {o : PropOffset}
    (h : a.findProp (some t) prop = .ok (some o)) :
  ∃ ds l, a.Leads t ds l ∧ ds.length ≤ maxDepth ∧ l.name = some prop ∧
    o = ⟨pathSum ds l, l.kind⟩
  := by
  rw [findProp, findPropAt_eq_answer] at h
  cases hchoose : a.choose prop (maxDepth + 1) t with
  | none =>
    rw [hchoose] at h
    cases h
  | some r =>
    obtain ⟨ds, l⟩ := r
    rw [hchoose, answer, pathOffset_eq] at h
    obtain ⟨hleads, hlen, hname⟩ := a.leads_of_choose hchoose
    have hprop : l.name = some prop := by
      cases hl : l.name with
      | none => simp [hl, CString.sameAs] at hname
      | some bytes => simpa [hl, CString.sameAs] using hname
    split_ifs at h
    · cases h
    · simp only [Except.map, Except.ok.injEq, Option.some.injEq] at h
      exact ⟨ds, l, hleads, by omega, hprop, h.symm⟩

/-- A dump that completes shows each property the search finds, named as searched, at the offset
and with the type the search answers, indented two spaces per level below the table. -/
theorem findProp_listed {t : Nat} {n : String} {o : PropOffset} {lines : List String}
    (hdump : a.dump (some t) = .ok lines) (hfind : a.findProp (some t) n.toUTF8.toList = .ok (some o)) :
  ∃ k ≤ maxDepth, String.join (List.replicate k "  ") ++ "  " ++ n ++ " @ " ++
    offsetText o.offset ++ " (" ++ kindText o.kind ++ ")" ∈ lines
  := by
  obtain ⟨ds, l, hleads, hlen, hname, rfl⟩ := a.findProp_eq_ok_some hfind
  rw [dump_eq_listing] at hdump
  split_ifs at hdump
  cases hdump
  have hmem : (⟨ds, .prop l⟩ : Listed) ∈ a.listing t :=
    (a.mem_listing_iff t _).2 ⟨hlen, leads_iff_locates.1 hleads⟩
  refine ⟨ds.length, hlen, ?_⟩
  have hline : Listed.line ⟨ds, .prop l⟩ ∈ (a.listing t).map Listed.line :=
    List.mem_map_of_mem hmem
  have htext : Listed.line ⟨ds, .prop l⟩ = String.join (List.replicate ds.length "  ") ++ "  " ++
      n ++ " @ " ++ offsetText (pathSum ds l) ++ " (" ++ kindText l.kind ++ ")" := by
    simp only [Listed.line, Listed.textAt, hname, CString.shown_toUTF8, zero_add]
  rw [htext] at hline
  exact hline

/-- The dump of a table agrees with the property search.  It writes, when every offset it shows
fits 32 signed bits and otherwise stops, the lines of a pre-order walk: a table's name, then
each property with its offset and type, a data-table property followed by its table's lines one
level further in, each line indented two spaces per level.  A property's offset is the sum of
the data-table offsets along its path and its own.  The walk has a name line for each path of at
most `maxDepth` data-table properties to a table, and a property line for each such path to the
property's table, the same paths the search follows; so when the dump completes, each property
the search finds has a line with its name and the offset and type the search answers. -/
theorem dump_agrees_with_findProp :
  (∀ t, a.dump (some t) =
    if ∀ e ∈ a.listing t, e.Fits then .ok ((a.listing t).map Listed.line)
    else .error .addOverflow) ∧
  (∀ t e, e ∈ a.listing t ↔ e.path.length ≤ maxDepth ∧ a.Locates t e) ∧
  (∀ t ds l, a.Leads t ds l ↔ a.Locates t ⟨ds, .prop l⟩) ∧
  ∀ (t : Nat) (n : String) (o : PropOffset) (lines : List String),
    a.dump (some t) = .ok lines → a.findProp (some t) n.toUTF8.toList = .ok (some o) →
    ∃ k ≤ maxDepth, String.join (List.replicate k "  ") ++ "  " ++ n ++ " @ " ++
      offsetText o.offset ++ " (" ++ kindText o.kind ++ ")" ∈ lines
  :=
  ⟨a.dump_eq_listing, a.mem_listing_iff, fun _ _ _ => leads_iff_locates,
    fun _ _ _ _ hdump hfind => a.findProp_listed hdump hfind⟩

/-- A table whose data-table property `b` at offset 4 leads to a table with the integer `x` at
offset 8: the dump shows `x` at `0xc` one level in, where the search finds it. -/
theorem dump_shows_found_nested_prop :
  let a : Arena :=
    ⟨[⟨some [84], [⟨some [98], 6, 4, some 1⟩]⟩, ⟨some [85], [⟨some [120], 0, 8, none⟩]⟩]⟩
  let lines := ["T", "  b @ 0x4 (Some(DataTable))", "  U", "    x @ 0xc (Some(Int))"]
  a.dump (some 0) = .ok lines ∧
    a.findProp (some 0) "x".toUTF8.toList = .ok (some ⟨12, some .int⟩) ∧
    ∃ k ≤ maxDepth, String.join (List.replicate k "  ") ++ "  " ++ "x" ++ " @ " ++
      offsetText 12 ++ " (" ++ kindText (some .int) ++ ")" ∈ lines
  := by
  intro a lines
  have hdump : a.dump (some 0) = .ok lines := by decide
  have hbytes : "x".toUTF8.toList = [120] := by
    rw [Utf8.toList_toUTF8]
    decide
  have hfind : a.findProp (some 0) "x".toUTF8.toList = .ok (some ⟨12, some .int⟩) := by
    rw [hbytes]
    decide
  exact ⟨hdump, hfind,
    (dump_agrees_with_findProp a).2.2.2 0 "x" ⟨12, some .int⟩ lines hdump hfind⟩

end Arena

end Netvar

end EngineSdk
