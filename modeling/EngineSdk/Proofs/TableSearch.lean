import Mathlib
import EngineSdk.Netvar.Table

/-!
# Searching the table graph

Tables refer to their nested tables by index, so they form a graph that may have cycles.  Both
searches over it go a bounded number of levels deep, and each is compared here with a
reference that says in other terms what it finds.

* `findTable` answers the first table of the name in `tableOrder`: the classes' own tables in
  list order, then for each class the tables met by a pre-order walk below its table
  (`below`), each nested table met before the ones below it.  The walk meets exactly the tables
  one to `maxDepth + 1` data-table steps below a class table (`mem_below_iff`), so every answer
  is a table of the name reachable from the classes (`findTable_first_in_tableOrder`).
* `findPropAt` answers along the path that `choose` picks: a property of the table itself if
  one has the name, and otherwise the first nested table, in property order, below which the
  name is found.  The answer is the leaf's type with the offsets summed along the path; the sums
  are taken from the innermost out in 32-bit signed arithmetic, and the search stops exactly
  when one of these partial sums leaves the range (`findProp_answers_chosen_path`).
-/

namespace EngineSdk

/-- The value fits a 32-bit signed integer. -/
def FitsI32 (v : Int) : Prop := -2147483648 ≤ v ∧ v < 2147483648

instance : DecidablePred FitsI32 := fun _ => inferInstanceAs (Decidable (_ ∧ _))

theorem Panic.addSigned_32 (x y : Int) :
  Panic.addSigned 32 x y = if FitsI32 (x + y) then .ok (x + y) else .error .addOverflow
  := by
  have hbound : Nat.pow 2 (32 - 1) = 2147483648 := rfl
  simp only [Panic.addSigned, hbound]
  by_cases h : FitsI32 (x + y)
  · rw [if_pos h, if_neg (by unfold FitsI32 at h; omega)]
  · rw [if_neg h, if_pos (by unfold FitsI32 at h; omega)]

namespace Netvar

/-! ### Offsets along a path -/

/-- The exact offset of a leaf property below the data-table properties `ds`. -/
def pathSum (ds : List Property) (l : Property) : Int := (ds.map (·.offset)).sum + l.offset

/-- The offset of a leaf property below the data-table properties `ds`, as the search sums it:
from the innermost out, each sum in 32-bit signed arithmetic. -/
def pathOffset : List Property → Property → Except Panic Int
  | [], l => .ok l.offset
  | d :: ds, l => (pathOffset ds l).bind (Panic.addSigned 32 d.offset)

/-- The sums stay in range, and give the exact offset, unless one of the partial sums, from a
data-table property down to the leaf, leaves the range. -/
theorem pathOffset_eq (ds : List Property) (l : Property) :
  pathOffset ds l =
    if ∃ i < ds.length, ¬ FitsI32 (pathSum (ds.drop i) l) then .error .addOverflow
    else .ok (pathSum ds l)
  := by
  induction ds with
  | nil => simp [pathOffset, pathSum]
  | cons d ds ih =>
    have hsum : pathSum (d :: ds) l = d.offset + pathSum ds l := by
      simp only [pathSum, List.map_cons, List.sum_cons]
      omega
    have hsplit : (∃ i < (d :: ds).length, ¬ FitsI32 (pathSum ((d :: ds).drop i) l)) ↔
        (∃ i < ds.length, ¬ FitsI32 (pathSum (ds.drop i) l)) ∨ ¬ FitsI32 (pathSum (d :: ds) l) := by
      constructor
      · rintro ⟨i, hi, hfit⟩
        cases i with
        | zero => exact .inr hfit
        | succ i => exact .inl ⟨i, by simpa using hi, hfit⟩
      · rintro (⟨i, hi, hfit⟩ | hfit)
        · exact ⟨i + 1, by simpa using hi, hfit⟩
        · exact ⟨0, by simp, hfit⟩
    rw [pathOffset, ih]
    by_cases hinner : ∃ i < ds.length, ¬ FitsI32 (pathSum (ds.drop i) l)
    · rw [if_pos hinner, if_pos (hsplit.2 (.inl hinner))]
      rfl
    · rw [if_neg hinner]
      show Panic.addSigned 32 d.offset (pathSum ds l) = _
      rw [Panic.addSigned_32, ← hsum]
      by_cases hfit : FitsI32 (pathSum (d :: ds) l)
      · rw [if_pos hfit, if_neg fun h => (hsplit.1 h).elim hinner (· hfit)]
      · rw [if_neg hfit, if_pos (hsplit.2 (.inr hfit))]

/-- What the search answers for a picked path: nothing without one, and otherwise the leaf's
type at the offset summed along the path. -/
def answer : Option (List Property × Property) → Except Panic (Option PropOffset)
  | none => .ok none
  | some (ds, l) => (pathOffset ds l).map fun o => some ⟨o, l.kind⟩

theorem answer_ne_ok_none (r : List Property × Property) : answer (some r) ≠ .ok none := by
  obtain ⟨ds, l⟩ := r
  rcases h : pathOffset ds l with e | o <;> simp [answer, h, Except.map]

/-- A fold whose step passes on what an earlier element found. -/
theorem foldlM_found {step : Option PropOffset → Property → Except Panic (Option PropOffset)}
    (hkeep : ∀ f p, step (some f) p = .ok (some f)) (f : PropOffset) :
    ∀ ps : List Property, ps.foldlM step (some f) = .ok (some f)
  | [] => rfl
  | p :: ps => by
    rw [List.foldlM_cons, hkeep]
    exact foldlM_found hkeep f ps

/-- A fold over the properties whose step, from nothing, answers the path `g` picks through
each property, and passes on what an earlier property found, answers the first path picked. -/
theorem foldlM_eq_answer {step : Option PropOffset → Property → Except Panic (Option PropOffset)}
    {g : Property → Option (List Property × Property)}
    (hkeep : ∀ f p, step (some f) p = .ok (some f)) (hstep : ∀ p, step none p = answer (g p)) :
    ∀ ps : List Property, ps.foldlM step none = answer (ps.findSome? g)
  | [] => rfl
  | p :: ps => by
    rw [List.foldlM_cons, hstep, List.findSome?_cons]
    cases hg : g p with
    | none => exact foldlM_eq_answer hkeep hstep ps
    | some r =>
      dsimp only
      cases hr : answer (some r) with
      | error e => rfl
      | ok o =>
        cases o with
        | none => exact absurd hr (answer_ne_ok_none r)
        | some f => exact foldlM_found hkeep f ps

namespace Arena

variable (a : Arena)

/-! ### The graph -/

/-- Table `c` is the nested table of a data-table property of table `t`. -/
def Child (t c : Nat) : Prop :=
  ∃ table, a.get? t = some table ∧ ∃ p ∈ table.props, p.child = some c

/-- Table `c` lies `n` data-table steps below table `t`. -/
inductive Descends : Nat → Nat → Nat → Prop
  | refl (t : Nat) : Descends 0 t t
  | child {n t u c : Nat} : a.Child t u → Descends n u c → Descends (n + 1) t c

variable {a}

theorem descends_zero_iff {t c : Nat} : a.Descends 0 t c ↔ t = c := by
  constructor
  · rintro ⟨⟩
    rfl
  · rintro rfl
    exact .refl t

theorem descends_succ_iff {n t c : Nat} :
  a.Descends (n + 1) t c ↔ ∃ u, a.Child t u ∧ a.Descends n u c
  := by
  constructor
  · rintro (_ | ⟨hchild, hrest⟩)
    exact ⟨_, hchild, hrest⟩
  · rintro ⟨u, hchild, hrest⟩
    exact .child hchild hrest

variable (a)

/-- The table at index `t` is there and its name is `name`, byte for byte. -/
def named (name : List UInt8) (t : Nat) : Bool :=
  ((a.get? t).map (·.name.sameAs name)).getD false

theorem named_iff {name : List UInt8} {t : Nat} :
  a.named name t = true ↔ ∃ table, a.get? t = some table ∧ table.name = some name
  := by
  unfold named
  cases a.get? t with
  | none => simp
  | some table =>
    cases hname : table.name with
    | none => simp [hname, CString.sameAs]
    | some bytes => simp [hname, CString.sameAs]

/-! ### Finding a table by name -/

/-- The nested tables a walk meets below table `t` when it scans the properties of the tables
less than `fuel` levels below `t`: for each data-table property in order, its table, then the
tables met below that one. -/
def below : Nat → Nat → List Nat
  | 0, _ => []
  | fuel + 1, t =>
    match a.get? t with
    | none => []
    | some table =>
      table.props.flatMap fun p =>
        match p.child with
        | none => []
        | some c => c :: below fuel c

/-- The order in which tables are considered by name: the classes' own tables in list order,
then the tables met below each class's table in turn. -/
def tableOrder (classes : List ClientClass) : List Nat :=
  let tops := classes.filterMap (·.table)
  tops ++ tops.flatMap (a.below (maxDepth + 1))

/-- The walk meets exactly the tables one to `fuel` steps below its start. -/
theorem mem_below_iff (fuel t c : Nat) :
  c ∈ a.below fuel t ↔ ∃ n, n < fuel ∧ a.Descends (n + 1) t c
  := by
  induction fuel generalizing t with
  | zero => simp [below]
  | succ fuel ih =>
    simp only [below]
    cases htable : a.get? t with
    | none =>
      simp only [List.not_mem_nil, false_iff]
      rintro ⟨n, -, hdesc⟩
      obtain ⟨u, ⟨table, hget, -⟩, -⟩ := descends_succ_iff.1 hdesc
      simp [htable] at hget
    | some table =>
      simp only [List.mem_flatMap]
      constructor
      · rintro ⟨p, hp, hc⟩
        cases hchild : p.child with
        | none => simp [hchild] at hc
        | some u =>
          have hedge : a.Child t u := ⟨table, htable, p, hp, hchild⟩
          simp only [hchild, List.mem_cons] at hc
          rcases hc with rfl | hc
          · exact ⟨0, by omega, .child hedge (.refl c)⟩
          · obtain ⟨n, hn, hdesc⟩ := (ih u).1 hc
            exact ⟨n + 1, by omega, .child hedge hdesc⟩
      · rintro ⟨n, hn, hdesc⟩
        obtain ⟨u, ⟨table', hget, p, hp, hchild⟩, hrest⟩ := descends_succ_iff.1 hdesc
        obtain rfl : table' = table := Option.some_injective _ (hget.symm.trans htable)
        refine ⟨p, hp, ?_⟩
        simp only [hchild, List.mem_cons]
        cases n with
        | zero => exact .inl (descends_zero_iff.1 hrest).symm
        | succ n => exact .inr ((ih u).2 ⟨n, by omega, hrest⟩)

/-- The nested search below a table is the first table of the name met by the walk. -/
theorem findNested_eq_find?_below (name : List UInt8) (fuel t : Nat) :
  a.findNested name fuel t = (a.below fuel t).find? (a.named name)
  := by
  induction fuel generalizing t with
  | zero => rfl
  | succ fuel ih =>
    simp only [findNested, below]
    cases a.get? t with
    | none => rfl
    | some table =>
      simp only [List.find?_flatMap]
      congr 1
      funext p
      cases p.child with
      | none => rfl
      | some c =>
        rw [List.find?_cons, ← ih c]
        show (if a.named name c = true then _ else _) = _
        cases a.named name c <;> rfl

/-- The classes' own tables are searched first, in list order. -/
theorem findSome?_top_eq_find? (name : List UInt8) (classes : List ClientClass) :
  (classes.findSome? fun c =>
      c.table.bind fun t =>
        if ((a.get? t).map (·.name.sameAs name)).getD false then some t else none) =
    (classes.filterMap (·.table)).find? (a.named name)
  := by
  induction classes with
  | nil => rfl
  | cons cl classes ih =>
    cases htop : cl.table with
    | none => simp [htop, ih]
    | some t =>
      cases hname : a.named name t
      · have hinline : ((a.get? t).map (·.name.sameAs name)).getD false = false := hname
        simp [htop, hname, hinline, ih]
      · have hinline : ((a.get? t).map (·.name.sameAs name)).getD false = true := hname
        simp [htop, hname, hinline]

/-- The nested search runs over the classes that have a table. -/
theorem findSome?_filterMap_table {β : Type} (f : Nat → Option β) (classes : List ClientClass) :
  (classes.filterMap (·.table)).findSome? f = classes.findSome? fun c => c.table.bind f
  := by
  induction classes with
  | nil => rfl
  | cons cl classes ih =>
    cases htop : cl.table with
    | none => simp [htop, ih]
    | some t => simp [htop, ih, List.findSome?_cons]

/-- `findTable` answers the first table of the name in `tableOrder`. -/
theorem findTable_eq_find?_tableOrder (classes : List ClientClass) (name : List UInt8) :
  a.findTable classes name = (a.tableOrder classes).find? (a.named name)
  := by
  unfold findTable
  rw [a.findSome?_top_eq_find? name classes, tableOrder, List.find?_append, List.find?_flatMap]
  cases (classes.filterMap (·.table)).find? (a.named name) with
  | some t => rfl
  | none =>
    simp only [Option.none_or, ← findNested_eq_find?_below]
    exact (findSome?_filterMap_table _ classes).symm

/-- Every table in the order is a class's table or lies at most `maxDepth + 1` steps below
one. -/
theorem reachable_of_mem_tableOrder {classes : List ClientClass} {t : Nat}
    (h : t ∈ a.tableOrder classes) :
  ∃ cl ∈ classes, ∃ top, cl.table = some top ∧ ∃ n ≤ maxDepth + 1, a.Descends n top t
  := by
  simp only [tableOrder, List.mem_append, List.mem_flatMap, List.mem_filterMap] at h
  rcases h with ⟨cl, hcl, htop⟩ | ⟨top, ⟨cl, hcl, htop⟩, hbelow⟩
  · exact ⟨cl, hcl, t, htop, 0, by omega, .refl t⟩
  · obtain ⟨n, hn, hdesc⟩ := (a.mem_below_iff _ _ _).1 hbelow
    exact ⟨cl, hcl, top, htop, n + 1, by omega, hdesc⟩

/-- Finding a table by name: the answer is the first table of the name among the classes' own
tables, and otherwise among the tables met by the pre-order walks below them in class order,
each walk meeting exactly the tables one to `maxDepth + 1` levels down; so every answer is a
table of that name reachable from a class within `maxDepth + 1` steps. -/
theorem findTable_first_in_tableOrder (classes : List ClientClass) (name : List UInt8) :
  a.findTable classes name = (a.tableOrder classes).find? (a.named name) ∧
  (∀ t c, c ∈ a.below (maxDepth + 1) t ↔ ∃ n, n < maxDepth + 1 ∧ a.Descends (n + 1) t c) ∧
  ∀ t, a.findTable classes name = some t →
    (∃ table, a.get? t = some table ∧ table.name = some name) ∧
    ∃ cl ∈ classes, ∃ top, cl.table = some top ∧ ∃ n ≤ maxDepth + 1, a.Descends n top t
  := by
  have hfind := a.findTable_eq_find?_tableOrder classes name
  refine ⟨hfind, a.mem_below_iff _, fun t ht => ?_⟩
  rw [hfind] at ht
  exact ⟨(a.named_iff).1 (List.find?_some ht),
    a.reachable_of_mem_tableOrder (List.mem_of_find?_eq_some ht)⟩


/-! ### Finding a property by name -/

/-- The property a search for `prop` picks in table `t`, looking at most `fuel` levels down,
with the data-table properties passed on the way, outermost first: a property of the table of
that name if there is one, and otherwise the first data-table property, in property order,
below whose table the search picks something. -/
def choose (prop : List UInt8) : Nat → Nat → Option (List Property × Property)
  | 0, _ => none
  | fuel + 1, t =>
    match a.get? t with
    | none => none
    | some table =>
      match table.props.find? (·.name.sameAs prop) with
      | some p => some ([], p)
      | none =>
        table.props.findSome? fun p =>
          p.child.bind fun c => (choose prop fuel c).map fun r => (p :: r.1, r.2)

/-- The data-table properties `ds` lead down from table `t`, each in the table the one before
leads to, and `l` is a property of the table they end at. -/
inductive Leads : Nat → List Property → Property → Prop
  | here {t : Nat} {table : Table} {l : Property} :
      a.get? t = some table → l ∈ table.props → Leads t [] l
  | down {t c : Nat} {table : Table} {d l : Property} {ds : List Property} :
      a.get? t = some table → d ∈ table.props → d.child = some c → Leads c ds l →
      Leads t (d :: ds) l

/-- The search answers along the path `choose` picks. -/
theorem findPropAt_eq_answer (prop : List UInt8) (fuel t : Nat) :
  a.findPropAt prop fuel t = answer (a.choose prop fuel t)
  := by
  induction fuel generalizing t with
  | zero => rfl
  | succ fuel ih =>
    rw [findPropAt.eq_2, choose]
    cases a.get? t with
    | none => rfl
    | some table =>
      dsimp only
      cases table.props.find? (·.name.sameAs prop) with
      | some p => rfl
      | none =>
        apply foldlM_eq_answer
        · intro f p
          rfl
        · intro p
          cases p.child with
          | none => rfl
          | some c =>
            rw [Option.bind_some]
            dsimp only
            rw [ih c]
            rcases a.choose prop fuel c with _ | ⟨ds, l⟩
            · rfl
            · simp only [answer, Option.map_some, pathOffset]
              rcases pathOffset ds l with e | o
              · rfl
              · show Panic.addSigned 32 p.offset o >>= _ =
                  Except.map _ (Panic.addSigned 32 p.offset o)
                rcases Panic.addSigned 32 p.offset o with e | off <;> rfl

/-- A picked path leads down from the table, through fewer data-table properties than the
levels searched, to a property of the name. -/
theorem leads_of_choose {prop : List UInt8} {fuel t : Nat} {ds : List Property} {l : Property}
    (h : a.choose prop fuel t = some (ds, l)) :
  a.Leads t ds l ∧ ds.length < fuel ∧ l.name.sameAs prop = true
  := by
  induction fuel generalizing t ds with
  | zero => simp [choose] at h
  | succ fuel ih =>
    simp only [choose] at h
    cases htable : a.get? t with
    | none => simp [htable] at h
    | some table =>
      simp only [htable] at h
      cases hfind : table.props.find? (·.name.sameAs prop) with
      | some p =>
        simp only [hfind, Option.some.injEq, Prod.mk.injEq] at h
        obtain ⟨rfl, rfl⟩ := h
        have hname := List.find?_some hfind
        exact ⟨.here htable (List.mem_of_find?_eq_some hfind), by simp, hname⟩
      | none =>
        simp only [hfind] at h
        obtain ⟨d, hd, hpick⟩ := List.exists_of_findSome?_eq_some h
        cases hchild : d.child with
        | none => simp [hchild] at hpick
        | some c =>
          simp only [hchild, Option.bind_some, Option.map_eq_some_iff] at hpick
          obtain ⟨⟨ds', l'⟩, hinner, hpath⟩ := hpick
          simp only [Prod.mk.injEq] at hpath
          obtain ⟨rfl, rfl⟩ := hpath
          obtain ⟨hleads, hlen, hname⟩ := ih hinner
          exact ⟨.down htable hd hchild hleads, by simpa using hlen, hname⟩

/-- Looking a property up answers along the path `choose` picks, searching `maxDepth + 1`
levels: nothing without a table or a path; otherwise the leaf's type at the offset summed
along the path, unless one of the partial sums from a data-table property down to the leaf
leaves the 32-bit range, which stops the call.  A picked path leads down from the table through
at most `maxDepth` data-table properties to a property of the name. -/
theorem findProp_answers_chosen_path (t : Option Nat) (prop : List UInt8) :
    a.findProp t prop =
      (match t.bind (a.choose prop (maxDepth + 1)) with
       | none => .ok none
       | some (ds, l) =>
         if ∃ i < ds.length, ¬ FitsI32 (pathSum (ds.drop i) l) then .error .addOverflow
         else .ok (some ⟨pathSum ds l, l.kind⟩)) ∧
    ∀ ds l, t.bind (a.choose prop (maxDepth + 1)) = some (ds, l) →
      ∃ t₀, t = some t₀ ∧ a.Leads t₀ ds l ∧ ds.length ≤ maxDepth ∧ l.name.sameAs prop = true := by
  constructor
  · cases t with
    | none => rfl
    | some t₀ =>
      rw [findProp, findPropAt_eq_answer, Option.bind_some]
      cases a.choose prop (maxDepth + 1) t₀ with
      | none => rfl
      | some r =>
        obtain ⟨ds, l⟩ := r
        simp only [answer, pathOffset_eq]
        split <;> rfl
  · intro ds l h
    cases t with
    | none => simp at h
    | some t₀ =>
      obtain ⟨hleads, hlen, hname⟩ := a.leads_of_choose h
      exact ⟨t₀, rfl, hleads, by omega, hname⟩

-- a table that nests itself: the search for a name it lacks still ends, with nothing
example :
    (⟨[⟨some [84], [⟨some [98], 6, 4, some 0⟩]⟩]⟩ : Arena).findProp (some 0) [120] = .ok none := by
  decide

end Arena

end Netvar

end EngineSdk
