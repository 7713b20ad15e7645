import Mathlib
import EngineSdk.Proofs.Resolution

/-!
# Loading gamedata

Gamedata text is a JSON object whose members are read as a map reads them: one per name, the
last of each name.  A member's value declares at most one entry by the keys it has
(`declaredSignature`, `declaredOffset`): the value under `signatures` is a signature entry;
failing that, the value under `offsets` is an offset entry; failing both, a value with a `linux`
or a `windows` key is itself a signature entry.

* `ofJson_cases` says once what reading one member can give; from it, reading succeeds exactly
  when the declared entries read (`ofJson_isOk_iff`), and adding a member appends its declared
  entry to the signatures or to the offsets (`add_of_ofJson`).
* Loading folds `addMember` over the members; the fold fails as soon as one member fails, and
  otherwise appends every member's declared entry in member order (`foldlM_addMember_eq_ok_iff`).
* A map lists each name once, so in the gamedata the members declare (`declared`) the names of
  the signatures and of the offsets are distinct, no name is both, and each name looks up the
  entry its last member declares (`lookup_signatures_declared`, `not_mem_offsetNames_declared`).
  Loading gives exactly that gamedata (`load_eq_ok_iff`).
* `load_classifies_members` puts this together: loading succeeds exactly when the text is an
  object whose every member reads, and then the signatures and offsets, their names, the
  patterns, the values and the libraries are those the members declare.
-/

namespace EngineSdk

/-! ### Members as a map reads them -/

namespace Json

variable {ms : List (String × Json)}

theorem isSome_get?_obj {k : String} : ((Json.obj ms).get? k).isSome ↔ k ∈ ms.map Prod.fst := by
  simp [get?, List.find?_isSome]

theorem mem_keys_obj {k : String} : k ∈ (Json.obj ms).keys ↔ ((Json.obj ms).get? k).isSome := by
  rw [isSome_get?_obj, keys, List.mem_mergeSort, List.mem_eraseDups]

theorem nodup_keys_obj : (Json.obj ms).keys.Nodup :=
  (Gamedata.nodup_eraseDups _).mergeSort

theorem mem_entries_obj {k : String} {v : Json} :
  (k, v) ∈ (Json.obj ms).entries ↔ (Json.obj ms).get? k = some v
  := by
  simp only [entries, List.mem_filterMap, Option.map_eq_some_iff, Prod.mk.injEq]
  constructor
  · rintro ⟨k', -, v', hv', rfl, rfl⟩
    exact hv'
  · intro hv
    exact ⟨k, mem_keys_obj.mpr (by simp [hv]), v, hv, rfl, rfl⟩

end Json

namespace Gamedata

/-! ### What one member declares -/

/-- The JSON of the signature entry that a member's value declares: its `signatures` member;
failing that, when it has no `offsets` member but a `linux` or a `windows` one, the value
itself. -/
def declaredSignature (v : Json) : Option Json :=
  (v.get? "signatures").or
    (if (v.get? "offsets").isNone && ((v.get? "linux").isSome || (v.get? "windows").isSome)
      then some v else none)

/-- The JSON of the offset entry that a member's value declares: its `offsets` member, unless it
has a `signatures` member. -/
def declaredOffset (v : Json) : Option Json :=
  if (v.get? "signatures").isSome then none else v.get? "offsets"

/-- The entries a member's value declares read. -/
def Reads (v : Json) : Prop :=
  (∀ s, declaredSignature v = some s → ∃ e, SignatureEntry.ofJson s = .ok e) ∧
    ∀ o, declaredOffset v = some o → ∃ e, OffsetEntry.ofJson o = .ok e

/-- The signature entry a member's value declares, read. -/
def signatureOf (v : Json) : Option SignatureEntry :=
  (declaredSignature v).bind fun s => (SignatureEntry.ofJson s).toOption

/-- The offset entry a member's value declares, read. -/
def offsetOf (v : Json) : Option OffsetEntry :=
  (declaredOffset v).bind fun o => (OffsetEntry.ofJson o).toOption

/-- Reading a member gives the signature entry it declares, or the offset entry it declares, or
nothing when it declares neither; it declares at most one. -/
theorem ofJson_cases (v : Json) :
  (∃ s, declaredSignature v = some s ∧ declaredOffset v = none ∧
    GamedataEntry.ofJson v = GamedataEntry.signature <$> SignatureEntry.ofJson s) ∨
  (∃ o, declaredSignature v = none ∧ declaredOffset v = some o ∧
    GamedataEntry.ofJson v = GamedataEntry.offset <$> OffsetEntry.ofJson o) ∨
  (declaredSignature v = none ∧ declaredOffset v = none ∧
    GamedataEntry.ofJson v = pure .ignored)
  := by
  rcases hs : v.get? "signatures" with _ | s
  · rcases ho : v.get? "offsets" with _ | o
    · by_cases hb : (v.get? "linux").isSome || (v.get? "windows").isSome
      · refine .inl ⟨v, ?_, ?_, ?_⟩ <;>
          simp [declaredSignature, declaredOffset, GamedataEntry.ofJson, hs, ho, hb]
      · refine .inr (.inr ⟨?_, ?_, ?_⟩) <;>
          simp [declaredSignature, declaredOffset, GamedataEntry.ofJson, hs, ho, hb]
    · refine .inr (.inl ⟨o, ?_, ?_, ?_⟩) <;>
        simp [declaredSignature, declaredOffset, GamedataEntry.ofJson, hs, ho]
  · refine .inl ⟨s, ?_, ?_, ?_⟩ <;>
      simp [declaredSignature, declaredOffset, GamedataEntry.ofJson, hs]

/-- A member reads exactly when the entries it declares read. -/
theorem ofJson_isOk_iff (v : Json) : (∃ k, GamedataEntry.ofJson v = .ok k) ↔ Reads v := by
  rcases ofJson_cases v with ⟨s, hs, ho, hv⟩ | ⟨o, hs, ho, hv⟩ | ⟨hs, ho, hv⟩ <;>
    rw [hv] <;> simp [Reads, hs, ho]
  · cases SignatureEntry.ofJson s <;> simp [Functor.map, Except.map]
  · cases OffsetEntry.ofJson o <;> simp [Functor.map, Except.map]
  · exact ⟨.ignored, rfl⟩

/-- A member that reads adds what it declares: its signature entry to the signatures and its
offset entry to the offsets. -/
theorem add_of_ofJson {v : Json} {k : GamedataEntry} (h : GamedataEntry.ofJson v = .ok k)
    (g : Gamedata) (n : String) :
  g.add n k = ⟨g.signatures ++ ((signatureOf v).map (n, ·)).toList,
    g.offsets ++ ((offsetOf v).map (n, ·)).toList⟩
  := by
  rcases ofJson_cases v with ⟨s, hs, ho, hv⟩ | ⟨o, hs, ho, hv⟩ | ⟨hs, ho, hv⟩ <;> rw [hv] at h
  · cases hr : SignatureEntry.ofJson s <;>
      simp [hr, Functor.map, Except.map] at h
    subst h
    simp [add, signatureOf, offsetOf, hs, ho, hr, Except.toOption]
  · cases hr : OffsetEntry.ofJson o <;>
      simp [hr, Functor.map, Except.map] at h
    subst h
    simp [add, signatureOf, offsetOf, hs, ho, hr, Except.toOption]
  · cases h
    simp [add, signatureOf, offsetOf, hs, ho]

/-! ### The fold over the members -/

/-- `g` with the entries that the members `es` declare appended, in member order. -/
def withMembers (g : Gamedata) (es : List (String × Json)) : Gamedata :=
  ⟨g.signatures ++ es.filterMap (fun m => (signatureOf m.2).map (m.1, ·)),
    g.offsets ++ es.filterMap (fun m => (offsetOf m.2).map (m.1, ·))⟩

theorem withMembers_append (g : Gamedata) (es es' : List (String × Json)) :
  (g.withMembers es).withMembers es' = g.withMembers (es ++ es')
  := by
  simp [withMembers, List.filterMap_append]

theorem addMember_eq_ok_iff (g g' : Gamedata) (m : String × Json) :
  addMember g m = .ok g' ↔ Reads m.2 ∧ g' = g.withMembers [m]
  := by
  rw [addMember]
  split
  · rename_i k hk
    have hr : Reads m.2 := (ofJson_isOk_iff m.2).mp ⟨k, hk⟩
    rw [add_of_ofJson hk]
    simp only [withMembers, List.filterMap_cons, List.filterMap_nil, hr, true_and]
    cases signatureOf m.2 <;> cases offsetOf m.2 <;> simp [pure, Except.pure, eq_comm]
  · rename_i r hr
    have hno : ¬Reads m.2 := fun h => by
      obtain ⟨k, hk⟩ := (ofJson_isOk_iff m.2).mpr h
      rw [hk] at hr
      cases hr
    simp [hno, throw, throwThe, MonadExceptOf.throw]

/-- The fold fails as soon as a member does not read; otherwise it appends every member's
declared entries, in member order. -/
theorem foldlM_addMember_eq_ok_iff (es : List (String × Json)) (g₀ g : Gamedata) :
  es.foldlM addMember g₀ = .ok g ↔ (∀ m ∈ es, Reads m.2) ∧ g = g₀.withMembers es
  := by
  induction es generalizing g₀ with
  | nil => simp [withMembers, pure, Except.pure, eq_comm]
  | cons m es ih =>
    rw [List.foldlM_cons]
    cases hm : addMember g₀ m with
    | error e =>
      have : ¬Reads m.2 := fun hr =>
        absurd ((addMember_eq_ok_iff g₀ _ m).mpr ⟨hr, rfl⟩) (by rw [hm]; exact nofun)
      simp [bind, Except.bind, this]
    | ok g₁ =>
      obtain ⟨hr, rfl⟩ := (addMember_eq_ok_iff g₀ g₁ m).mp hm
      simp only [bind, Except.bind, ih, List.forall_mem_cons, hr, true_and, withMembers_append,
        List.singleton_append]

/-! ### Lookups in the loaded gamedata -/

/-- The signature entry that the members `ms` declare under `name`: the one its last member
declares. -/
def signatureIn (ms : List (String × Json)) (name : String) : Option SignatureEntry :=
  ((Json.obj ms).get? name).bind signatureOf

/-- The offset entry that the members `ms` declare under `name`. -/
def offsetIn (ms : List (String × Json)) (name : String) : Option OffsetEntry :=
  ((Json.obj ms).get? name).bind offsetOf

section Lookups

variable (ms : List (String × Json))

/-- The declared entries of the members, as a map reads them, listed by name. -/
theorem filterMap_entries {β : Type} (f : Json → Option β) :
  (Json.obj ms).entries.filterMap (fun m => (f m.2).map (m.1, ·)) =
    (Json.obj ms).keys.filterMap fun k => (((Json.obj ms).get? k).bind f).map (k, ·)
  := by
  rw [Json.entries, List.filterMap_filterMap]
  congr 1
  funext k
  cases (Json.obj ms).get? k <;> simp

theorem lookup_entries {β : Type} (f : Json → Option β) (n : String) :
  ((Json.obj ms).entries.filterMap (fun m => (f m.2).map (m.1, ·))).lookup n =
    ((Json.obj ms).get? n).bind f
  := by
  rw [filterMap_entries, lookup_filterMap]
  split
  · rfl
  · rename_i hn
    rw [Json.mem_keys_obj, Option.not_isSome_iff_eq_none] at hn
    rw [hn, Option.bind_none]

theorem nodup_names_entries {β : Type} (f : Json → Option β) :
  ((Json.obj ms).entries.filterMap (fun m => (f m.2).map (m.1, ·))).map Prod.fst |>.Nodup
  := by
  rw [filterMap_entries, map_fst_filterMap]
  exact Json.nodup_keys_obj.filter _

theorem mem_names_entries {β : Type} (f : Json → Option β) (n : String) :
  n ∈ ((Json.obj ms).entries.filterMap (fun m => (f m.2).map (m.1, ·))).map Prod.fst ↔
    (((Json.obj ms).get? n).bind f).isSome
  := by
  rw [filterMap_entries, map_fst_filterMap, List.mem_filter, Json.mem_keys_obj]
  constructor
  · exact fun h => h.2
  · intro h
    refine ⟨?_, h⟩
    cases hn : (Json.obj ms).get? n <;> simp_all

end Lookups

/-- A member declares a signature entry or an offset entry, never both. -/
theorem signatureOf_eq_none_or_offsetOf_eq_none (v : Json) :
  signatureOf v = none ∨ offsetOf v = none
  := by
  rcases ofJson_cases v with ⟨s, -, ho, -⟩ | ⟨o, hs, -, -⟩ | ⟨hs, -, -⟩
  · exact .inr (by simp [offsetOf, ho])
  · exact .inl (by simp [signatureOf, hs])
  · exact .inl (by simp [signatureOf, hs])

/-- A member that reads has a signature entry exactly when it declares one. -/
theorem isSome_signatureOf {v : Json} (h : Reads v) :
  (signatureOf v).isSome = (declaredSignature v).isSome
  := by
  cases hs : declaredSignature v with
  | none => simp [signatureOf, hs]
  | some s =>
    obtain ⟨e, he⟩ := h.1 s hs
    simp [signatureOf, hs, he, Except.toOption]

/-- A member that reads has an offset entry exactly when it declares one. -/
theorem isSome_offsetOf {v : Json} (h : Reads v) :
  (offsetOf v).isSome = (declaredOffset v).isSome
  := by
  cases ho : declaredOffset v with
  | none => simp [offsetOf, ho]
  | some o =>
    obtain ⟨e, he⟩ := h.2 o ho
    simp [offsetOf, ho, he, Except.toOption]

/-- The gamedata that the members `ms` declare, as a map reads them. -/
def declared (ms : List (String × Json)) : Gamedata := empty.withMembers (Json.obj ms).entries

section Declared

variable (ms : List (String × Json)) (n : String)

theorem lookup_signatures_declared : (declared ms).signatures.lookup n = signatureIn ms n := by
  simpa [declared, withMembers, empty, signatureIn] using lookup_entries ms signatureOf n

theorem lookup_offsets_declared : (declared ms).offsets.lookup n = offsetIn ms n := by
  simpa [declared, withMembers, empty, offsetIn] using lookup_entries ms offsetOf n

theorem mem_signatureNames_declared :
  n ∈ (declared ms).signatureNames ↔ (signatureIn ms n).isSome
  := by
  simpa [declared, withMembers, empty, signatureNames, signatureIn] using
    mem_names_entries ms signatureOf n

theorem mem_offsetNames_declared :
  n ∈ (declared ms).offsets.map Prod.fst ↔ (offsetIn ms n).isSome
  := by
  simpa [declared, withMembers, empty, offsetIn] using mem_names_entries ms offsetOf n

/-- When every member reads, the signature names are the names whose last member declares a
signature entry. -/
theorem mem_signatureNames_declared_iff (hall : ∀ n v, (Json.obj ms).get? n = some v → Reads v) :
  n ∈ (declared ms).signatureNames ↔
    ∃ v, (Json.obj ms).get? n = some v ∧ (declaredSignature v).isSome
  := by
  rw [mem_signatureNames_declared, signatureIn]
  cases hv : (Json.obj ms).get? n with
  | none => simp
  | some v => simp [← isSome_signatureOf (hall n v hv)]

/-- When every member reads, the offset names are the names whose last member declares an
offset entry. -/
theorem mem_offsetNames_declared_iff (hall : ∀ n v, (Json.obj ms).get? n = some v → Reads v) :
  n ∈ (declared ms).offsets.map Prod.fst ↔
    ∃ v, (Json.obj ms).get? n = some v ∧ (declaredOffset v).isSome
  := by
  rw [mem_offsetNames_declared, offsetIn]
  cases hv : (Json.obj ms).get? n with
  | none => simp
  | some v => simp [← isSome_offsetOf (hall n v hv)]

theorem nodup_signatureNames_declared : (declared ms).signatureNames.Nodup := by
  simpa [declared, withMembers, empty, signatureNames] using nodup_names_entries ms signatureOf

theorem nodup_offsetNames_declared : ((declared ms).offsets.map Prod.fst).Nodup := by
  simpa [declared, withMembers, empty] using nodup_names_entries ms offsetOf

/-- No name is both a signature and an offset: its last member declares at most one. -/
theorem not_mem_offsetNames_declared (hs : n ∈ (declared ms).signatureNames) :
  n ∉ (declared ms).offsets.map Prod.fst
  := by
  rw [mem_signatureNames_declared] at hs
  rw [mem_offsetNames_declared]
  cases hv : (Json.obj ms).get? n with
  | none => simp [offsetIn, hv]
  | some v =>
    rcases signatureOf_eq_none_or_offsetOf_eq_none v with h | h
    · simp [signatureIn, hv, h] at hs
    · simp [offsetIn, hv, h]

end Declared

/-- Loading succeeds exactly when the text is an object whose members, as a map reads them,
all read; the result is the gamedata they declare. -/
theorem load_eq_ok_iff (text : String) (g : Gamedata) :
  load text = .ok g ↔ ∃ ms, Json.parseObject text "a map" = .ok ms ∧
    (∀ n v, (Json.obj ms).get? n = some v → Reads v) ∧ g = declared ms
  := by
  have hmembers : ∀ ms, members text = .ok ms ↔ Json.parseObject text "a map" = .ok ms := by
    intro ms
    rw [members]
    split <;> simp_all [pure, Except.pure, throw, throwThe, MonadExceptOf.throw]
  rw [load]
  cases hm : members text with
  | error e =>
    have : ∀ ms, Json.parseObject text "a map" ≠ .ok ms := fun ms h =>
      absurd ((hmembers ms).mpr h) (by rw [hm]; exact nofun)
    simp [bind, Except.bind, this]
  | ok ms =>
    simp only [bind, Except.bind, foldlM_addMember_eq_ok_iff]
    have hp := (hmembers ms).mp hm
    constructor
    · rintro ⟨hall, rfl⟩
      exact ⟨ms, hp, fun n v hv => hall (n, v) (Json.mem_entries_obj.mpr hv), rfl⟩
    · rintro ⟨ms', hp', hall, rfl⟩
      obtain rfl : ms = ms' := by rw [hp] at hp'; exact Except.ok.inj hp'
      exact ⟨fun m hm' => hall m.1 m.2 (Json.mem_entries_obj.mp hm'), rfl⟩

/-! ### Patterns, values and libraries -/

/-- A signature's pattern is the linux pattern of its entry. -/
theorem signature_toOption (g : Gamedata) (n : String) :
  (g.signature n).toOption = (g.signatures.lookup n).bind SignatureEntry.linux
  := by
  unfold signature
  split
  · rename_i h
    simp [h, Except.toOption]
  · split <;> simp_all [Except.toOption]

/-- A signature is missing only as a `SignatureNotFound` error of its name. -/
theorem signature_eq_error {g : Gamedata} {n : String} {err : GamedataError}
    (h : g.signature n = .error err) : ∃ b, err = .signatureNotFound n b
  := by
  unfold signature at h
  split at h
  · cases h
    exact ⟨_, rfl⟩
  · split at h
    · cases h
    · cases h
      exact ⟨_, rfl⟩

/-- An offset's value is the linux value of its entry. -/
theorem offset_toOption (g : Gamedata) (n : String) :
  (g.offset n).toOption = (g.offsets.lookup n).bind OffsetEntry.linux
  := by
  unfold offset
  split
  · rename_i h
    simp [h, Except.toOption]
  · split <;> simp_all [Except.toOption]

/-- An offset is missing only as an `OffsetNotFound` error of its name. -/
theorem offset_eq_error {g : Gamedata} {n : String} {err : GamedataError}
    (h : g.offset n = .error err) : ∃ b, err = .offsetNotFound n b
  := by
  unfold offset at h
  split at h
  · cases h
    exact ⟨_, rfl⟩
  · split at h
    · cases h
    · cases h
      exact ⟨_, rfl⟩

/-! ### The library of a signature -/

/-- A member of another name leaves the library as it was. -/
theorem library_withMember {e₀ e₁ : SignatureEntry} {m : String × Json} (hm : m.1 ≠ "library")
    (h : e₀.withMember m = .ok e₁) : e₁.library = e₀.library
  := by
  unfold SignatureEntry.withMember at h
  split at h
  · exact absurd rfl hm
  case h_5 => cases h; rfl
  all_goals
    simp only [bind, Except.bind] at h
    split at h <;> cases h
    rfl

theorem library_foldlM_withMember {es : List (String × Json)} (hes : ∀ m ∈ es, m.1 ≠ "library")
    {e₀ e : SignatureEntry} (h : es.foldlM SignatureEntry.withMember e₀ = .ok e) :
  e.library = e₀.library
  := by
  induction es generalizing e₀ with
  | nil =>
    cases h
    rfl
  | cons m es ih =>
    rw [List.foldlM_cons] at h
    cases hw : e₀.withMember m with
    | error r => rw [hw] at h; cases h
    | ok e₁ =>
      rw [hw] at h
      exact (ih (fun m' hm' => hes m' (List.mem_cons_of_mem _ hm')) h).trans
        (library_withMember (hes m List.mem_cons_self) hw)

/-- A signature read from an object without a `library` member is searched for in the client
module. -/
theorem library_of_ofJson_obj {ms : List (String × Json)} {e : SignatureEntry}
    (h : SignatureEntry.ofJson (.obj ms) = .ok e) (hlib : (Json.obj ms).get? "library" = none) :
  e.library = SignatureEntry.defaultLibrary
  := by
  have hfree : ∀ m ∈ (Json.obj ms).entries, m.1 ≠ "library" := by
    rintro ⟨k, v⟩ hm rfl
    rw [Json.mem_entries_obj, hlib] at hm
    cases hm
  rw [SignatureEntry.ofJson] at h
  exact library_foldlM_withMember hfree h

end Gamedata

open Gamedata in
/-- Loading gamedata classifies the members of its object exactly and atomically.  Loading
succeeds exactly when the text is a JSON object whose members, the last of each name, all read
the entries they declare: a value with a `signatures` key declares the signature entry there,
one with an `offsets` key and no `signatures` key the offset entry there, and one with neither
but with a `linux` or `windows` key is itself a signature entry.  Then the signatures and the
offsets are exactly the declared ones, each name once and no name in both; a signature's pattern
is its entry's linux pattern and a missing one a `SignatureNotFound` error, an offset's value its
entry's linux value and a missing one an `OffsetNotFound` error, and a signature's library is
its entry's, `client` when its object names none. -/
theorem load_classifies_members (text : String) :
  ((∃ g, load text = .ok g) ↔ ∃ ms, Json.parseObject text "a map" = .ok ms ∧
    ∀ n v, (Json.obj ms).get? n = some v → Reads v) ∧
  ∀ g, load text = .ok g → ∃ ms, Json.parseObject text "a map" = .ok ms ∧
    (∀ n, g.signatures.lookup n = signatureIn ms n) ∧
    (∀ n, g.offsets.lookup n = offsetIn ms n) ∧
    (∀ n, n ∈ g.signatureNames ↔
      ∃ v, (Json.obj ms).get? n = some v ∧ (declaredSignature v).isSome) ∧
    (∀ n, n ∈ g.offsets.map Prod.fst ↔
      ∃ v, (Json.obj ms).get? n = some v ∧ (declaredOffset v).isSome) ∧
    g.signatureNames.Nodup ∧ (g.offsets.map Prod.fst).Nodup ∧
    (∀ n, n ∈ g.signatureNames → n ∉ g.offsets.map Prod.fst) ∧
    (∀ n, (g.signature n).toOption = (signatureIn ms n).bind SignatureEntry.linux ∧
      ∀ err, g.signature n = .error err → ∃ b, err = .signatureNotFound n b) ∧
    (∀ n, (g.offset n).toOption = (offsetIn ms n).bind OffsetEntry.linux ∧
      ∀ err, g.offset n = .error err → ∃ b, err = .offsetNotFound n b) ∧
    (∀ n, g.library? n = (signatureIn ms n).map SignatureEntry.library) ∧
    ∀ (fields : List (String × Json)) (e : SignatureEntry),
      SignatureEntry.ofJson (.obj fields) = .ok e → (Json.obj fields).get? "library" = none →
        e.library = "client"
  := by
  refine ⟨⟨fun ⟨g, hg⟩ => ?_, fun ⟨ms, hp, hall⟩ => ?_⟩, fun g hg => ?_⟩
  · obtain ⟨ms, hp, hall, -⟩ := (load_eq_ok_iff text g).mp hg
    exact ⟨ms, hp, hall⟩
  · exact ⟨_, (load_eq_ok_iff text _).mpr ⟨ms, hp, hall, rfl⟩⟩
  obtain ⟨ms, hp, hall, rfl⟩ := (load_eq_ok_iff text g).mp hg
  refine ⟨ms, hp, lookup_signatures_declared ms, lookup_offsets_declared ms,
    fun n => mem_signatureNames_declared_iff ms n hall,
    fun n => mem_offsetNames_declared_iff ms n hall,
    nodup_signatureNames_declared ms, nodup_offsetNames_declared ms,
    not_mem_offsetNames_declared ms, fun n => ⟨?_, fun _ => signature_eq_error⟩,
    fun n => ⟨?_, fun _ => offset_eq_error⟩, fun n => ?_, fun _ _ => library_of_ofJson_obj⟩
  · rw [signature_toOption, lookup_signatures_declared]
  · rw [offset_toOption, lookup_offsets_declared]
  · rw [library?, lookup_signatures_declared]

end EngineSdk
