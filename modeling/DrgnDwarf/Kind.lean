import DrgnDwarf.Law
import DrgnDwarf.Lookup

/-!
# DrgnDwarf — every type the cache hands out has the kind its DIE names

A structure DIE materializes to a structure, an enumeration DIE to an enumeration, a base type
DIE to the kind its `DW_AT_encoding` selects. For a definition this is the dispatcher's own
work; a declaration is completed by whatever `drgn_dwarf_info_cache_find_complete` resolves,
which is the kind it asked the name index for. Through the memo maps the law becomes an
invariant of the cache: what `dicache->map` answers was once materialized for the same DIE.

* **`dieKind`** — the kind a DIE's tag names (none for the qualifier tags, which take the kind
  of what they qualify). `IndexTagged` is what the name index promises: asked for a type tag,
  it yields only DIEs of that tag.
* **`typeFromDwarfSwitch_kind`** — the switch returns a type of the DIE's kind when the resolver
  does: the kind is a law the switch passes on.
* **`drgnTypeFromDwarfInternal_kind`** — in every reachable cache every entry of both maps has
  the kind of its DIE, and so has every type `drgn_type_from_dwarf_internal` returns.
* **`drgnDwarfTypeFind_kind_check_redundant`** — so the kind test of `drgn_dwarf_type_find`
  matters only for `DW_TAG_base_type`, as its comment says: for every other tag the finder is
  the plain "first candidate the filename accepts".
-/

namespace Drgn

/-! ## The kind of a DIE -/

/-- The kind `drgn_base_type_from_dwarf` gives a `DW_AT_encoding`; it rejects the others. -/
def encodingKind (encoding : UInt64) : Option TypeKind :=
  if encoding = DwAte.boolean then some .bool
  else if encoding = DwAte.float then some .float
  else if encoding = DwAte.signed ∨ encoding = DwAte.signedChar then some .int
  else if encoding = DwAte.unsigned ∨ encoding = DwAte.unsignedChar then some .int
  else if encoding = DwAte.complexFloat then some .complex
  else none

/-- The kind a tag names, a base type's read off its encoding; the qualifier tags name none. -/
def tagKind (tag : Nat) (encoding : Option UInt64) : Option TypeKind :=
  if tag = DwTag.baseType then encoding.bind encodingKind
  else if tag = DwTag.structureType then some .struct
  else if tag = DwTag.unionType then some .union
  else if tag = DwTag.classType then some .«class»
  else if tag = DwTag.enumerationType then some .enum
  else if tag = DwTag.typedef then some .typedef
  else if tag = DwTag.pointerType then some .pointer
  else if tag = DwTag.arrayType then some .array
  else if tag = DwTag.subroutineType ∨ tag = DwTag.subprogram then some .function
  else none

/-- The kind the DIE `die` names. -/
def dieKind (dw : DwarfInfo) (die : DieKey) : Option TypeKind :=
  tagKind (dwarfTag dw.die die) ((dwarfAttrIntegrate dw.die die DwAt.encoding).bind dwarfFormudata)

/-- `t` has the kind the DIE `die` names, if it names one. -/
def KindOK (dw : DwarfInfo) (die : DieKey) (t : DrgnType) : Prop :=
  ∀ k, dieKind dw die = some k → t.kind = k

/-- The tags a type lookup asks the name index for: those of `drgn_dwarf_type_find` and of
`drgn_dwarf_info_cache_find_complete`. -/
def typeIndexTags : List Nat :=
  [DwTag.baseType, DwTag.structureType, DwTag.unionType, DwTag.classType,
    DwTag.enumerationType, DwTag.typedef]

/-- **The name index yields only DIEs of the type tag it is asked for.** For `DW_TAG_enumerator`
it yields enumeration DIEs instead, but no type lookup asks for that tag. -/
def IndexTagged (dw : DwarfInfo) : Prop :=
  ∀ name tag e bias, tag ∈ typeIndexTags → (e, bias) ∈ (dw.index name [tag]).entries →
    dwarfTag dw.die e = tag

theorem typeFindTag_mem {kind : TypeKind} {tag : Nat} (h : typeFindTag kind = some tag) :
    tag ∈ typeIndexTags := by
  cases kind <;> simp only [typeFindTag, Option.some.injEq, reduceCtorEq] at h <;> subst h <;>
    simp [typeIndexTags]

/-- The DIE an index lookup for the tag of a kind yields names that kind, but for base types,
whose kind is their encoding's. -/
theorem dieKind_of_typeFindTag {dw : DwarfInfo} {kind : TypeKind} {e : DieKey}
    (htag : typeFindTag kind = some (dwarfTag dw.die e))
    (hbase : dwarfTag dw.die e ≠ DwTag.baseType) : dieKind dw e = some kind := by
  unfold dieKind
  cases kind <;> simp only [typeFindTag, Option.some.injEq, reduceCtorEq] at htag
  all_goals first | exact absurd htag.symm hbase | rw [← htag]; rfl

/-! ## A structure and its typedef, indexed by tag

`struct S { int x; }; typedef struct S S_t;` with an index that files each name under the tag of
its DIE. -/

/-- The DIEs of the program. -/
def kindDie : DieKey → Die
  | 1 => { tag := DwTag.structureType, children := [2],
           attributes := [⟨DwAt.name, .string "S"⟩, ⟨DwAt.byteSize, .data 4⟩] }
  | 2 => { tag := DwTag.member,
           attributes := [⟨DwAt.name, .string "x"⟩, ⟨DwAt.type, .ref 3⟩,
             ⟨DwAt.dataMemberLocation, .data 0⟩] }
  | 3 => { tag := DwTag.baseType,
           attributes := [⟨DwAt.name, .string "int"⟩, ⟨DwAt.encoding, .data 5⟩,
             ⟨DwAt.byteSize, .data 4⟩] }
  | 4 => { tag := DwTag.typedef,
           attributes := [⟨DwAt.name, .string "S_t"⟩, ⟨DwAt.type, .ref 1⟩] }
  | _ => { tag := 0 }

/-- The program, each name indexed under the tag of its DIE. -/
def kindDwarf : DwarfInfo where
  die := kindDie
  index name tags :=
    if name = "S" ∧ DwTag.structureType ∈ tags then ⟨[(1, 0)], false⟩
    else if name = "S_t" ∧ DwTag.typedef ∈ tags then ⟨[(4, 0)], false⟩
    else if name = "int" ∧ DwTag.baseType ∈ tags then ⟨[(3, 0)], false⟩
    else ⟨[], false⟩
  dieMatchesFilename _ _ := true
  wordSize := some 8
  objectSetCommon _ := .error (otherError "no object layer")

/-- The index of `kindDwarf` files each name under the tag of its DIE. -/
theorem kindDwarf_indexTagged : IndexTagged kindDwarf := by
  intro name tag e bias _ h
  simp only [kindDwarf, List.mem_singleton] at h
  split at h
  · obtain ⟨rfl, -⟩ := List.mem_singleton.mp h
    exact (‹_ ∧ _›).2
  split at h
  · obtain ⟨rfl, -⟩ := List.mem_singleton.mp h
    exact (‹_ ∧ _›).2
  split at h
  · obtain ⟨rfl, -⟩ := List.mem_singleton.mp h
    exact (‹_ ∧ _›).2
  · cases h

/-! ## The dispatchers build their DIE's kind -/

section Dispatchers

variable {dw : DwarfInfo} {resolve : Resolver}

/-- A base type has the kind of its encoding. -/
theorem drgnBaseTypeFromDwarf_kind (die : DieKey) (lang : Option Language) :
    Returns (fun t => ((dwarfAttrIntegrate dw.die die DwAt.encoding).bind dwarfFormudata).bind
        encodingKind = some t.kind)
      (drgnBaseTypeFromDwarf dw resolve die lang) := by
  unfold drgnBaseTypeFromDwarf
  split
  case h_2 => exact .throw
  split
  case h_2 => exact .throw
  rename_i encoding henc
  simp only [henc, Option.some_bind]
  refine .ite (fun _ => .throw) fun _ => ?_
  refine .ite (fun h => createType_returns (by rw [h]; rfl)) fun _ => ?_
  refine .ite (fun h => createType_returns (by rw [h]; rfl)) fun _ => ?_
  refine .ite (fun h => createType_returns (by rcases h with rfl | rfl <;> rfl)) fun _ => ?_
  refine .ite (fun h => createType_returns (by rcases h with rfl | rfl <;> rfl)) fun _ => ?_
  refine .ite (fun h => ?_) fun _ => .throw
  split
  · exact .bind fun _ _ _ _ => .ite (fun _ => .throw) fun _ => createType_returns (by rw [h]; rfl)
  all_goals exact .throw

/-- What `drgn_dwarf_info_cache_find_complete` returns is what the resolver returned for the
one candidate. -/
theorem drgnDwarfInfoCacheFindComplete_returns {P : DrgnType → Prop} (tag : Nat) (name : String)
    (hres : ∀ e bias, (dw.index name [tag]).entries = [(e, bias)] →
      Returns (fun r => P r.1.type) (resolve e true)) :
    Returns P (drgnDwarfInfoCacheFindComplete dw resolve tag name) := by
  unfold drgnDwarfInfoCacheFindComplete drgnTypeFromDwarf
  dsimp only
  split
  · exact .throw
  · refine .ite (fun _ => .throw) fun _ => ?_
    exact .bind_of (.bind_of (hres _ _ ‹_›) fun ⟨_, _⟩ h => .pure h) fun _ h => .pure h
  · exact .throw

/-- The declaration step passes on what the lookup of the definition returned. -/
theorem findCompleteOfDeclaration_returns {P : DrgnType → Prop} (declaration : Bool)
    (dwTag : Nat) (tag : Option String)
    (hfind : ∀ name, tag = some name →
      Returns P (drgnDwarfInfoCacheFindComplete dw resolve dwTag name)) :
    Returns (fun o => ∀ t, o = some t → P t)
      (findCompleteOfDeclaration dw resolve declaration dwTag tag) := by
  unfold findCompleteOfDeclaration
  split
  · rename_i name
    intro s o s' hrun t ht
    dsimp only at hrun
    split at hrun
    · cases hrun
      cases ht
      exact hfind name rfl s t _ ‹_›
    · split at hrun
      · cases hrun
        cases ht
      · cases hrun
    · cases hrun
  · exact .pure nofun

variable (hidx : IndexTagged dw)
  (hres : ∀ e f, Returns (fun r => KindOK dw e r.1.type) (resolve e f))
include hidx hres

/-- The definition of a declaration with tag `dwTag` has the kind that tag names. -/
theorem findCompleteOfDeclaration_kind {declaration : Bool} {dwTag : Nat} {tag : Option String}
    {kind : TypeKind} (hdwTag : dwTag ∈ typeIndexTags)
    (hkind : ∀ e, dwarfTag dw.die e = dwTag → dieKind dw e = some kind) :
    Returns (fun o => ∀ t, o = some t → t.kind = kind)
      (findCompleteOfDeclaration dw resolve declaration dwTag tag) :=
  findCompleteOfDeclaration_returns _ _ _ fun name _ =>
    drgnDwarfInfoCacheFindComplete_returns _ _ fun e bias he =>
      (hres e true).mono fun _ hr => hr kind
        (hkind e (hidx name dwTag e bias hdwTag (he ▸ List.mem_singleton_self _)))

/-- A compound type has its kind: built here, or the definition the declaration step found. -/
theorem drgnCompoundTypeFromDwarf_kind (die : DieKey) (lang : Option Language)
    (kind : TypeKind) :
    Returns (·.kind = kind) (drgnCompoundTypeFromDwarf dw resolve die lang kind) := by
  unfold drgnCompoundTypeFromDwarf
  refine .bind_of (Q := fun p : String × Nat =>
      p.2 ∈ typeIndexTags ∧ ∀ e, dwarfTag dw.die e = p.2 → dieKind dw e = some kind)
    (by cases kind <;> first
      | exact .throw
      | exact .pure ⟨by simp [typeIndexTags], fun e he => by rw [dieKind, he]; rfl⟩)
    fun ⟨_, dwTag⟩ hdwTag => ?_
  refine .bind fun tag _ _ _ => ?_
  split
  case h_2 => exact .throw
  refine .bind_of (findCompleteOfDeclaration_kind hidx hres hdwTag.1 hdwTag.2) fun o ho => ?_
  split
  · exact .pure (ho _ rfl)
  refine .ite (fun _ => createType_returns rfl) fun _ => ?_
  refine .ite (fun _ => .throw) fun _ => ?_
  split
  · exact .bind fun ⟨_, _⟩ _ _ _ => .ite (fun _ => .throw) fun _ =>
      .bind fun _ _ _ _ => createType_returns rfl
  · exact .throw

/-- An enumeration type has kind enum. -/
theorem drgnEnumTypeFromDwarf_kind (die : DieKey) (lang : Option Language) :
    Returns (·.kind = .enum) (drgnEnumTypeFromDwarf dw resolve die lang) := by
  unfold drgnEnumTypeFromDwarf
  refine .bind fun tag _ _ _ => ?_
  split
  case h_2 => exact .throw
  refine .bind_of (findCompleteOfDeclaration_kind hidx hres (by simp [typeIndexTags])
    fun e he => by rw [dieKind, he]; rfl) fun o ho => ?_
  split
  · exact .pure (ho _ rfl)
  refine .ite (fun _ => createType_returns rfl) fun _ => ?_
  exact .bind fun ⟨_, _⟩ _ _ _ => .ite (fun _ => .throw) fun _ =>
    .bind fun _ _ _ _ => createType_returns rfl

omit hidx hres in
theorem drgnTypedefTypeFromDwarf_kind (die : DieKey) (lang : Option Language) (f : Bool) :
    Returns (·.1.kind = .typedef) (drgnTypedefTypeFromDwarf dw resolve die lang f) := by
  unfold drgnTypedefTypeFromDwarf
  split
  · exact .bind fun _ _ _ _ =>
      .bind_of (createType_returns (P := (·.kind = .typedef)) rfl) fun _ h => .pure h
  · exact .throw

omit hidx hres in
theorem drgnPointerTypeFromDwarf_kind (die : DieKey) (lang : Option Language) :
    Returns (·.kind = .pointer) (drgnPointerTypeFromDwarf dw resolve die lang) :=
  .bind fun _ _ _ _ => .bind fun _ _ _ _ => .bind fun _ _ _ _ => createType_returns rfl

omit hidx hres in
/-- Each level of the pop loop is an array, the last one included. -/
theorem arrayTypeLoop_kind (lang : Option Language) (f : Bool) (elementType : QualifiedType)
    (dim : ArrayDimension) (rest : List ArrayDimension) :
    Returns (·.kind = .array) (arrayTypeLoop lang f elementType dim rest) := by
  induction rest generalizing elementType dim with
  | nil =>
    refine .bind_of (Q := (·.kind = .array)) ?_ fun _ h => .pure h
    split
    · exact createType_returns rfl
    · split <;> exact createType_returns rfl
  | cons next rest ih =>
    unfold arrayTypeLoop
    exact .bind fun _ _ _ _ => ih _ _

omit hidx hres in
theorem drgnArrayTypeFromDwarf_kind (die : DieKey) (lang : Option Language) (f : Bool) :
    Returns (fun o => ∀ p, o = some p → p.1.kind = .array)
      (drgnArrayTypeFromDwarf dw resolve die lang f) := by
  unfold drgnArrayTypeFromDwarf
  refine .bind fun dims _ _ _ => ?_
  split
  · refine .ite (fun _ => .throw) fun _ => .bind fun _ _ _ _ => .bind fun ⟨_, _⟩ _ _ _ => ?_
    dsimp only
    split
    · refine .bind_of (arrayTypeLoop_kind _ _ _ _ _) fun _ h => .pure ?_
      rintro _ ⟨⟩
      exact h
    · exact .throw
  · exact .pure nofun

omit hidx hres in
theorem drgnFunctionTypeFromDwarf_kind (die : DieKey) (lang : Option Language) :
    Returns (·.kind = .function) (drgnFunctionTypeFromDwarf dw resolve die lang) :=
  .bind fun _ _ _ _ => .ite (fun _ => .throw) fun _ => .bind fun _ _ _ _ => createType_returns rfl

/-- **The switch returns a type of the DIE's kind** when the resolver does. -/
theorem typeFromDwarfSwitch_kind (die : DieKey) (lang : Option Language) (f : Bool) :
    Returns (fun r => KindOK dw die r.1.type) (typeFromDwarfSwitch dw resolve die lang f) := by
  have hkind : ∀ {α : Type} {m : DrgnM α} {get : α → DrgnType} {k : TypeKind},
      dieKind dw die = some k → Returns (fun a => (get a).kind = k) m →
      Returns (fun a => KindOK dw die (get a)) m :=
    fun hk h => h.mono fun _ ht k' hk' => ht.trans (Option.some.inj (hk.symm.trans hk'))
  have hnone : ∀ {α : Type} {m : DrgnM α} {get : α → DrgnType}, dieKind dw die = none →
      Returns (fun a => KindOK dw die (get a)) m :=
    fun hk _ _ _ _ k hk' => nomatch hk.symm.trans hk'
  unfold typeFromDwarfSwitch
  simp only
  repeat' refine .ite (fun htag => ?_) fun htag => ?_
  iterate 4 exact hnone (by rw [dieKind, htag]; rfl)
  · refine (unqualifiedTypeFromDwarf_returns (drgnBaseTypeFromDwarf_kind die lang)).mono
      fun _ hr k hk => Option.some.inj (hr.symm.trans ?_)
    rwa [dieKind, htag] at hk
  iterate 3
    exact hkind (by rw [dieKind, htag]; rfl)
      (unqualifiedTypeFromDwarf_returns (drgnCompoundTypeFromDwarf_kind hidx hres die lang _))
  · exact hkind (by rw [dieKind, htag]; rfl)
      (unqualifiedTypeFromDwarf_returns (drgnEnumTypeFromDwarf_kind hidx hres die lang))
  · exact hkind (by rw [dieKind, htag]; rfl)
      (.bind_of (drgnTypedefTypeFromDwarf_kind die lang f) fun ⟨_, _⟩ h => .pure h)
  · exact hkind (by rw [dieKind, htag]; rfl)
      (unqualifiedTypeFromDwarf_returns (drgnPointerTypeFromDwarf_kind die lang))
  · refine hkind (by rw [dieKind, htag]; rfl)
      (.bind_of (drgnArrayTypeFromDwarf_kind die lang f) fun o ho => ?_)
    split
    · exact .pure (ho _ rfl)
    · exact .throw
  · exact hkind (by rcases htag with h | h <;> rw [dieKind, h] <;> rfl)
      (unqualifiedTypeFromDwarf_returns (drgnFunctionTypeFromDwarf_kind die lang))
  · exact .throw

end Dispatchers

/-! ## The maps agree with the kinds of their DIEs -/

section Invariant

variable {dw : DwarfInfo} (hidx : IndexTagged dw)
include hidx

theorem switchTransfers_kind : SwitchTransfers dw (KindOK dw) :=
  fun _ hres => typeFromDwarfSwitch_kind hidx hres

/-- **Every type the cache hands out has the kind its DIE names.** With a name index that yields
only DIEs of the type tag it is asked for, in every cache reachable from
`drgn_dwarf_info_cache_create` every entry of `dicache->map` and of `cant_be_incomplete_array_map`
has the kind its DIE names, and so has every type `drgn_type_from_dwarf_internal` returns from
that cache, under either flag. -/
theorem drgnTypeFromDwarfInternal_kind {s : DwarfInfoCache} (hs : Reachable dw s) :
    MapsObey (KindOK dw) s ∧ ∀ die f r s', drgnTypeFromDwarfInternal dw die f s = .ok r s' →
      KindOK dw die r.1.type :=
  drgnTypeFromDwarfInternal_obeys (switchTransfers_kind hidx) hs

omit hidx in
/-- In `kindDwarf`, from a new cache. -/
theorem kindDwarf_kinds :
    IndexTagged kindDwarf ∧ Reachable kindDwarf (drgnDwarfInfoCacheCreate []) ∧
      (MapsObey (KindOK kindDwarf) (drgnDwarfInfoCacheCreate []) ∧
        ∀ die f r s', drgnTypeFromDwarfInternal kindDwarf die f (drgnDwarfInfoCacheCreate []) =
          .ok r s' → KindOK kindDwarf die r.1.type) :=
  ⟨kindDwarf_indexTagged, .create [],
    drgnTypeFromDwarfInternal_kind kindDwarf_indexTagged (.create [])⟩

end Invariant

/-! ## The kind test of the type finder -/

/-- `drgn_dwarf_type_find` without its kind test: the first candidate the filename accepts,
materialized. -/
def typeFindFirst (dw : DwarfInfo) (filename : Option String) :
    List (DieKey × UInt64) → Bool → DrgnM QualifiedType
  | [], failed => returnError (if failed then libdwError else drgnNotFound)
  | (die, _) :: rest, failed =>
    if dw.dieMatchesFilename die filename then drgnTypeFromDwarf (drgnTypeFromDwarfInternal dw) die
    else typeFindFirst dw filename rest failed

section Finder

variable {dw : DwarfInfo} (hidx : IndexTagged dw)
include hidx

/-- **The kind test of `drgn_dwarf_type_find` matters only for base types.** With a name index
that yields only DIEs of the type tag it is asked for, from every reachable cache, a lookup of a
structure, union, class, enumeration or typedef runs exactly as the plain finder that
materializes the first candidate the filename accepts: a candidate of such a tag always has the
requested kind, so the loop never passes over one it materialized. -/
theorem drgnDwarfTypeFind_kind_check_redundant {kind : TypeKind} {tag : Nat}
    (htag : typeFindTag kind = some tag) (hbase : tag ≠ DwTag.baseType) {s : DwarfInfoCache}
    (hs : Reachable dw s) (name : String) (filename : Option String) :
    drgnDwarfTypeFind dw kind name filename s =
      typeFindFirst dw filename (dw.index name [tag]).entries (dw.index name [tag]).failed s := by
  simp only [drgnDwarfTypeFind, htag]
  have hcands : ∀ c ∈ (dw.index name [tag]).entries, dwarfTag dw.die c.1 = tag :=
    fun ⟨e, bias⟩ h => hidx name tag e bias (typeFindTag_mem htag) h
  generalize (dw.index name [tag]).entries = cands at hcands ⊢
  induction cands with
  | nil => rfl
  | cons c rest ih =>
    obtain ⟨die, bias⟩ := c
    simp only [typeFindLoop, typeFindFirst]
    split
    · cases hrun : drgnTypeFromDwarf (drgnTypeFromDwarfInternal dw) die s with
      | ok qt s' =>
        obtain ⟨⟨_, w⟩, s₁, hint, hpure⟩ := bind_eq_ok hrun
        cases hpure
        have hdie : dwarfTag dw.die die = tag := hcands _ (List.mem_cons_self _ _)
        have hkind : qt.type.kind = kind :=
          (drgnTypeFromDwarfInternal_obeys (switchTransfers_kind hidx) hs).2 die true _ _ hint
            kind (dieKind_of_typeFindTag (hdie ▸ htag) (hdie ▸ hbase))
        rw [bind_eq_of_ok hrun, if_pos hkind]
        rfl
      | error f s' => rw [bind_eq_error hrun]
    · exact ih fun c hc => hcands c (List.mem_cons_of_mem _ hc)

omit hidx in
/-- The lookup of `struct S` in `kindDwarf`, from a new cache. -/
theorem kindDwarf_typeFind_struct :
    IndexTagged kindDwarf ∧ typeFindTag .struct = some DwTag.structureType ∧
      DwTag.structureType ≠ DwTag.baseType ∧
      Reachable kindDwarf (drgnDwarfInfoCacheCreate []) ∧
      drgnDwarfTypeFind kindDwarf .struct "S" none (drgnDwarfInfoCacheCreate []) =
        typeFindFirst kindDwarf none (kindDwarf.index "S" [DwTag.structureType]).entries
          (kindDwarf.index "S" [DwTag.structureType]).failed (drgnDwarfInfoCacheCreate []) :=
  ⟨kindDwarf_indexTagged, rfl, by decide, .create [],
    drgnDwarfTypeFind_kind_check_redundant kindDwarf_indexTagged
      (rfl : typeFindTag .struct = some DwTag.structureType) (by decide) (.create []) "S" none⟩

end Finder

end Drgn
