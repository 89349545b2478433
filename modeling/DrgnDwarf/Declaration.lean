import DrgnDwarf.Compound

/-!
# DrgnDwarf — declarations and definitions

The compound and enumeration dispatchers tell a declaration from a definition with
`dwarf_flag(die, DW_AT_declaration)`, which reads the attribute through `dwarf_attr_integrate`:
a definition that names its declaration with `DW_AT_specification` (a C++ class or enumeration
defined outside the class that declares it) inherits the declaration's `DW_AT_declaration` and is
taken for a declaration. `drgn_dwarf_info_cache_find_complete` then looks for its definition by
name, and the index, which holds the DIEs with no `DW_AT_declaration` of their own, offers it.

* **`SelfDefinition`** — such a DIE, when the index holds it alone under its name.
* **`selfDefinition_recursion`** — its resolution finds the DIE itself at every level, and fails
  with `DRGN_ERROR_RECURSION` from every state that has no entry for it.
* **`specification_taken_for_declaration`** — a C++ program with an out-of-line nested class and
  enumeration: the class never materializes, the enumeration materializes as incomplete, and the
  object finder looking for one of its enumerators reaches `UNREACHABLE()`.
-/

namespace Drgn

/-! ## A definition taken for a declaration -/

section SelfDefinition

variable {dw : DwarfInfo} {resolve : Resolver}

/-- A DIE that `dwarf_flag` takes for a declaration and that is itself the one indexed definition
of its name: a structure, union, class or enumeration DIE whose `DW_AT_declaration` reads true
through `dwarf_attr_integrate` (its own, or one it inherits along `DW_AT_specification`), whose
name is `name`, and which the name index holds alone under that name and its tag. -/
structure SelfDefinition (dw : DwarfInfo) (die : DieKey) (name : String) : Prop where
  completable : dwarfTag dw.die die ∈ completableTags
  declaration : dwarfFlag dw.die die DwAt.declaration = some true
  named : (dwarfAttrIntegrate dw.die die DwAt.name).bind dwarfFormstring = some name
  indexed : ∃ bias, dw.index name [dwarfTag dw.die die] = ⟨[(die, bias)], false⟩
  readable : (dw.die die).unit.cuDieUnreadable = false

/-- Looking for the definition of a self-definition resolves the DIE itself, and an error other
than `DRGN_ERROR_STOP` comes back unchanged. -/
theorem findCompleteOfDeclaration_self {die : DieKey} {name : String}
    (h : SelfDefinition dw die name)
    {s s' : DwarfInfoCache} {err : DrgnError}
    (hres : resolve die true s = .error (.error err) s') (hstop : err.code ≠ .stop) :
    findCompleteOfDeclaration dw resolve true (dwarfTag dw.die die) (some name) s =
      .error (.error err) s' := by
  obtain ⟨bias, hidx⟩ := h.indexed
  have hfind : drgnDwarfInfoCacheFindComplete dw resolve (dwarfTag dw.die die) name s =
      .error (.error err) s' := by
    unfold drgnDwarfInfoCacheFindComplete
    simp only [hidx, Bool.false_eq_true, ↓reduceIte]
    exact bind_eq_error (bind_eq_error hres)
  simp only [findCompleteOfDeclaration, hfind, hstop, ↓reduceIte]

/-- A DIE with a name reads it without touching the cache. -/
theorem optionalAttr_name {die : DieKey} {name : String}
    (h : (dwarfAttrIntegrate dw.die die DwAt.name).bind dwarfFormstring = some name)
    (message : String) (s : DwarfInfoCache) :
    optionalAttr dw die DwAt.name dwarfFormstring message s = .ok (some name) s := by
  unfold optionalAttr
  cases hattr : dwarfAttrIntegrate dw.die die DwAt.name with
  | none => simp [hattr] at h
  | some attr => simp_all; rfl

/-- The compound dispatcher on a self-definition fails as the search for its definition does. -/
theorem drgnCompoundTypeFromDwarf_self {die : DieKey} {name : String}
    (h : SelfDefinition dw die name) {kind : TypeKind} (lang : Option Language)
    (hkind : kind = .struct ∨ kind = .union ∨ kind = .class)
    (htag : typeFindTag kind = some (dwarfTag dw.die die)) {s s' : DwarfInfoCache}
    {err : DrgnError}
    (hfind : findCompleteOfDeclaration dw resolve true (dwarfTag dw.die die) (some name) s =
      .error (.error err) s') :
    drgnCompoundTypeFromDwarf dw resolve die lang kind s = .error (.error err) s' := by
  rcases hkind with rfl | rfl | rfl <;>
  · simp only [typeFindTag, Option.some.injEq] at htag
    unfold drgnCompoundTypeFromDwarf
    simp only [pure_bind]
    rw [bind_eq_of_ok (optionalAttr_name h.named _ s)]
    simp only [h.declaration]
    rw [← htag] at hfind
    exact bind_eq_error hfind

/-- So does the enumeration dispatcher. -/
theorem drgnEnumTypeFromDwarf_self {die : DieKey} {name : String}
    (h : SelfDefinition dw die name) (lang : Option Language)
    (htag : dwarfTag dw.die die = DwTag.enumerationType) {s s' : DwarfInfoCache}
    {err : DrgnError}
    (hfind : findCompleteOfDeclaration dw resolve true (dwarfTag dw.die die) (some name) s =
      .error (.error err) s') :
    drgnEnumTypeFromDwarf dw resolve die lang s = .error (.error err) s' := by
  unfold drgnEnumTypeFromDwarf
  rw [bind_eq_of_ok (optionalAttr_name h.named _ s)]
  simp only [h.declaration]
  rw [htag] at hfind
  exact bind_eq_error hfind

/-- And so does the switch, whichever of the four tags the DIE has. -/
theorem typeFromDwarfSwitch_self {die : DieKey} {name : String} (h : SelfDefinition dw die name)
    (lang : Option Language) (f : Bool) {s s' : DwarfInfoCache} {err : DrgnError}
    (hfind : findCompleteOfDeclaration dw resolve true (dwarfTag dw.die die) (some name) s =
      .error (.error err) s') :
    typeFromDwarfSwitch dw resolve die lang f s = .error (.error err) s' := by
  have hc := h.completable
  simp only [completableTags, List.mem_cons, List.mem_singleton, List.not_mem_nil, or_false] at hc
  unfold typeFromDwarfSwitch
  rcases hc with htag | htag | htag | htag <;>
    simp only [htag, DwTag.structureType, DwTag.unionType, DwTag.classType,
      DwTag.enumerationType, DwTag.constType, DwTag.restrictType, DwTag.volatileType,
      DwTag.atomicType, DwTag.baseType, Nat.reduceEqDiff, ↓reduceIte] <;>
    refine bind_eq_error ?_
  · exact drgnCompoundTypeFromDwarf_self h lang (.inl rfl) (by rw [htag]; rfl) hfind
  · exact drgnCompoundTypeFromDwarf_self h lang (.inr (.inl rfl)) (by rw [htag]; rfl) hfind
  · exact drgnCompoundTypeFromDwarf_self h lang (.inr (.inr rfl)) (by rw [htag]; rfl) hfind
  · exact drgnEnumTypeFromDwarf_self h lang htag hfind

/-- A readable unit gives its language and leaves the cache as it was. -/
theorem drgnLanguageFromDie_readable {die : DieKey}
    (h : (dw.die die).unit.cuDieUnreadable = false) (s : DwarfInfoCache) :
    drgnLanguageFromDie dw die s = .ok (dw.die die).unit.language s := by
  simp [drgnLanguageFromDie, h]; rfl

/-- **One level of a self-definition.** A miss below the depth bound materializes the DIE, whose
switch resolves the DIE again one level deeper; that error comes back with the depth restored. -/
theorem typeFromDwarfInternalAux_self_step {die : DieKey} {name : String}
    (h : SelfDefinition dw die name) {n : Nat} {s s' : DwarfInfoCache} {err : DrgnError}
    (hdepth : s.depth < 1000) (hmiss : searchMemo s die true = none)
    (hnext : typeFromDwarfInternalAux dw n die true { s with depth := s.depth + 1 } =
      .error (.error err) s') (hstop : err.code ≠ .stop) :
    typeFromDwarfInternalAux dw (n + 1) die true s =
      .error (.error err) { s' with depth := s'.depth - 1 } := by
  simp only [typeFromDwarfInternalAux, lookupMemo, ge_iff_le, Nat.not_le.mpr hdepth, hmiss,
    ↓reduceIte]
  unfold materialize
  rw [bind_eq_of_ok (drgnLanguageFromDie_readable h.readable s)]
  refine bind_eq_error ?_
  unfold withDepth
  rw [typeFromDwarfSwitch_self h _ _ (findCompleteOfDeclaration_self h hnext hstop)]

/-- With `n` levels left before the depth bound, a self-definition fails with the depth guard's
error. -/
theorem selfDefinition_recursion_aux {die : DieKey} {name : String}
    (h : SelfDefinition dw die name) (n : Nat) :
    ∀ s : DwarfInfoCache, s.depth + n = 1000 → searchMemo s die true = none →
      ∃ s', typeFromDwarfInternalAux dw n die true s = .error (.error recursionError) s' := by
  induction n with
  | zero =>
    intro s hdepth _
    refine ⟨s, ?_⟩
    simp only [typeFromDwarfInternalAux, lookupMemo, ge_iff_le, show 1000 ≤ s.depth by omega,
      ↓reduceIte]
  | succ n ih =>
    intro s hdepth hmiss
    obtain ⟨s', hnext⟩ := ih { s with depth := s.depth + 1 } (by simp; omega) hmiss
    exact ⟨_, typeFromDwarfInternalAux_self_step h (by omega) hmiss hnext nofun⟩

/-- **A self-definition never materializes.** From every state at most at the depth bound that
has no entry for it, resolving it fails with `DRGN_ERROR_RECURSION`: each level looks for the
definition of the DIE, finds the DIE, and resolves it again. -/
theorem selfDefinition_recursion {die : DieKey} {name : String} (h : SelfDefinition dw die name)
    {s : DwarfInfoCache} (hdepth : s.depth ≤ 1000) (hmiss : searchMemo s die true = none) :
    ∃ s', drgnTypeFromDwarfInternal dw die true s = .error (.error recursionError) s' :=
  selfDefinition_recursion_aux h _ s (by omega) hmiss

end SelfDefinition

/-! ## A C++ program

`struct Outer { struct Inner; enum Color : int; }; struct Outer::Inner { int x; };
enum Outer::Color : int { red };` as a C++ compiler describes it: the definitions of `Inner` and
`Color` stand outside `Outer` and name their declarations with `DW_AT_specification`. The index
holds the DIEs with no `DW_AT_declaration` of their own: `Outer`, the definition of `Inner` under
its name, and the definition of `Color` under its enumerator `red`. -/

/-- The DIEs of the program. -/
def specDie : DieKey → Die
  | 1 => { tag := DwTag.structureType, children := [2, 6],
           attributes := [⟨DwAt.name, .string "Outer"⟩, ⟨DwAt.byteSize, .data 1⟩],
           unit := { language := some .cpp } }
  | 2 => { tag := DwTag.structureType,
           attributes := [⟨DwAt.name, .string "Inner"⟩, ⟨DwAt.declaration, .flag true⟩],
           unit := { language := some .cpp } }
  | 3 => { tag := DwTag.structureType, children := [4],
           attributes := [⟨DwAt.specification, .ref 2⟩, ⟨DwAt.byteSize, .data 4⟩],
           unit := { language := some .cpp } }
  | 4 => { tag := DwTag.member,
           attributes := [⟨DwAt.name, .string "x"⟩, ⟨DwAt.type, .ref 5⟩,
             ⟨DwAt.dataMemberLocation, .data 0⟩],
           unit := { language := some .cpp } }
  | 5 => { tag := DwTag.baseType,
           attributes := [⟨DwAt.name, .string "int"⟩, ⟨DwAt.encoding, .data 5⟩,
             ⟨DwAt.byteSize, .data 4⟩],
           unit := { language := some .cpp } }
  | 6 => { tag := DwTag.enumerationType,
           attributes := [⟨DwAt.name, .string "Color"⟩, ⟨DwAt.declaration, .flag true⟩],
           unit := { language := some .cpp } }
  | 7 => { tag := DwTag.enumerationType, children := [8],
           attributes := [⟨DwAt.specification, .ref 6⟩, ⟨DwAt.type, .ref 5⟩,
             ⟨DwAt.byteSize, .data 4⟩],
           unit := { language := some .cpp } }
  | 8 => { tag := DwTag.enumerator,
           attributes := [⟨DwAt.name, .string "red"⟩, ⟨DwAt.constValue, .data 0⟩],
           unit := { language := some .cpp } }
  | _ => { tag := 0 }

/-- The program and its index. -/
def specDwarf : DwarfInfo where
  die := specDie
  index name _ :=
    if name = "Outer" then ⟨[(1, 0)], false⟩ else if name = "Inner" then ⟨[(3, 0)], false⟩
    else if name = "red" then ⟨[(7, 0)], false⟩ else ⟨[], false⟩
  dieMatchesFilename _ _ := true
  wordSize := some 8
  objectSetCommon _ := .error (otherError "no object layer")

/-- The index holds only DIEs with no `DW_AT_declaration` of their own. -/
theorem specDwarf_index_definitions (name : String) (tags : List Nat) :
    ∀ p ∈ (specDwarf.index name tags).entries,
      dwarfAttr specDwarf.die p.1 DwAt.declaration = none := by
  intro p hp
  simp only [specDwarf] at hp
  repeat' split at hp
  all_goals simp only [List.mem_singleton, List.not_mem_nil] at hp
  all_goals subst hp; rfl

/-- **A definition that names its declaration is taken for one.** The definition of `Inner`
(DIE 3) and that of `Color` (DIE 7) have no `DW_AT_declaration` of their own, yet `dwarf_flag`
reads the one of their declarations. Resolving `Inner` looks for its definition, finds DIE 3
itself, and fails with `DRGN_ERROR_RECURSION`; `Color` materializes as an incomplete enumeration,
as no definition is indexed under its name; and looking up the object `red`, which the index
maps to `Color`, finds no such enumerator in the incomplete type and reaches `UNREACHABLE()`. -/
theorem specification_taken_for_declaration :
    (∀ name tags, ∀ p ∈ (specDwarf.index name tags).entries,
      dwarfAttr specDwarf.die p.1 DwAt.declaration = none) ∧
    dwarfFlag specDwarf.die 3 DwAt.declaration = some true ∧
    (∃ s', drgnTypeFromDwarfInternal specDwarf 3 true (drgnDwarfInfoCacheCreate []) =
      .error (.error recursionError) s') ∧
    dwarfFlag specDwarf.die 7 DwAt.declaration = some true ∧
    (∃ s', drgnTypeFromDwarfInternal specDwarf 7 true (drgnDwarfInfoCacheCreate []) =
      .ok (⟨.incompleteEnum (some "Color") (some .cpp), 0⟩, some false) s') ∧
    ∃ s', drgnDwarfObjectFind specDwarf "red" none FindObject.constant
      (drgnDwarfInfoCacheCreate []) = .error .unreachable s' :=
  ⟨specDwarf_index_definitions, rfl,
    selfDefinition_recursion
      (⟨by decide, rfl, rfl, ⟨0, rfl⟩, rfl⟩ : SelfDefinition specDwarf 3 "Inner") (by decide) rfl,
    rfl, ⟨_, rfl⟩, ⟨_, rfl⟩⟩

end Drgn
