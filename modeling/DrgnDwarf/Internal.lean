import DrgnDwarf.Dispatch

/-!
# DrgnDwarf — `drgn_type_from_dwarf_internal`, with its memo and without

* **`typeFromDwarfSwitch`** — the `switch (dwarf_tag(die))`: the qualified type and the final
  value of `entry.value.is_incomplete_array`, which only the typedef and array cases set.
* **`typeFromDwarfInternalAux`** — the memoized resolver. It checks `depth >= 1000`, searches
  `dicache->map` (and `cant_be_incomplete_array_map` after a primary hit of an incomplete array
  that the caller cannot take), and on a miss runs the switch between `depth++` and `depth--`,
  then inserts the result into the map the flag and `is_incomplete_array` select. A memo hit
  writes nothing through `is_incomplete_array_ret`, as in the source.
* **`drgnTypeFromDwarfInternal`** — what every caller outside the recursion calls. The recursion
  is structural in a fuel argument; the wrapper gives it `1000 - depth`, which the depth check
  makes enough (`Depth.lean`).
* **`typeFromDwarfMemoFree`** — the reference evaluation: the same switch, no map, no depth bound.
-/

namespace Drgn

section Internal

variable (dw : DwarfInfo)

/-- The error of the depth guard. -/
def recursionError : DrgnError := ⟨.recursion, "maximum DWARF type parsing depth exceeded"⟩

/-- A qualifier case of the switch: the referenced type (void when there is none), resolved as
an incomplete array if it is one, with the qualifier's bit added. -/
def qualifiedTypeFromDwarf (resolve : Resolver) (die : DieKey) (lang : Option Language)
    (tagName : String) (qualifier : Qualifiers) : DrgnM (QualifiedType × Bool) := do
  let (qt, _) ← drgnTypeFromDwarfChild dw resolve die (drgnLanguageOrDefault lang) tagName true
    true
  pure (⟨qt.type, qt.qualifiers ||| qualifier⟩, false)

/-- A case of the switch whose dispatcher writes only `ret->type`. -/
def unqualifiedTypeFromDwarf (m : DrgnM DrgnType) : DrgnM (QualifiedType × Bool) := do
  let t ← m
  pure (⟨t, 0⟩, false)

/-- The `switch (dwarf_tag(die))` of `drgn_type_from_dwarf_internal`: the qualified type, and
`entry.value.is_incomplete_array` as it stands after the case (initialized to false). When
`drgn_array_type_from_dwarf` returns NULL without writing `ret->type`, the insertion that
follows reads an uninitialized value. -/
def typeFromDwarfSwitch (resolve : Resolver) (die : DieKey) (lang : Option Language)
    (canBeIncompleteArray : Bool) : DrgnM (QualifiedType × Bool) :=
  let tag := dwarfTag dw.die die
  if tag = DwTag.constType then
    qualifiedTypeFromDwarf dw resolve die lang "DW_TAG_const_type" Qualifier.const
  else if tag = DwTag.restrictType then
    qualifiedTypeFromDwarf dw resolve die lang "DW_TAG_restrict_type" Qualifier.restrict
  else if tag = DwTag.volatileType then
    qualifiedTypeFromDwarf dw resolve die lang "DW_TAG_volatile_type" Qualifier.volatile
  else if tag = DwTag.atomicType then
    qualifiedTypeFromDwarf dw resolve die lang "DW_TAG_atomic_type" Qualifier.atomic
  else if tag = DwTag.baseType then
    unqualifiedTypeFromDwarf (drgnBaseTypeFromDwarf dw resolve die lang)
  else if tag = DwTag.structureType then
    unqualifiedTypeFromDwarf (drgnCompoundTypeFromDwarf dw resolve die lang .struct)
  else if tag = DwTag.unionType then
    unqualifiedTypeFromDwarf (drgnCompoundTypeFromDwarf dw resolve die lang .union)
  else if tag = DwTag.classType then
    unqualifiedTypeFromDwarf (drgnCompoundTypeFromDwarf dw resolve die lang .«class»)
  else if tag = DwTag.enumerationType then
    unqualifiedTypeFromDwarf (drgnEnumTypeFromDwarf dw resolve die lang)
  else if tag = DwTag.typedef then do
    let (t, isIncompleteArray) ← drgnTypedefTypeFromDwarf dw resolve die lang
      canBeIncompleteArray
    pure (⟨t, 0⟩, isIncompleteArray.getD false)
  else if tag = DwTag.pointerType then
    unqualifiedTypeFromDwarf (drgnPointerTypeFromDwarf dw resolve die lang)
  else if tag = DwTag.arrayType then do
    match ← drgnArrayTypeFromDwarf dw resolve die lang canBeIncompleteArray with
    | some (t, isIncompleteArray) => pure (⟨t, 0⟩, isIncompleteArray)
    | none => throw .indeterminate
  else if tag = DwTag.subroutineType ∨ tag = DwTag.subprogram then
    unqualifiedTypeFromDwarf (drgnFunctionTypeFromDwarf dw resolve die lang)
  else returnError (otherError ("unknown DWARF type tag 0x" ++ hexString tag))

/-- The memo lookup: a primary hit, unless it is an incomplete array and the caller cannot
take one, in which case the restricted map decides. -/
def searchMemo (s : DwarfInfoCache) (die : DieKey) (canBeIncompleteArray : Bool) :
    Option DwarfTypeMapValue :=
  match s.map.search die with
  | some v =>
    if !canBeIncompleteArray && v.isIncompleteArray then s.cantBeIncompleteArrayMap.search die
    else some v
  | none => none

/-- The insertion after a successful dispatch: the restricted map takes an incomplete array
that the caller could not take, the primary map everything else. -/
def insertMemo (s : DwarfInfoCache) (canBeIncompleteArray : Bool) (entry : DwarfTypeMapEntry) :
    DwarfInfoCache :=
  if !canBeIncompleteArray && entry.value.isIncompleteArray then
    { s with cantBeIncompleteArrayMap := s.cantBeIncompleteArrayMap.insertSearched entry }
  else { s with map := s.map.insertSearched entry }

/-- `dicache->depth++`, the computation, and `dicache->depth--` on every way out. -/
def withDepth {α : Type} (m : DrgnM α) : DrgnM α := fun s =>
  match m { s with depth := s.depth + 1 } with
  | .ok a s' => .ok a { s' with depth := s'.depth - 1 }
  | .error e s' => .error e { s' with depth := s'.depth - 1 }

/-- Steps 3 and 4 of `drgn_type_from_dwarf_internal` after a memo miss: the unit's language,
the switch between `depth++` and `depth--`, and the insertion, which may fail to allocate. On
success `is_incomplete_array_ret` is written. -/
def materialize (resolve : Resolver) (die : DieKey) (canBeIncompleteArray : Bool) :
    DrgnM (QualifiedType × Option Bool) := do
  let lang ← drgnLanguageFromDie dw die
  let (qt, isIncompleteArray) ← withDepth
    (typeFromDwarfSwitch dw resolve die lang canBeIncompleteArray)
  if ← allocate then
    modify fun s => insertMemo s canBeIncompleteArray
      ⟨die, ⟨qt.type, qt.qualifiers, isIncompleteArray⟩⟩
    pure (qt, some isIncompleteArray)
  else returnError drgnEnomem

/-- Steps 1 and 2 of `drgn_type_from_dwarf_internal`: the depth guard, then the memo lookup;
`miss` runs when neither map answers. A hit writes nothing through `is_incomplete_array_ret`. -/
def lookupMemo (die : DieKey) (canBeIncompleteArray : Bool)
    (miss : DrgnM (QualifiedType × Option Bool)) : DrgnM (QualifiedType × Option Bool) :=
  fun s =>
    if s.depth ≥ 1000 then .error (.error recursionError) s
    else
      match searchMemo s die canBeIncompleteArray with
      | some v => .ok (⟨v.type, v.qualifiers⟩, none) s
      | none => miss s

/-- `drgn_type_from_dwarf_internal`, with `fuel` bounding the nesting of the recursion. -/
def typeFromDwarfInternalAux : Nat → Resolver
  | 0, die, canBeIncompleteArray => lookupMemo die canBeIncompleteArray (throw .outOfFuel)
  | fuel + 1, die, canBeIncompleteArray =>
    lookupMemo die canBeIncompleteArray
      (materialize dw (typeFromDwarfInternalAux fuel) die canBeIncompleteArray)

/-- `drgn_type_from_dwarf_internal` as its callers outside the recursion see it: the depth
counter leaves `1000 - depth` nested calls. -/
def drgnTypeFromDwarfInternal : Resolver := fun die canBeIncompleteArray s =>
  typeFromDwarfInternalAux dw (1000 - s.depth) die canBeIncompleteArray s

/-- The memo-free evaluation: the same switch with both `dwarf_type_map`s removed and no depth
bound, writing `is_incomplete_array` on every success. -/
def typeFromDwarfMemoFree : Nat → Resolver
  | 0, _, _ => throw .outOfFuel
  | fuel + 1, die, canBeIncompleteArray => do
    let lang ← drgnLanguageFromDie dw die
    let (qt, isIncompleteArray) ← typeFromDwarfSwitch dw (typeFromDwarfMemoFree fuel) die lang
      canBeIncompleteArray
    pure (qt, some isIncompleteArray)

end Internal

end Drgn
