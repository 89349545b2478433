import DrgnDwarf.Enum
import DrgnDwarf.Law

/-!
# DrgnDwarf — the enumerator object is read off the enumeration's children

The name index maps an enumerator's name to its enumeration type DIE, and
`drgn_object_from_dwarf_enumerator` looks the name up among the enumerators of the type that DIE
materializes to, reaching `UNREACHABLE()` when it is not there. The type may come from
`dicache->map`, materialized by an earlier call from another cache; what it holds is still the
enumerators of the DIE's own children, since a complete enumeration is built from them alone.

* **`EnumeratorsOK`** — the law of a complete enumeration DIE: its type has the enumerators of
  its `DW_TAG_enumerator` children, in order. The switch passes it on
  (`switchTransfers_enumerators`).
* **`drgnObjectFromDwarfEnumerator_of_children`** — from every reachable cache, the object is
  what `drgn_object_set_signed` or `drgn_object_set_unsigned` sets from the value of the first
  enumerator child with the name, and `UNREACHABLE()` is reached exactly when no child has it.
-/

namespace Drgn

/-- The enumerators a complete enumeration DIE materializes with: those of its enumerator
children, in order. -/
def EnumeratorsOK (dw : DwarfInfo) (die : DieKey) (t : DrgnType) : Prop :=
  dwarfTag dw.die die = DwTag.enumerationType →
    dwarfFlag dw.die die DwAt.declaration = some false →
    (childrenTagged dw DwTag.enumerator (dw.die die).children).mapM (enumeratorOf dw) =
      some t.enumerators

section Enumerators

variable {dw : DwarfInfo}

/-- A complete enumeration has the enumerators of its children, whatever its compatible type. -/
theorem drgnEnumTypeFromDwarf_children {resolve : Resolver} {die : DieKey}
    {lang : Option Language} (hdecl : dwarfFlag dw.die die DwAt.declaration = some false) :
    Returns (fun t => (childrenTagged dw DwTag.enumerator (dw.die die).children).mapM
        (enumeratorOf dw) = some t.enumerators)
      (drgnEnumTypeFromDwarf dw resolve die lang) := by
  unfold drgnEnumTypeFromDwarf
  refine .bind fun _ _ _ _ => ?_
  simp only [hdecl, findCompleteOfDeclaration_false, pure_bind, Bool.false_eq_true, ↓reduceIte]
  refine .bind_of (parseEnumerators_returns _ [] false) ?_
  rintro _ ⟨es, hmap, rfl⟩
  exact .ite (fun _ => .throw) fun _ =>
    .bind fun _ _ _ _ => createType_returns (by simpa using hmap)

/-- **The switch passes the enumerator law on**: only the enumeration case can meet it, and that
case builds a complete enumeration from its children. -/
theorem switchTransfers_enumerators : SwitchTransfers dw (EnumeratorsOK dw) := by
  intro resolve _ die lang f
  by_cases hlaw : dwarfTag dw.die die = DwTag.enumerationType ∧
    dwarfFlag dw.die die DwAt.declaration = some false
  · obtain ⟨htag, hdecl⟩ := hlaw
    unfold typeFromDwarfSwitch
    simp only [htag, DwTag.constType, DwTag.restrictType, DwTag.volatileType, DwTag.atomicType,
      DwTag.baseType, DwTag.structureType, DwTag.unionType, DwTag.classType,
      DwTag.enumerationType, Nat.reduceEqDiff, ↓reduceIte]
    exact (unqualifiedTypeFromDwarf_returns (drgnEnumTypeFromDwarf_children hdecl)).mono
      fun _ h _ _ => h
  · exact fun _ _ _ _ htag hdecl => absurd ⟨htag, hdecl⟩ hlaw

/-- **The enumerator object is set from the enumeration's child of that name.** From every
reachable cache, once the complete enumeration DIE `die` materializes to `qt`,
`drgn_object_from_dwarf_enumerator` hands the value of the first of its enumerator children named
`name` to `drgn_object_set_signed` or `drgn_object_set_unsigned`, after the signedness of the
compatible type, and returns what the setter returns; it reaches `UNREACHABLE()` exactly when none
of them has the name. Either way it starts from the cache the materialization left. -/
theorem drgnObjectFromDwarfEnumerator_of_children {s s' : DwarfInfoCache} (hs : Reachable dw s)
    {die : DieKey} (htag : dwarfTag dw.die die = DwTag.enumerationType)
    (hdecl : dwarfFlag dw.die die DwAt.declaration = some false) {qt : QualifiedType}
    (hqt : drgnTypeFromDwarf (drgnTypeFromDwarfInternal dw) die s = .ok qt s') (name : String) :
    ∃ es, (childrenTagged dw DwTag.enumerator (dw.die die).children).mapM (enumeratorOf dw) =
        some es ∧
      drgnObjectFromDwarfEnumerator dw die name s =
        match es.find? (·.name == name) with
        | some e => (if qt.type.enumIsSigned then drgnObjectSetSigned dw qt e.value.svalue
            else drgnObjectSetUnsigned dw qt e.value.uvalue) s'
        | none => .error .unreachable s' := by
  obtain ⟨⟨_, _⟩, _, hint, hpure⟩ := bind_eq_ok hqt
  cases hpure
  refine ⟨_, (drgnTypeFromDwarfInternal_obeys switchTransfers_enumerators hs).2 die true _ _ hint
    htag hdecl, ?_⟩
  unfold drgnObjectFromDwarfEnumerator
  rw [bind_eq_of_ok hqt]
  cases List.find? (fun x => x.name == name) qt.type.enumerators <;> rfl

end Enumerators

/-- In `enumDwarf`, from a new cache, the object `NEG` of `enum S` is set from its enumerator child
by `drgn_object_set_signed`, the compatible type being signed. -/
theorem enumDwarf_enumerator_neg :
    ∃ qt s', Reachable enumDwarf (drgnDwarfInfoCacheCreate []) ∧
      dwarfTag enumDwarf.die 1 = DwTag.enumerationType ∧
      dwarfFlag enumDwarf.die 1 DwAt.declaration = some false ∧
      drgnTypeFromDwarf (drgnTypeFromDwarfInternal enumDwarf) 1 (drgnDwarfInfoCacheCreate []) =
        .ok qt s' ∧
      ∃ es, (childrenTagged enumDwarf DwTag.enumerator (enumDwarf.die 1).children).mapM
          (enumeratorOf enumDwarf) = some es ∧
        drgnObjectFromDwarfEnumerator enumDwarf 1 "NEG" (drgnDwarfInfoCacheCreate []) =
          match es.find? (·.name == "NEG") with
          | some e => (if qt.type.enumIsSigned then drgnObjectSetSigned enumDwarf qt e.value.svalue
              else drgnObjectSetUnsigned enumDwarf qt e.value.uvalue) s'
          | none => .error .unreachable s' := by
  obtain ⟨qt, s', hqt⟩ : ∃ qt s', drgnTypeFromDwarf (drgnTypeFromDwarfInternal enumDwarf) 1
      (drgnDwarfInfoCacheCreate []) = .ok qt s' := ⟨_, _, rfl⟩
  have htag : dwarfTag enumDwarf.die 1 = DwTag.enumerationType := rfl
  have hdecl : dwarfFlag enumDwarf.die 1 DwAt.declaration = some false := rfl
  exact ⟨qt, s', .create [], htag, hdecl, hqt,
    drgnObjectFromDwarfEnumerator_of_children (.create []) htag hdecl hqt "NEG"⟩

end Drgn
