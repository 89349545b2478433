import DrgnDwarf.Array

/-!
# DrgnDwarf — enumeration types: the enumerator loop and the compatible type

`drgn_enum_type_from_dwarf` builds a complete enumeration from the `DW_TAG_enumerator` children
of its DIE, in order, and takes as compatible type the integer type its `DW_AT_type` names. GCC
before 5.1 left `DW_AT_type` out, and then the compatible type is fabricated: an integer of
`dwarf_bytesize` bytes, signed when some enumerator was read as a negative signed value.

* **`enumeratorOf`** — the enumerator one `DW_TAG_enumerator` DIE gives: its name, and its
  `DW_AT_const_value` read as signed for `DW_FORM_sdata` and `DW_FORM_implicit_const`, unsigned
  otherwise.
* **`parseEnumerators_returns`** — the loop adds the enumerators of the enumerator children in
  order, and `is_signed` ends as its start value or'ed with "some enumerator is negative".
* **`drgnEnumTypeFromDwarf_enumerators`** — a complete enumeration meets `EnumSpec`.
* **`enum_byte_size_truncated`** — `dwarf_bytesize` is an `int`: a `DW_AT_byte_size` of
  `2^32 + 4` gives the fabricated compatible type 4 bytes.
-/

namespace Drgn

/-! ## The law of one enumerator -/

/-- The value a `DW_AT_const_value` gives an enumerator: signed for `DW_FORM_sdata` and
`DW_FORM_implicit_const`, unsigned for every other form. -/
def enumeratorValue (attr : DwarfAttribute) : Option EnumeratorValue :=
  match attr.value with
  | .sdata _ | .implicitConst _ => (dwarfFormsdata attr).map .signed
  | _ => (dwarfFormudata attr).map .unsigned

/-- The enumerator a `DW_TAG_enumerator` DIE gives: its name and the value of its
`DW_AT_const_value`. -/
def enumeratorOf (dw : DwarfInfo) (die : DieKey) : Option TypeEnumerator := do
  let name ← dwarfDiename dw.die die
  let attr ← dwarfAttrIntegrate dw.die die DwAt.constValue
  let value ← enumeratorValue attr
  pure ⟨name, value⟩

/-- Whether an enumerator has a negative signed value. -/
def TypeEnumerator.isNegative : TypeEnumerator → Bool
  | ⟨_, .signed v⟩ => decide (v < 0)
  | ⟨_, .unsigned _⟩ => false

/-! ## The enumerator loop -/

section Loop

variable {dw : DwarfInfo}

/-- **`parse_enumerator` adds the enumerator its DIE gives**, and sets `is_signed` when that
enumerator is negative. -/
theorem parseEnumerator_returns (c : DieKey) (builder : List TypeEnumerator) (isSigned : Bool) :
    Returns (fun r => ∃ e, enumeratorOf dw c = some e ∧
        r = (builder ++ [e], isSigned || e.isNegative))
      (parseEnumerator dw c builder isSigned) := by
  unfold parseEnumerator
  cases hname : dwarfDiename dw.die c with
  | none => exact .throw
  | some name =>
  cases hattr : dwarfAttrIntegrate dw.die c DwAt.constValue with
  | none => exact .throw
  | some attr =>
  dsimp only
  split
  case h_3 hsigned hconst =>
    cases hu : dwarfFormudata attr with
    | none => exact .throw
    | some v =>
      refine .bind_of (builderAdd_returns _ _) ?_
      rintro _ rfl
      have hvalue : enumeratorValue attr = some (.unsigned v) := by
        unfold enumeratorValue
        split
        · exact absurd ‹_› (hsigned _)
        · exact absurd ‹_› (hconst _)
        · rw [hu]; rfl
      exact .pure ⟨⟨name, .unsigned v⟩, by simp [enumeratorOf, hname, hattr, hvalue],
        by simp [TypeEnumerator.isNegative]⟩
  all_goals
    rename_i hvalue
    cases hs : dwarfFormsdata attr with
    | none => exact .throw
    | some v =>
      refine .bind_of (builderAdd_returns _ _) ?_
      rintro _ rfl
      exact .pure ⟨_, by simp [enumeratorOf, enumeratorValue, hname, hattr, hs, hvalue], rfl⟩

/-- **The enumerator loop adds one enumerator per enumerator child, in order.** `is_signed` ends
as its start value or'ed with whether any of them is negative. -/
theorem parseEnumerators_returns (children : List DieKey) (builder : List TypeEnumerator)
    (isSigned : Bool) :
    Returns (fun r => ∃ es,
        (childrenTagged dw DwTag.enumerator children).mapM (enumeratorOf dw) = some es ∧
        r = (builder ++ es, isSigned || es.any TypeEnumerator.isNegative))
      (parseEnumerators dw children builder isSigned) := by
  induction children generalizing builder isSigned with
  | nil => exact .pure ⟨[], rfl, by simp⟩
  | cons child rest ih =>
    rw [parseEnumerators]
    split
    · rename_i htag
      have htagged : childrenTagged dw DwTag.enumerator (child :: rest) =
          child :: childrenTagged dw DwTag.enumerator rest :=
        List.filter_cons_of_pos (by simpa using htag)
      refine .bind_of (parseEnumerator_returns child builder isSigned) ?_
      rintro _ ⟨e, he, rfl⟩ s r s' hrun
      obtain ⟨es, hmap, rfl⟩ := ih _ _ s r s' hrun
      rw [htagged, List.mapM_cons, he, hmap]
      exact ⟨e :: es, rfl, by simp [Bool.or_assoc]⟩
    · rename_i htag
      have htagged : childrenTagged dw DwTag.enumerator (child :: rest) =
          childrenTagged dw DwTag.enumerator rest :=
        List.filter_cons_of_neg (by simpa using htag)
      rw [htagged]
      exact ih builder isSigned

end Loop

/-! ## Complete enumerations -/

section Enum

variable {dw : DwarfInfo} {resolve : Resolver}

/-- The compatible type the law gives the enumeration DIE `die` with enumerators `es`: the type
its `DW_AT_type` resolves to, which is an integer type; without `DW_AT_type`, an integer named
`<unknown>` of `dwarf_bytesize` bytes, signed when some enumerator is negative. A `DW_AT_type`
that names no DIE gives none. -/
def CompatibleTypeSpec (dw : DwarfInfo) (resolve : Resolver) (die : DieKey)
    (lang : Option Language) (es : List TypeEnumerator) (compatibleType : DrgnType) : Prop :=
  match dwarfType dw.die die with
  | .ref e => compatibleType.kind = .int ∧
      ∃ qt w s₁ s₂, resolve e true s₁ = .ok (qt, w) s₂ ∧ compatibleType = qt.type
  | .absent => compatibleType = .int "<unknown>" (intToWord (dwarfBytesize dw.die die))
      (es.any TypeEnumerator.isNegative) lang
  | .invalid => False

/-- What the law says of a complete enumeration DIE `die` that materializes to `t`: an
enumeration with the DIE's `DW_AT_name` as tag, the enumerators of its enumerator children in
order, and the compatible type of `CompatibleTypeSpec`. -/
def EnumSpec (dw : DwarfInfo) (resolve : Resolver) (die : DieKey) (lang : Option Language)
    (t : DrgnType) : Prop :=
  ∃ es compatibleType,
    t = .enum ((dwarfAttrIntegrate dw.die die DwAt.name).bind dwarfFormstring) compatibleType es
      lang ∧
    (childrenTagged dw DwTag.enumerator (dw.die die).children).mapM (enumeratorOf dw) = some es ∧
    CompatibleTypeSpec dw resolve die lang es compatibleType

/-- **Enumerations are built from their enumerator children.** Whatever
`drgn_enum_type_from_dwarf` returns for a DIE whose `DW_AT_declaration` is false meets
`EnumSpec`. -/
theorem drgnEnumTypeFromDwarf_enumerators {die : DieKey} {lang : Option Language}
    (hdecl : dwarfFlag dw.die die DwAt.declaration = some false) :
    Returns (EnumSpec dw resolve die lang) (drgnEnumTypeFromDwarf dw resolve die lang) := by
  unfold drgnEnumTypeFromDwarf
  refine .bind fun tag _ _ htag => ?_
  obtain ⟨-, htag, -⟩ := optionalAttr_eq_ok htag
  simp only [hdecl, findCompleteOfDeclaration_false, pure_bind, Bool.false_eq_true, ↓reduceIte]
  refine .bind_of (parseEnumerators_returns _ [] false) ?_
  rintro _ ⟨es, hmap, rfl⟩
  simp only [List.nil_append, Bool.false_or]
  split
  · exact .throw
  refine .bind_of (Q := CompatibleTypeSpec dw resolve die lang es) ?_ fun compatibleType h =>
    createType_returns ⟨es, compatibleType, by rw [htag], hmap, h⟩
  split
  · exact .throw
  · rename_i hty
    dsimp only [enumCompatibleTypeFallback]
    split
    · exact .throw
    · exact createType_returns (by simp [CompatibleTypeSpec, hty])
  · rename_i e hty
    refine .bind fun qt s₁ s₂ hqt => ?_
    obtain ⟨⟨qt', w⟩, _, hres, hqt⟩ := bind_eq_ok hqt
    cases hqt
    split
    · exact .throw
    · rename_i hint
      refine .pure ?_
      simp only [CompatibleTypeSpec, hty]
      exact ⟨Decidable.of_not_not hint, qt, w, s₁, _, hres, rfl⟩

end Enum

/-! ## Two enumerations

`enum S { NEG = -1, POS = 1 }` without `DW_AT_type`, its first enumerator in `DW_FORM_sdata`,
and `enum E { A = 1 }`, also without `DW_AT_type`, whose `DW_AT_byte_size` is `2^32 + 4`. -/

/-- The DIEs of the program. -/
def enumDie : DieKey → Die
  | 1 => { tag := DwTag.enumerationType, children := [2, 3],
           attributes := [⟨DwAt.name, .string "S"⟩, ⟨DwAt.byteSize, .data 4⟩] }
  | 2 => { tag := DwTag.enumerator,
           attributes := [⟨DwAt.name, .string "NEG"⟩, ⟨DwAt.constValue, .sdata uint64Max⟩] }
  | 3 => { tag := DwTag.enumerator,
           attributes := [⟨DwAt.name, .string "POS"⟩, ⟨DwAt.constValue, .data 1⟩] }
  | 4 => { tag := DwTag.enumerationType, children := [5],
           attributes := [⟨DwAt.name, .string "E"⟩, ⟨DwAt.byteSize, .data 0x100000004⟩] }
  | 5 => { tag := DwTag.enumerator,
           attributes := [⟨DwAt.name, .string "A"⟩, ⟨DwAt.constValue, .data 1⟩] }
  | _ => { tag := 0 }

/-- The program, over the example object layer; nothing is indexed. -/
def enumDwarf : DwarfInfo where
  die := enumDie
  index _ _ := ⟨[], false⟩
  dieMatchesFilename _ _ := true
  wordSize := some 8
  objectSetCommon qt := .ok (exampleObjectCommon qt.type)

/-- `enum S` is a definition that materializes, its compatible type a signed 4-byte integer for
its negative enumerator, and meets `EnumSpec`. -/
theorem signed_enum_compatible_type :
    dwarfFlag enumDwarf.die 1 DwAt.declaration = some false ∧
    (∃ s', drgnEnumTypeFromDwarf enumDwarf (drgnTypeFromDwarfInternal enumDwarf) 1 (some .c)
      (drgnDwarfInfoCacheCreate []) = .ok (.enum (some "S") (.int "<unknown>" 4 true (some .c))
        [⟨"NEG", .signed (-1)⟩, ⟨"POS", .unsigned 1⟩] (some .c)) s') ∧
    Returns (EnumSpec enumDwarf (drgnTypeFromDwarfInternal enumDwarf) 1 (some .c))
      (drgnEnumTypeFromDwarf enumDwarf (drgnTypeFromDwarfInternal enumDwarf) 1 (some .c)) :=
  ⟨rfl, ⟨_, rfl⟩, drgnEnumTypeFromDwarf_enumerators rfl⟩

/-- **The fabricated compatible type truncates `DW_AT_byte_size`.** `dwarf_bytesize` returns an
`int`: the `DW_AT_byte_size` `2^32 + 4` of `enum E` is read as 4, and `drgn_type_from_dwarf`
builds the enumeration with a 4-byte compatible type. -/
theorem enum_byte_size_truncated :
    (dwarfAttrIntegrate enumDwarf.die 4 DwAt.byteSize).bind dwarfFormudata = some 0x100000004 ∧
    dwarfType enumDwarf.die 4 = .absent ∧
    ∃ s', drgnTypeFromDwarfInternal enumDwarf 4 true (drgnDwarfInfoCacheCreate []) =
      .ok (⟨.enum (some "E") (.int "<unknown>" 4 false (some .c)) [⟨"A", .unsigned 1⟩] (some .c),
        0⟩, some false) s' :=
  ⟨rfl, rfl, _, rfl⟩

end Drgn
