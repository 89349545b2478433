import DrgnDwarf.Cache

/-!
# DrgnDwarf — the kind dispatchers

One definition per function of `dwarf_info_cache.c` between `dwarf_die_is_little_endian` and
`drgn_function_type_from_dwarf`, in the source's order and under its names.

Every dispatcher that materializes another type does it through a **`Resolver`**, the
`drgn_type_from_dwarf_internal` it is handed. The memoized evaluator of `Internal.lean` and the
memo-free one both close the recursion over these same dispatchers, so the two differ in the
memo and the depth counter and in nothing else.

Loops over children are structural recursions over the child list. The one-behind member buffer
of `drgn_compound_type_from_dwarf`, the `is_signed` fold of `drgn_enum_type_from_dwarf`, the
`is_variadic` flag of `drgn_function_type_from_dwarf` and the dimension vector of
`drgn_array_type_from_dwarf` are their accumulators; the pop loop that builds an array
innermost first is `arrayTypeLoop`.
-/

namespace Drgn

/-- `drgn_type_from_dwarf_internal` as the dispatchers call it: resolve a DIE under a
`can_be_incomplete_array` flag. The second component is what the call writes through a
non-NULL `is_incomplete_array_ret` (`none`: it writes nothing). -/
abbrev Resolver := DieKey → Bool → DrgnM (QualifiedType × Option Bool)

/-- `%x`: lower-case hexadecimal digits. -/
def hexString (n : Nat) : String := String.mk (Nat.toDigits 16 n)

/-- The conversion of an `int` size to the factory's `uint64_t`. -/
def intToWord (i : Int) : UInt64 := UInt64.ofNat (i % UInt64.size).toNat

/-- `UINT64_MAX`. -/
def uint64Max : UInt64 := 0xFFFFFFFFFFFFFFFF

section Dispatch

variable (dw : DwarfInfo)

/-- An optional attribute read through `dwarf_attr_integrate`: absent is `none`, present and
decodable is its value, present and not decodable is the error `message`. -/
def optionalAttr {α : Type} (die : DieKey) (name : Nat) (decode : DwarfAttribute → Option α)
    (message : String) : DrgnM (Option α) :=
  match dwarfAttrIntegrate dw.die die name with
  | none => pure none
  | some attr =>
    match decode attr with
    | some a => pure (some a)
    | none => returnError (otherError message)

/-- `drgn_language_from_die`. -/
def drgnLanguageFromDie (die : DieKey) : DrgnM (Option Language) :=
  if (dw.die die).unit.cuDieUnreadable then returnError libdwError
  else pure (dw.die die).unit.language

/-- `dwarf_die_is_little_endian`. -/
def dwarfDieIsLittleEndian (die : DieKey) (checkAttr : Bool) : Except DrgnError Bool := do
  let endianity ← if checkAttr then
      match dwarfAttrIntegrate dw.die die DwAt.endianity with
      | some attr =>
        match dwarfFormudata attr with
        | some w => pure w
        | none => throw (otherError "invalid DW_AT_endianity")
      | none => pure DwEnd.default
    else pure DwEnd.default
  if endianity = DwEnd.default then pure (dw.die die).unit.littleEndian
  else if endianity = DwEnd.little then pure true
  else if endianity = DwEnd.big then pure false
  else throw (otherError "unknown DW_AT_endianity")

/-- `dwarf_die_byte_order`. -/
def dwarfDieByteOrder (die : DieKey) (checkAttr : Bool) : Except DrgnError ByteOrder :=
  (dwarfDieIsLittleEndian dw die checkAttr).map
    fun littleEndian => if littleEndian then .littleEndian else .bigEndian

/-- `drgn_lazy_type_from_dwarf`: a thunk for the DIE's `DW_AT_type`. -/
def drgnLazyTypeFromDwarf (parentDie : DieKey) (canBeIncompleteArray : Bool)
    (tagName : String) : DrgnM LazyType :=
  match dwarfAttrIntegrate dw.die parentDie DwAt.type with
  | none => returnError (otherError (tagName ++ " is missing DW_AT_type"))
  | some attr =>
    match dwarfFormrefDie attr with
    | none => returnError (otherError (tagName ++ " has invalid DW_AT_type"))
    | some typeDie => do
      if ← allocate then pure (.thunk typeDie canBeIncompleteArray)
      else returnError drgnEnomem

/-- `struct array_dimension`. -/
structure ArrayDimension where
  length : UInt64
  isComplete : Bool
  deriving DecidableEq, Repr

/-- `subrange_length`. `DW_AT_upper_bound` is looked for first; a dimension with neither
attribute is incomplete (its length is never read). -/
def subrangeLength (die : DieKey) : Except DrgnError ArrayDimension :=
  match (dwarfAttrIntegrate dw.die die DwAt.upperBound).orElse
      fun _ => dwarfAttrIntegrate dw.die die DwAt.count with
  | none => pure ⟨0, false⟩
  | some attr =>
    match dwarfFormudata attr with
    | none =>
      throw (otherError ("DW_TAG_subrange_type has invalid " ++
        if attr.code = DwAt.upperBound then "DW_AT_upper_bound" else "DW_AT_count"))
    | some word =>
      if attr.code = DwAt.upperBound ∧ attr.value.isSdata ∧ word = uint64Max then
        pure ⟨0, true⟩
      else if attr.code = DwAt.upperBound then
        if word ≥ uint64Max then throw ⟨.overflow, "DW_AT_upper_bound is too large"⟩
        else pure ⟨word + 1, true⟩
      else if word > uint64Max then throw ⟨.overflow, "DW_AT_count is too large"⟩
      else pure ⟨word, true⟩

variable (resolve : Resolver)

/-- `drgn_type_from_dwarf`: resolve with `can_be_incomplete_array = true`, nothing written back. -/
def drgnTypeFromDwarf (die : DieKey) : DrgnM QualifiedType := do
  let (qt, _) ← resolve die true
  pure qt

/-- `drgn_lazy_type_evaluate` of a thunk made by `drgn_lazy_type_from_dwarf`: its evaluate
function is `drgn_type_from_dwarf_internal(die, can_be_incomplete_array, NULL)`, and the lazy
type then holds the result. -/
def drgnLazyTypeEvaluate : LazyType → DrgnM (QualifiedType × LazyType)
  | .evaluated t q => pure (⟨t, q⟩, .evaluated t q)
  | .thunk die canBeIncompleteArray => do
    let (qt, _) ← resolve die canBeIncompleteArray
    pure (qt, .evaluated qt.type qt.qualifiers)

/-- `drgn_type_from_dwarf_child`. -/
def drgnTypeFromDwarfChild (parentDie : DieKey) (parentLang : Option Language)
    (tagName : String) (canBeVoid canBeIncompleteArray : Bool) :
    DrgnM (QualifiedType × Option Bool) :=
  match dwarfAttrIntegrate dw.die parentDie DwAt.type with
  | none =>
    if canBeVoid then do
      let lang ← (match parentLang with
        | some l => pure (some l)
        | none => drgnLanguageFromDie dw parentDie)
      pure (⟨drgnVoidType lang, 0⟩, none)
    else returnError (otherError (tagName ++ " is missing DW_AT_type"))
  | some attr =>
    match dwarfFormrefDie attr with
    | none => returnError (otherError (tagName ++ " has invalid DW_AT_type"))
    | some typeDie => resolve typeDie canBeIncompleteArray

/-- `drgn_base_type_from_dwarf`. -/
def drgnBaseTypeFromDwarf (die : DieKey) (lang : Option Language) : DrgnM DrgnType := do
  let some name := dwarfDiename dw.die die
    | returnError (otherError "DW_TAG_base_type has missing or invalid DW_AT_name")
  let some encoding := (dwarfAttrIntegrate dw.die die DwAt.encoding).bind dwarfFormudata
    | returnError (otherError "DW_TAG_base_type has missing or invalid DW_AT_encoding")
  let size := dwarfBytesize dw.die die
  if size = -1 then
    returnError (otherError "DW_TAG_base_type has missing or invalid DW_AT_byte_size")
  else if encoding = DwAte.boolean then drgnBoolTypeCreate name (intToWord size) lang
  else if encoding = DwAte.float then drgnFloatTypeCreate name (intToWord size) lang
  else if encoding = DwAte.signed ∨ encoding = DwAte.signedChar then
    drgnIntTypeCreate name (intToWord size) true lang
  else if encoding = DwAte.unsigned ∨ encoding = DwAte.unsignedChar then
    drgnIntTypeCreate name (intToWord size) false lang
  else if encoding = DwAte.complexFloat then
    match dwarfType dw.die die with
    | .ref child => do
      let realType ← drgnTypeFromDwarf resolve child
      if realType.type.kind ≠ .float ∧ realType.type.kind ≠ .int then
        returnError (otherError
          "DW_AT_type of DW_ATE_complex_float is not a floating-point or integer type")
      else drgnComplexTypeCreate name (intToWord size) realType.type lang
    | _ => returnError (otherError "DW_TAG_base_type has missing or invalid DW_AT_type")
  else
    returnError (otherError
      ("DW_TAG_base_type has unknown DWARF encoding 0x" ++ hexString encoding.toNat))

/-- `drgn_dwarf_info_cache_find_complete`: the single indexed definition of `(tag, name)`,
materialized; `&drgn_stop` when there is none or more than one. -/
def drgnDwarfInfoCacheFindComplete (tag : Nat) (name : String) : DrgnM DrgnType :=
  let it := dw.index name [tag]
  match it.entries with
  | [] => returnError (if it.failed then libdwError else drgnStop)
  | [(die, _)] =>
    if it.failed then returnError libdwError
    else do
      let qt ← drgnTypeFromDwarf resolve die
      pure qt.type
  | _ :: _ :: _ => returnError drgnStop

/-- The declaration step shared by the compound and enum dispatchers: for a declaration with a
name, the definition `drgn_dwarf_info_cache_find_complete` materializes, or `none` when it
returns `DRGN_ERROR_STOP`; any other error is returned. -/
def findCompleteOfDeclaration (declaration : Bool) (dwTag : Nat) (tag : Option String) :
    DrgnM (Option DrgnType) :=
  match declaration, tag with
  | true, some name => fun s =>
    match drgnDwarfInfoCacheFindComplete dw resolve dwTag name s with
    | .ok ty s' => .ok (some ty) s'
    | .error (.error err) s' =>
      if err.code = .stop then .ok none s' else .error (.error err) s'
    | .error fault s' => .error fault s'
  | _, _ => pure none

/-- `parse_member_offset`: the member's bit offset, evaluating its lazy type when a
little-endian `DW_AT_bit_offset` needs the size of the containing type. -/
def parseMemberOffset (die : DieKey) (memberType : LazyType) (bitFieldSize : UInt64)
    (littleEndian : Bool) : DrgnM (LazyType × UInt64) := do
  match ← optionalAttr dw die DwAt.dataBitOffset dwarfFormudata
      "DW_TAG_member has invalid DW_AT_data_bit_offset" with
  | some bitOffset => pure (memberType, bitOffset)
  | none =>
    let byteOffset ← optionalAttr dw die DwAt.dataMemberLocation dwarfFormudata
      "DW_TAG_member has invalid DW_AT_data_member_location"
    let ret : UInt64 := match byteOffset with
      | some b => 8 * b
      | none => 0
    match ← optionalAttr dw die DwAt.bitOffset dwarfFormudata
        "DW_TAG_member has invalid DW_AT_bit_offset" with
    | none => pure (memberType, ret)
    | some bitOffset =>
      if littleEndian then do
        let (memberType, byteSize) ← (match ← optionalAttr dw die DwAt.byteSize
            dwarfFormudata "DW_TAG_member has invalid DW_AT_byte_size" with
          | some word => pure (memberType, word)
          | none => do
            let (containingType, memberType) ← drgnLazyTypeEvaluate resolve memberType
            if containingType.type.hasSize then pure (memberType, containingType.type.size)
            else returnError (otherError "DW_TAG_member bit field type does not have size"))
        pure (memberType, ret + (8 * byteSize - bitOffset - bitFieldSize))
      else pure (memberType, ret + bitOffset)

/-- `parse_member`: decode one `DW_TAG_member` and add it to the builder. -/
def parseMember (die : DieKey) (littleEndian canBeIncompleteArray : Bool)
    (builder : List TypeMember) : DrgnM (List TypeMember) := do
  let name ← optionalAttr dw die DwAt.name dwarfFormstring "DW_TAG_member has invalid DW_AT_name"
  let bitFieldSize ← optionalAttr dw die DwAt.bitSize dwarfFormudata
    "DW_TAG_member has invalid DW_AT_bit_size"
  let bitFieldSize := bitFieldSize.getD 0
  let memberType ← drgnLazyTypeFromDwarf dw die canBeIncompleteArray "DW_TAG_member"
  let (memberType, bitOffset) ← parseMemberOffset dw resolve die memberType bitFieldSize
    littleEndian
  builderAdd builder (.mk memberType name bitOffset bitFieldSize)

/-- The child loop of `drgn_compound_type_from_dwarf`: each `DW_TAG_member` child is held back
in `member` and parsed, as a non-last member, only when the next one turns up. -/
def parseMembers (littleEndian : Bool) :
    Option DieKey → List DieKey → List TypeMember → DrgnM (Option DieKey × List TypeMember)
  | member, [], builder => pure (member, builder)
  | member, child :: rest, builder =>
    if dwarfTag dw.die child = DwTag.member then do
      let builder ← (match member with
        | some m => parseMember dw resolve m littleEndian false builder
        | none => pure builder)
      parseMembers littleEndian (some child) rest builder
    else parseMembers littleEndian member rest builder

/-- `drgn_compound_type_from_dwarf`. -/
def drgnCompoundTypeFromDwarf (die : DieKey) (lang : Option Language) (kind : TypeKind) :
    DrgnM DrgnType := do
  let (dwTagStr, dwTag) ← (match kind with
    | .struct => pure ("DW_TAG_structure_type", DwTag.structureType)
    | .union => pure ("DW_TAG_union_type", DwTag.unionType)
    | .«class» => pure ("DW_TAG_class_type", DwTag.classType)
    | _ => throw .unreachable)
  let tag ← optionalAttr dw die DwAt.name dwarfFormstring (dwTagStr ++ " has invalid DW_AT_name")
  let some declaration := dwarfFlag dw.die die DwAt.declaration
    | returnError (otherError (dwTagStr ++ " has invalid DW_AT_declaration"))
  match ← findCompleteOfDeclaration dw resolve declaration dwTag tag with
  | some ty => pure ty
  | none =>
    if declaration then drgnIncompleteCompoundTypeCreate kind tag lang
    else
      let size := dwarfBytesize dw.die die
      if size = -1 then
        returnError (otherError (dwTagStr ++ " has missing or invalid DW_AT_byte_size"))
      else do
        let .ok littleEndian := dwarfDieIsLittleEndian dw die false | throw .indeterminate
        let (member, builder) ← parseMembers dw resolve littleEndian none (dw.die die).children []
        if (dw.die die).childrenError then
          returnError (otherError "libdw could not parse DIE children")
        else do
          let builder ← (match member with
            | some m =>
              parseMember dw resolve m littleEndian (kind ≠ .union ∧ builder.length > 0) builder
            | none => pure builder)
          createType (.compound kind tag (intToWord size) builder lang)

/-- `parse_enumerator`: add one enumerator; a negative signed value makes `is_signed` true. -/
def parseEnumerator (die : DieKey) (builder : List TypeEnumerator) (isSigned : Bool) :
    DrgnM (List TypeEnumerator × Bool) := do
  let some name := dwarfDiename dw.die die
    | returnError (otherError "DW_TAG_enumerator has missing or invalid DW_AT_name")
  let some attr := dwarfAttrIntegrate dw.die die DwAt.constValue
    | returnError (otherError "DW_TAG_enumerator is missing DW_AT_const_value")
  match attr.value with
  | .sdata _ | .implicitConst _ => do
    let some svalue := dwarfFormsdata attr
      | returnError (otherError "DW_TAG_enumerator has invalid DW_AT_const_value")
    let builder ← builderAdd builder ⟨name, .signed svalue⟩
    pure (builder, isSigned || decide (svalue < 0))
  | _ => do
    let some uvalue := dwarfFormudata attr
      | returnError (otherError "DW_TAG_enumerator has invalid DW_AT_const_value")
    let builder ← builderAdd builder ⟨name, .unsigned uvalue⟩
    pure (builder, isSigned)

/-- The child loop of `drgn_enum_type_from_dwarf`. -/
def parseEnumerators :
    List DieKey → List TypeEnumerator → Bool → DrgnM (List TypeEnumerator × Bool)
  | [], builder, isSigned => pure (builder, isSigned)
  | child :: rest, builder, isSigned =>
    if dwarfTag dw.die child = DwTag.enumerator then do
      let (builder, isSigned) ← parseEnumerator dw child builder isSigned
      parseEnumerators rest builder isSigned
    else parseEnumerators rest builder isSigned

/-- `enum_compatible_type_fallback`. -/
def enumCompatibleTypeFallback (die : DieKey) (isSigned : Bool) (lang : Option Language) :
    DrgnM DrgnType :=
  let size := dwarfBytesize dw.die die
  if size = -1 then
    returnError (otherError "DW_TAG_enumeration_type has missing or invalid DW_AT_byte_size")
  else drgnIntTypeCreate "<unknown>" (intToWord size) isSigned lang

/-- `drgn_enum_type_from_dwarf`. -/
def drgnEnumTypeFromDwarf (die : DieKey) (lang : Option Language) : DrgnM DrgnType := do
  let tag ← optionalAttr dw die DwAt.name dwarfFormstring
    "DW_TAG_enumeration_type has invalid DW_AT_name"
  let some declaration := dwarfFlag dw.die die DwAt.declaration
    | returnError (otherError "DW_TAG_enumeration_type has invalid DW_AT_declaration")
  match ← findCompleteOfDeclaration dw resolve declaration DwTag.enumerationType tag with
  | some ty => pure ty
  | none =>
    if declaration then drgnIncompleteEnumTypeCreate tag lang
    else do
      let (builder, isSigned) ← parseEnumerators dw (dw.die die).children [] false
      if (dw.die die).childrenError then
        returnError (otherError "libdw could not parse DIE children")
      else do
        let compatibleType ← (match dwarfType dw.die die with
          | .invalid => returnError (otherError "DW_TAG_enumeration_type has invalid DW_AT_type")
          | .absent => enumCompatibleTypeFallback dw die isSigned lang
          | .ref child => do
            let qt ← drgnTypeFromDwarf resolve child
            if qt.type.kind ≠ .int then
              returnError (otherError "DW_AT_type of DW_TAG_enumeration_type is not an integer type")
            else pure qt.type)
        createType (.enum tag compatibleType builder lang)

/-- `drgn_typedef_type_from_dwarf`. The second component is what the aliased type's resolution
wrote through `is_incomplete_array_ret`. -/
def drgnTypedefTypeFromDwarf (die : DieKey) (lang : Option Language)
    (canBeIncompleteArray : Bool) : DrgnM (DrgnType × Option Bool) := do
  let some name := dwarfDiename dw.die die
    | returnError (otherError "DW_TAG_typedef has missing or invalid DW_AT_name")
  let (aliasedType, isIncompleteArray) ← drgnTypeFromDwarfChild dw resolve die
    (drgnLanguageOrDefault lang) "DW_TAG_typedef" true canBeIncompleteArray
  let t ← drgnTypedefTypeCreate name aliasedType lang
  pure (t, isIncompleteArray)

/-- `drgn_pointer_type_from_dwarf`. -/
def drgnPointerTypeFromDwarf (die : DieKey) (lang : Option Language) : DrgnM DrgnType := do
  let (referencedType, _) ← drgnTypeFromDwarfChild dw resolve die (drgnLanguageOrDefault lang)
    "DW_TAG_pointer_type" true true
  let size ← (match ← optionalAttr dw die DwAt.byteSize dwarfFormudata
      "DW_TAG_pointer_type has invalid DW_AT_byte_size" with
    | some word => pure word
    | none =>
      match dw.wordSize with
      | some wordSize => pure wordSize.toUInt64
      | none => returnError ⟨.invalidArgument, "program word size is not known"⟩)
  drgnPointerTypeCreate referencedType size lang

/-- The child loop of `drgn_array_type_from_dwarf`: one appended dimension per
`DW_TAG_subrange_type`. When an append fails the code jumps out with `err` as it stands: never
written before the first subrange (`Fault.indeterminate`), and NULL after a successful
`subrange_length` (`none`: a return of NULL that writes no result). -/
def arrayDimensions :
    List DieKey → List ArrayDimension → DrgnM (Option (List ArrayDimension))
  | [], dims => pure (some dims)
  | child :: rest, dims =>
    if dwarfTag dw.die child = DwTag.subrangeType then do
      if ← allocate then
        match subrangeLength dw child with
        | .ok dim => arrayDimensions rest (dims ++ [dim])
        | .error err => returnError err
      else if dims.isEmpty then throw .indeterminate
      else pure none
    else arrayDimensions rest dims

/-- The pop loop of `drgn_array_type_from_dwarf`. The dimension vector is given top first:
`dim` is the dimension just popped and `rest` what is still in the vector, so `rest = []`
exactly at the outermost dimension. -/
def arrayTypeLoop (lang : Option Language) (canBeIncompleteArray : Bool) :
    QualifiedType → ArrayDimension → List ArrayDimension → DrgnM DrgnType
  | elementType, dim, rest => do
    let type ← (if dim.isComplete then drgnArrayTypeCreate elementType dim.length lang
      else if !rest.isEmpty || !canBeIncompleteArray then drgnArrayTypeCreate elementType 0 lang
      else drgnIncompleteArrayTypeCreate elementType lang)
    match rest with
    | [] => pure type
    | next :: rest => arrayTypeLoop lang canBeIncompleteArray ⟨type, 0⟩ next rest

/-- `drgn_array_type_from_dwarf`: the array type and `*is_incomplete_array_ret`, or `none` when
it returns NULL without writing them. -/
def drgnArrayTypeFromDwarf (die : DieKey) (lang : Option Language)
    (canBeIncompleteArray : Bool) : DrgnM (Option (DrgnType × Bool)) := do
  let some dims ← arrayDimensions dw (dw.die die).children [] | pure none
  if (dw.die die).childrenError then returnError (otherError "libdw could not parse DIE children")
  else do
    let dims ← (if dims.isEmpty then do
        if ← allocate then pure [⟨0, false⟩] else throw .indeterminate
      else pure dims)
    let (elementType, _) ← drgnTypeFromDwarfChild dw resolve die (drgnLanguageOrDefault lang)
      "DW_TAG_array_type" false false
    match dims, dims.reverse with
    | outermost :: _, dim :: rest => do
      let type ← arrayTypeLoop lang canBeIncompleteArray elementType dim rest
      pure (some (type, !outermost.isComplete))
    | _, _ => throw .unreachable

/-- `parse_formal_parameter`. -/
def parseFormalParameter (die : DieKey) (builder : List TypeParameter) :
    DrgnM (List TypeParameter) := do
  let name ← optionalAttr dw die DwAt.name dwarfFormstring
    "DW_TAG_formal_parameter has invalid DW_AT_name"
  let parameterType ← drgnLazyTypeFromDwarf dw die true "DW_TAG_formal_parameter"
  builderAdd builder (.mk parameterType name)

/-- The child loop of `drgn_function_type_from_dwarf`. -/
def parseParameters (tagName : String) :
    List DieKey → List TypeParameter → Bool → DrgnM (List TypeParameter × Bool)
  | [], builder, isVariadic => pure (builder, isVariadic)
  | child :: rest, builder, isVariadic =>
    if dwarfTag dw.die child = DwTag.formalParameter then
      if isVariadic then
        returnError (otherError (tagName ++
          " has DW_TAG_formal_parameter child after DW_TAG_unspecified_parameters child"))
      else do
        let builder ← parseFormalParameter dw child builder
        parseParameters tagName rest builder isVariadic
    else if dwarfTag dw.die child = DwTag.unspecifiedParameters then
      if isVariadic then
        returnError (otherError (tagName ++ " has multiple DW_TAG_unspecified_parameters children"))
      else parseParameters tagName rest builder true
    else parseParameters tagName rest builder isVariadic

/-- `drgn_function_type_from_dwarf`. -/
def drgnFunctionTypeFromDwarf (die : DieKey) (lang : Option Language) : DrgnM DrgnType := do
  let tagName := if dwarfTag dw.die die = DwTag.subroutineType then "DW_TAG_subroutine_type"
    else "DW_TAG_subprogram"
  let (builder, isVariadic) ← parseParameters dw tagName (dw.die die).children [] false
  if (dw.die die).childrenError then returnError (otherError "libdw could not parse DIE children")
  else do
    let (returnType, _) ← drgnTypeFromDwarfChild dw resolve die (drgnLanguageOrDefault lang)
      tagName true true
    createType (.function returnType.type returnType.qualifiers builder isVariadic lang)

end Dispatch

end Drgn
