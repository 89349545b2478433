import DrgnDwarf.Internal

/-!
# DrgnDwarf — the type finder and the object finder

The two entry points the rest of drgn calls, `drgn_dwarf_type_find` and
`drgn_dwarf_object_find`, with the object builders they dispatch to. Both walk the candidates
the name index yields in index order, skip those `die_matches_filename` rejects, and
materialize through `drgnTypeFromDwarfInternal`.

The builders hand their result to the object layer (object.c, which this file only calls):
`drgn_object_set_common` is `DwarfInfo.objectSetCommon`, and `drgn_object_set_signed`,
`drgn_object_set_unsigned` and `drgn_object_set_reference` pass on its error, check the object
kind where they set a value, and build a `DrgnObject`.
-/

namespace Drgn

section Find

variable (dw : DwarfInfo)

/-- The `DW_TAG` that `drgn_dwarf_type_find` looks up for a kind; the other kinds are
`UNREACHABLE()`. -/
def typeFindTag : TypeKind → Option Nat
  | .int | .bool | .float => some DwTag.baseType
  | .struct => some DwTag.structureType
  | .union => some DwTag.unionType
  | .«class» => some DwTag.classType
  | .enum => some DwTag.enumerationType
  | .typedef => some DwTag.typedef
  | _ => none

/-- The candidate loop of `drgn_dwarf_type_find`: the first candidate that matches the filename
and materializes to a type of the requested kind; a materialization error ends the loop; after
the last candidate, the iterator's error if it is not `&drgn_stop`, else `&drgn_not_found`. -/
def typeFindLoop (kind : TypeKind) (filename : Option String) :
    List (DieKey × UInt64) → Bool → DrgnM QualifiedType
  | [], failed => returnError (if failed then libdwError else drgnNotFound)
  | (die, _) :: rest, failed =>
    if dw.dieMatchesFilename die filename then do
      let qt ← drgnTypeFromDwarf (drgnTypeFromDwarfInternal dw) die
      if qt.type.kind = kind then pure qt else typeFindLoop kind filename rest failed
    else typeFindLoop kind filename rest failed

/-- `drgn_dwarf_type_find`. -/
def drgnDwarfTypeFind (kind : TypeKind) (name : String) (filename : Option String) :
    DrgnM QualifiedType :=
  match typeFindTag kind with
  | none => throw .unreachable
  | some tag =>
    let it := dw.index name [tag]
    typeFindLoop dw kind filename it.entries it.failed

/-- The `svalue` member of an enumerator's value union. -/
def EnumeratorValue.svalue : EnumeratorValue → Int
  | .signed v => v
  | .unsigned w => wordToSword w

/-- The `uvalue` member of an enumerator's value union. -/
def EnumeratorValue.uvalue : EnumeratorValue → UInt64
  | .signed v => UInt64.ofNat (v % UInt64.size).toNat
  | .unsigned w => w

/-- What `drgn_object_set_signed` and `drgn_object_set_unsigned` share, called with no bit
field: the error of `drgn_object_set_common`, or `DRGN_ERROR_TYPE` with `message` when the type's
object kind is not `kind`, or else the value object. -/
def objectSetValue (kind : ObjectKind) (message : String) (qt : QualifiedType)
    (value : DrgnObject) : DrgnM DrgnObject :=
  match dw.objectSetCommon qt with
  | .error err => returnError err
  | .ok common => if common.kind = kind then pure value else returnError ⟨.type, message⟩

/-- `drgn_object_set_signed(res, qualified_type, svalue, 0)`. -/
def drgnObjectSetSigned (qt : QualifiedType) (svalue : Int) : DrgnM DrgnObject :=
  objectSetValue dw .signed "not a signed integer type" qt (.signed qt svalue)

/-- `drgn_object_set_unsigned(res, qualified_type, uvalue, 0)`. -/
def drgnObjectSetUnsigned (qt : QualifiedType) (uvalue : UInt64) : DrgnM DrgnObject :=
  objectSetValue dw .unsigned "not an unsigned integer type" qt (.unsigned qt uvalue)

/-- `drgn_object_set_reference(res, qualified_type, address, 0, 0, byte_order)`: the error of
`drgn_object_set_common`, or else the reference. The byte order the builders pass is little or big
endian, never the program's, so converting it cannot fail, and with no bit offset the size check
cannot overflow. -/
def drgnObjectSetReference (qt : QualifiedType) (address : UInt64) (byteOrder : ByteOrder) :
    DrgnM DrgnObject :=
  match dw.objectSetCommon qt with
  | .error err => returnError err
  | .ok _ => pure (.reference qt address byteOrder)

/-- `drgn_object_from_dwarf_enumerator`: the index maps an enumerator's name to its
enumeration type DIE; the enumerator is looked up in the materialized type, and control
reaches `UNREACHABLE()` when it is not there. -/
def drgnObjectFromDwarfEnumerator (die : DieKey) (name : String) : DrgnM DrgnObject := do
  let qt ← drgnTypeFromDwarf (drgnTypeFromDwarfInternal dw) die
  match qt.type.enumerators.find? (·.name == name) with
  | some e =>
    if qt.type.enumIsSigned then drgnObjectSetSigned dw qt e.value.svalue
    else drgnObjectSetUnsigned dw qt e.value.uvalue
  | none => throw .unreachable

/-- `drgn_object_from_dwarf_subprogram`. -/
def drgnObjectFromDwarfSubprogram (die : DieKey) (bias : UInt64) (name : String) :
    DrgnM DrgnObject := do
  let qt ← drgnTypeFromDwarf (drgnTypeFromDwarfInternal dw) die
  let some lowPc := dwarfLowpc dw.die die
    | returnError ⟨.lookup, "could not find address of '" ++ name ++ "'"⟩
  let .ok byteOrder := dwarfDieByteOrder dw die false | throw .indeterminate
  drgnObjectSetReference dw qt (lowPc + bias) byteOrder

/-- `drgn_value_size(bit_size, 0)`: the bytes that hold `bit_size` bits. -/
def drgnValueSize (bitSize : UInt64) : UInt64 := bitSize / 8 + if bitSize % 8 = 0 then 0 else 1

/-- `drgn_object_from_dwarf_constant`. -/
def drgnObjectFromDwarfConstant (die : DieKey) (qt : QualifiedType) (attr : DwarfAttribute) :
    DrgnM DrgnObject :=
  match dw.objectSetCommon qt with
  | .error err => returnError err
  | .ok common =>
    match dwarfFormblock attr with
    | some bytes =>
      match dwarfDieIsLittleEndian dw die true with
      | .error err => returnError err
      | .ok littleEndian =>
        if bytes.length < (drgnValueSize common.bitSize).toNat then
          returnError (otherError "DW_AT_const_value block is too small")
        else pure (.buffer qt bytes littleEndian)
    | none =>
      if common.kind = .signed then
        match dwarfFormsdata attr with
        | some v => pure (.signed qt v)
        | none => returnError (otherError "invalid DW_AT_const_value")
      else if common.kind = .unsigned then
        match dwarfFormudata attr with
        | some v => pure (.unsigned qt v)
        | none => returnError (otherError "invalid DW_AT_const_value")
      else returnError (otherError "unknown DW_AT_const_value form")

/-- `drgn_object_from_dwarf_variable`. -/
def drgnObjectFromDwarfVariable (die : DieKey) (bias : UInt64) (name : String) :
    DrgnM DrgnObject := do
  let (qt, _) ← drgnTypeFromDwarfChild dw (drgnTypeFromDwarfInternal dw) die none
    "DW_TAG_variable" true true
  match dwarfAttrIntegrate dw.die die DwAt.location with
  | some attr =>
    let some ops := dwarfGetlocation attr | returnError libdwError
    match ops with
    | [op] =>
      if op.atom = dwOpAddr then
        match dwarfDieByteOrder dw die true with
        | .ok byteOrder => drgnObjectSetReference dw qt (op.number + bias) byteOrder
        | .error err => returnError err
      else returnError (otherError "DW_AT_location has unimplemented operation")
    | _ => returnError (otherError "DW_AT_location has unimplemented operation")
  | none =>
    match dwarfAttrIntegrate dw.die die DwAt.constValue with
    | some attr => drgnObjectFromDwarfConstant dw die qt attr
    | none => returnError ⟨.lookup, "could not find address or value of '" ++ name ++ "'"⟩

namespace FindObject
/-- `DRGN_FIND_OBJECT_CONSTANT`. -/
def constant : Nat := 1
/-- `DRGN_FIND_OBJECT_FUNCTION`. -/
def function : Nat := 2
/-- `DRGN_FIND_OBJECT_VARIABLE`. -/
def var : Nat := 4
end FindObject

/-- The tags `drgn_dwarf_object_find` asks the index for. -/
def objectFindTags (flags : Nat) : List Nat :=
  (if flags &&& FindObject.constant ≠ 0 then [DwTag.enumerator] else []) ++
  (if flags &&& FindObject.function ≠ 0 then [DwTag.subprogram] else []) ++
  (if flags &&& FindObject.var ≠ 0 then [DwTag.var] else [])

/-- The candidate loop of `drgn_dwarf_object_find`: the first candidate that matches the
filename decides. -/
def objectFindLoop (name : String) (filename : Option String) :
    List (DieKey × UInt64) → Bool → DrgnM DrgnObject
  | [], failed => returnError (if failed then libdwError else drgnNotFound)
  | (die, bias) :: rest, failed =>
    if !dw.dieMatchesFilename die filename then objectFindLoop name filename rest failed
    else if dwarfTag dw.die die = DwTag.enumerationType then
      drgnObjectFromDwarfEnumerator dw die name
    else if dwarfTag dw.die die = DwTag.subprogram then
      drgnObjectFromDwarfSubprogram dw die bias name
    else if dwarfTag dw.die die = DwTag.var then drgnObjectFromDwarfVariable dw die bias name
    else throw .unreachable

/-- `drgn_dwarf_object_find`. -/
def drgnDwarfObjectFind (name : String) (filename : Option String) (flags : Nat) :
    DrgnM DrgnObject :=
  let it := dw.index name (objectFindTags flags)
  objectFindLoop dw name filename it.entries it.failed

end Find

end Drgn
