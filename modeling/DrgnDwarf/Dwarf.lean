/-!
# DrgnDwarf — the DWARF reader as the materializer sees it

`dwarf_info_cache.c` reads debugging information entries (DIEs) only through libdw: a tag, a
list of attributes (each a name, a form and a value), a list of children, and the compilation
unit the DIE belongs to. This module is that surface and nothing more.

* **`Die`** — one entry: its tag, its *own* attributes, its children in sibling order (and
  whether libdw failed after the last of them, the `r == -1` exit of every child loop), and its
  unit's language and ELF byte order.
* **`DieStore`** — the whole image, keyed by the DIE's address (`die->addr`), the memo key.
* **the libdw facade** — `dwarfAttr` (own attributes) and `dwarfAttrIntegrate`, which follows
  `DW_AT_abstract_origin` / `DW_AT_specification` links as libdw does, at most sixteen of them;
  the `dwarf_form*` decoders, one per form class; `dwarfDiename`, `dwarfBytesize`, and the two
  helpers of the source, `dwarfType` and `dwarfFlag`.

Numbers are the source's: a `Dwarf_Word` is a `UInt64`, and a `DW_FORM_sdata` value is kept as
its 64-bit two's complement word, which is what `dwarf_formudata` hands back for it.
-/

namespace Drgn

/-- The address of a DIE in the loaded image (`die->addr`): its identity and the memo key. -/
abbrev DieKey := Nat

/-! ## DWARF constants (`dwarf.h`) -/

namespace DwTag
def arrayType : Nat := 0x01
def classType : Nat := 0x02
def enumerationType : Nat := 0x04
def formalParameter : Nat := 0x05
def member : Nat := 0x0d
def pointerType : Nat := 0x0f
def structureType : Nat := 0x13
def subroutineType : Nat := 0x15
def typedef : Nat := 0x16
def unionType : Nat := 0x17
def unspecifiedParameters : Nat := 0x18
def subrangeType : Nat := 0x21
def baseType : Nat := 0x24
def constType : Nat := 0x26
def enumerator : Nat := 0x28
def subprogram : Nat := 0x2e
def var : Nat := 0x34
def volatileType : Nat := 0x35
def restrictType : Nat := 0x37
def atomicType : Nat := 0x47
end DwTag

namespace DwAt
def location : Nat := 0x02
def name : Nat := 0x03
def byteSize : Nat := 0x0b
def bitOffset : Nat := 0x0c
def bitSize : Nat := 0x0d
def lowPc : Nat := 0x11
def constValue : Nat := 0x1c
def upperBound : Nat := 0x2f
def abstractOrigin : Nat := 0x31
def count : Nat := 0x37
def dataMemberLocation : Nat := 0x38
def declaration : Nat := 0x3c
def encoding : Nat := 0x3e
def specification : Nat := 0x47
def type : Nat := 0x49
def endianity : Nat := 0x65
def dataBitOffset : Nat := 0x6b
end DwAt

namespace DwAte
def boolean : UInt64 := 0x02
def complexFloat : UInt64 := 0x03
def float : UInt64 := 0x04
def signed : UInt64 := 0x05
def signedChar : UInt64 := 0x06
def unsigned : UInt64 := 0x07
def unsignedChar : UInt64 := 0x08
end DwAte

namespace DwEnd
def default : UInt64 := 0x00
def big : UInt64 := 0x01
def little : UInt64 := 0x02
end DwEnd

/-- `DW_OP_addr`, the one location operation the object finder implements. -/
def dwOpAddr : Nat := 0x03

/-! ## Attributes, DIEs and the image -/

/-- One operation of a location expression, as `dwarf_getlocation` returns it. -/
structure DwarfOp where
  atom : Nat
  number : UInt64
  deriving DecidableEq, Repr

/-- An attribute's value by form class. The form is what the code tests (`attr->form ==
DW_FORM_sdata`), so the classes it distinguishes are kept apart: plain constants
(`DW_FORM_data*`, `DW_FORM_udata`), `DW_FORM_sdata`, `DW_FORM_implicit_const`, strings, flags,
references, blocks, location expressions and addresses. -/
inductive AttributeValue where
  | data (word : UInt64)
  | sdata (word : UInt64)
  | implicitConst (word : UInt64)
  | string (s : String)
  | flag (b : Bool)
  | ref (die : DieKey)
  | block (bytes : List UInt8)
  | exprloc (ops : List DwarfOp)
  | addr (address : UInt64)
  deriving DecidableEq, Repr

/-- Whether the form is `DW_FORM_sdata`. -/
def AttributeValue.isSdata : AttributeValue → Bool
  | .sdata _ => true
  | _ => false

/-- A `Dwarf_Attribute`: its name (`attr->code`) and its value. -/
structure DwarfAttribute where
  code : Nat
  value : AttributeValue
  deriving DecidableEq, Repr

/-- The language `drgn_language_from_die` reports for a unit it recognises. -/
inductive Language where
  | c
  | cpp
  deriving DecidableEq, Repr

/-- What a DIE's compilation unit tells the materializer: the unit DIE can be unreadable
(`dwarf_cu_die` fails), its `DW_AT_language` maps to a language or to none, and the ELF header
of its file gives the default byte order. -/
structure CompileUnit where
  cuDieUnreadable : Bool := false
  language : Option Language := some .c
  littleEndian : Bool := true
  deriving DecidableEq, Repr

/-- One debugging information entry. `attributes` are its *own* attributes (what `dwarf_attr`
sees); `children` are its children in sibling order, and `childrenError` says that libdw failed
(`dwarf_siblingof` returned -1) after the last of them. -/
structure Die where
  tag : Nat
  attributes : List DwarfAttribute := []
  children : List DieKey := []
  childrenError : Bool := false
  unit : CompileUnit := {}
  deriving Repr

/-- The loaded debugging information: every address names a DIE. -/
abbrev DieStore := DieKey → Die

/-! ## The libdw facade -/

section Facade

variable (store : DieStore)

/-- `dwarf_attr`: the DIE's own attribute of that name. -/
def dwarfAttr (die : DieKey) (name : Nat) : Option DwarfAttribute :=
  (store die).attributes.find? (·.code == name)

/-- `dwarf_formref_die`. -/
def dwarfFormrefDie : DwarfAttribute → Option DieKey
  | ⟨_, .ref d⟩ => some d
  | _ => none

/-- The walk of `dwarf_attr_integrate`: look at the DIE's own attributes, else follow its
`DW_AT_abstract_origin` (or, failing that, its `DW_AT_specification`) to the DIE it names;
`chain` more links may be followed, and with none left only the DIE's own attribute counts. -/
def attrIntegrate (name : Nat) : Nat → DieKey → Option DwarfAttribute
  | 0, die => dwarfAttr store die name
  | chain + 1, die =>
    match dwarfAttr store die name with
    | some attr => some attr
    | none =>
      match (dwarfAttr store die DwAt.abstractOrigin).orElse
          fun _ => dwarfAttr store die DwAt.specification with
      | none => none
      | some link =>
        match dwarfFormrefDie link with
        | some origin => attrIntegrate name chain origin
        | none => none

/-- `dwarf_attr_integrate`: libdw follows at most sixteen links. -/
def dwarfAttrIntegrate (die : DieKey) (name : Nat) : Option DwarfAttribute :=
  attrIntegrate store name 16 die

/-- `dwarf_formudata`: constants of every class; an `sdata` word is handed back unchanged. -/
def dwarfFormudata : DwarfAttribute → Option UInt64
  | ⟨_, .data w⟩ | ⟨_, .sdata w⟩ | ⟨_, .implicitConst w⟩ => some w
  | _ => none

/-- A 64-bit word read as a two's complement `Dwarf_Sword`. -/
def wordToSword (w : UInt64) : Int :=
  if w.toNat < UInt64.size / 2 then (w.toNat : Int) else (w.toNat : Int) - UInt64.size

/-- `dwarf_formsdata`. -/
def dwarfFormsdata : DwarfAttribute → Option Int
  | ⟨_, .data w⟩ | ⟨_, .sdata w⟩ | ⟨_, .implicitConst w⟩ => some (wordToSword w)
  | _ => none

/-- `dwarf_formstring`. -/
def dwarfFormstring : DwarfAttribute → Option String
  | ⟨_, .string s⟩ => some s
  | _ => none

/-- `dwarf_formflag`. -/
def dwarfFormflag : DwarfAttribute → Option Bool
  | ⟨_, .flag b⟩ => some b
  | _ => none

/-- `dwarf_formblock`. -/
def dwarfFormblock : DwarfAttribute → Option (List UInt8)
  | ⟨_, .block bytes⟩ => some bytes
  | _ => none

/-- `dwarf_getlocation`: the operations of a single location expression. -/
def dwarfGetlocation : DwarfAttribute → Option (List DwarfOp)
  | ⟨_, .exprloc ops⟩ => some ops
  | _ => none

/-- `dwarf_lowpc` (`none` is its -1). -/
def dwarfLowpc (die : DieKey) : Option UInt64 :=
  match dwarfAttrIntegrate store die DwAt.lowPc with
  | some ⟨_, .addr a⟩ => some a
  | _ => none

/-- `dwarf_diename`: the integrated `DW_AT_name` read as a string. -/
def dwarfDiename (die : DieKey) : Option String :=
  (dwarfAttrIntegrate store die DwAt.name).bind dwarfFormstring

/-- The `(int)` conversion of a `Dwarf_Word`: its low 32 bits, two's complement. -/
def wordToInt (w : UInt64) : Int :=
  let low : Nat := w.toNat % UInt32.size
  if low < UInt32.size / 2 then (low : Int) else (low : Int) - UInt32.size

/-- `dwarf_bytesize`: the integrated `DW_AT_byte_size` as an `int`, or -1. -/
def dwarfBytesize (die : DieKey) : Int :=
  match (dwarfAttrIntegrate store die DwAt.byteSize).bind dwarfFormudata with
  | some w => wordToInt w
  | none => -1

/-- The three outcomes of the source's `dwarf_type`: 1 (no `DW_AT_type`), -1 (not a
reference) and 0 with the referenced DIE. -/
inductive DwarfTypeRef where
  | absent
  | invalid
  | ref (die : DieKey)
  deriving DecidableEq, Repr

/-- `dwarf_type` (dwarf_info_cache.c): the DIE named by the integrated `DW_AT_type`. -/
def dwarfType (die : DieKey) : DwarfTypeRef :=
  match dwarfAttrIntegrate store die DwAt.type with
  | none => .absent
  | some attr =>
    match dwarfFormrefDie attr with
    | some d => .ref d
    | none => .invalid

/-- `dwarf_flag` (dwarf_info_cache.c): an absent flag is false, a malformed one is an error
(`none`). It reads the attribute through `dwarf_attr_integrate`. -/
def dwarfFlag (die : DieKey) (name : Nat) : Option Bool :=
  match dwarfAttrIntegrate store die name with
  | none => some false
  | some attr => dwarfFormflag attr

/-- `dwarf_tag`. -/
def dwarfTag (die : DieKey) : Nat := (store die).tag

end Facade

end Drgn
