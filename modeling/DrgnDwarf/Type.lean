import DrgnDwarf.Dwarf

/-!
# DrgnDwarf — errors, type descriptors and objects

What the materializer hands back, and how it fails.

* **`DrgnError`** — a `struct drgn_error`: a code and its message, each message word for word as
  the source formats it.
* **`Fault`** — how a call of the model ends when it does not return normally: a returned error,
  or a place where C leaves the program's behaviour open (`UNREACHABLE()`, a read of an
  uninitialized variable), or the model's own fuel running out.
* **`DrgnType`** — a type descriptor as the type factory builds it from the decoded fields. A
  descriptor is a value: two constructions on equal fields are equal, which is what "the same
  type-factory constructions on the same fields" means. Members and parameters hold a
  **`LazyType`**: a thunk `(DIE, can_be_incomplete_array)` or the type it evaluated to.
* **`DrgnObject`** — what the object finder builds.
-/

namespace Drgn

/-! ## Errors -/

/-- `enum drgn_error_code`, the codes this file and the object setters it calls create or
test. -/
inductive ErrorCode where
  | other
  | noMemory
  | stop
  | invalidArgument
  | overflow
  | recursion
  | lookup
  | type
  deriving DecidableEq, Repr

/-- A `struct drgn_error`. -/
structure DrgnError where
  code : ErrorCode
  message : String
  deriving DecidableEq, Repr

/-- `drgn_error_create(DRGN_ERROR_OTHER, message)`, the code of every malformed-DWARF error. -/
def otherError (message : String) : DrgnError := ⟨.other, message⟩

/-- `&drgn_enomem` (error.c). -/
def drgnEnomem : DrgnError := ⟨.noMemory, "cannot allocate memory"⟩

/-- `&drgn_stop` (error.c), the iterator's end. -/
def drgnStop : DrgnError := ⟨.stop, "stop iteration"⟩

/-- `&drgn_not_found` (error.c), the finders' "no match". -/
def drgnNotFound : DrgnError := ⟨.lookup, "not found"⟩

/-- `drgn_error_libdw()`: libdw's own message is outside the model. -/
def libdwError : DrgnError := ⟨.other, "libdw error"⟩

/-- How a call that does not return normally ends. `error` is a returned `struct drgn_error *`;
`unreachable` is control reaching `UNREACHABLE()`; `indeterminate` is a read of a variable
that was never written (the value C would use is unspecified, so the run stops there);
`outOfFuel` is the model's recursion budget, which the depth counter makes unreachable. -/
inductive Fault where
  | error (err : DrgnError)
  | unreachable
  | indeterminate
  | outOfFuel
  deriving DecidableEq, Repr

/-! ## Type descriptors -/

/-- `enum drgn_type_kind`. -/
inductive TypeKind where
  | void
  | int
  | bool
  | float
  | complex
  | struct
  | union
  | «class»
  | enum
  | typedef
  | pointer
  | array
  | function
  deriving DecidableEq, Repr

/-- `enum drgn_qualifiers`, a bit set. -/
abbrev Qualifiers := Nat

namespace Qualifier
def const : Qualifiers := 1
def volatile : Qualifiers := 2
def restrict : Qualifiers := 4
def atomic : Qualifiers := 8
end Qualifier

/-- An enumerator's value, as `drgn_enum_type_builder_add_signed` or `_add_unsigned` took it. -/
inductive EnumeratorValue where
  | signed (value : Int)
  | unsigned (value : UInt64)
  deriving DecidableEq, Repr

/-- `struct drgn_type_enumerator`. -/
structure TypeEnumerator where
  name : String
  value : EnumeratorValue
  deriving DecidableEq, Repr

mutual

/-- A type descriptor: one constructor per `drgn_*_type_create` of the type factory, holding the
fields it was given. -/
inductive DrgnType where
  | void (lang : Option Language)
  | int (name : String) (size : UInt64) (isSigned : Bool) (lang : Option Language)
  | bool (name : String) (size : UInt64) (lang : Option Language)
  | float (name : String) (size : UInt64) (lang : Option Language)
  | complex (name : String) (size : UInt64) (realType : DrgnType) (lang : Option Language)
  | compound (kind : TypeKind) (tag : Option String) (size : UInt64)
      (members : List TypeMember) (lang : Option Language)
  | incompleteCompound (kind : TypeKind) (tag : Option String) (lang : Option Language)
  | enum (tag : Option String) (compatibleType : DrgnType) (enumerators : List TypeEnumerator)
      (lang : Option Language)
  | incompleteEnum (tag : Option String) (lang : Option Language)
  | typedef (name : String) (aliasedType : DrgnType) (aliasedQualifiers : Qualifiers)
      (lang : Option Language)
  | pointer (referencedType : DrgnType) (referencedQualifiers : Qualifiers) (size : UInt64)
      (lang : Option Language)
  | array (elementType : DrgnType) (elementQualifiers : Qualifiers) (length : UInt64)
      (lang : Option Language)
  | incompleteArray (elementType : DrgnType) (elementQualifiers : Qualifiers)
      (lang : Option Language)
  | function (returnType : DrgnType) (returnQualifiers : Qualifiers)
      (parameters : List TypeParameter) (isVariadic : Bool) (lang : Option Language)

/-- `struct drgn_lazy_type`: a thunk carrying the DIE and the flag it will be resolved with, or
the qualified type it evaluated to. -/
inductive LazyType where
  | thunk (die : DieKey) (canBeIncompleteArray : Bool)
  | evaluated (type : DrgnType) (qualifiers : Qualifiers)

/-- `struct drgn_type_member`. -/
inductive TypeMember where
  | mk (type : LazyType) (name : Option String) (bitOffset : UInt64) (bitFieldSize : UInt64)

/-- `struct drgn_type_parameter`. -/
inductive TypeParameter where
  | mk (type : LazyType) (name : Option String)

end

/-- `struct drgn_qualified_type`. -/
structure QualifiedType where
  type : DrgnType
  qualifiers : Qualifiers

namespace DrgnType

/-- `drgn_type_kind`. -/
def kind : DrgnType → TypeKind
  | void .. => .void
  | int .. => .int
  | bool .. => .bool
  | float .. => .float
  | complex .. => .complex
  | compound k .. | incompleteCompound k .. => k
  | enum .. | incompleteEnum .. => .enum
  | typedef .. => .typedef
  | pointer .. => .pointer
  | array .. | incompleteArray .. => .array
  | function .. => .function

/-- `drgn_type_has_size` (type.h): the kinds with a size field. -/
def hasSize (t : DrgnType) : Bool :=
  match t.kind with
  | .int | .bool | .float | .complex | .struct | .union | .«class» | .enum | .pointer => true
  | _ => false

/-- `drgn_type_size`: the size field (an enum's is its compatible type's; an incomplete type's
is 0). -/
def size : DrgnType → UInt64
  | int _ s .. | bool _ s _ | float _ s _ | complex _ s .. | compound _ _ s .. => s
  | pointer _ _ s _ => s
  | enum _ (int _ s ..) .. => s
  | _ => 0

/-- `drgn_type_enumerators` of an enum (none for any other type). -/
def enumerators : DrgnType → List TypeEnumerator
  | enum _ _ es _ => es
  | _ => []

/-- `drgn_enum_type_is_signed`: the signedness of the compatible type. -/
def enumIsSigned : DrgnType → Bool
  | enum _ (int _ _ s _) .. => s
  | _ => false

end DrgnType

namespace TypeMember

def type : TypeMember → LazyType
  | mk t .. => t

def name : TypeMember → Option String
  | mk _ n .. => n

def bitOffset : TypeMember → UInt64
  | mk _ _ o _ => o

def bitFieldSize : TypeMember → UInt64
  | mk _ _ _ s => s

end TypeMember

/-! ## Objects -/

/-- `enum drgn_byte_order`. -/
inductive ByteOrder where
  | littleEndian
  | bigEndian
  deriving DecidableEq, Repr

/-- `enum drgn_object_kind`, as `drgn_object_set_common` computes it from a type. -/
inductive ObjectKind where
  | buffer
  | signed
  | unsigned
  | float
  | incomplete
  deriving DecidableEq, Repr

/-- What `drgn_object_set_common` derives from a qualified type: the kind of value and its size
in bits. -/
structure ObjectCommon where
  kind : ObjectKind
  bitSize : UInt64

/-- A `struct drgn_object` as the object finder sets it: a reference to memory, a signed or
unsigned value, or a value read from a byte buffer. -/
inductive DrgnObject where
  | reference (type : QualifiedType) (address : UInt64) (byteOrder : ByteOrder)
  | signed (type : QualifiedType) (value : Int)
  | unsigned (type : QualifiedType) (value : UInt64)
  | buffer (type : QualifiedType) (bytes : List UInt8) (littleEndian : Bool)

end Drgn
