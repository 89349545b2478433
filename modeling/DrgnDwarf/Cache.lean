import DrgnDwarf.Type

/-!
# DrgnDwarf — the cache, its two memo maps, and the effects a materialization may have

`struct drgn_dwarf_info_cache` holds two `dwarf_type_map`s and the recursion depth. A
materialization reads the DWARF image and the name index, which never change, and it changes
the cache; it can also run out of memory anywhere it allocates.

* **`DwarfInfo`** — the read-only world: the DIE store, the name index, the filename filter, the
  program's word size, and `drgn_object_set_common` of the object layer.
* **`DwarfTypeMap`** — a map from DIE address to `{type, qualifiers, is_incomplete_array}`. It is
  kept as its entries in insertion order. `search` finds the first entry of a key;
  `insertSearched` adds an entry without looking for the key, as `dwarf_type_map_insert_searched`
  does (its caller has searched already).
* **`DwarfInfoCache`** — the two maps, `depth`, and the allocator's next outcomes.
* **`DrgnM`** — `EStateM` over the cache: an error keeps the state it was raised in, as the C
  code keeps every entry a nested call inserted before the error.
* **the type factory** — every `drgn_*_type_create` is `createType` of its constructor: one
  allocation, then the descriptor built from the fields.
-/

namespace Drgn

/-! ## The read-only world -/

/-- What `drgn_dwarf_index_iterator_next` yields for one lookup: the matching DIEs with their
bias, in index order, and then `&drgn_stop`, or a libdw error when `failed` is set. -/
structure IndexIteration where
  entries : List (DieKey × UInt64)
  failed : Bool := false

/-- The inputs of a materialization that it never changes: the DIE store, the name index
(`drgn_dwarf_index`, queried by name and tags), `die_matches_filename`, the program's word size
(`none` when the program has no platform), and `drgn_object_set_common` of the object layer. -/
structure DwarfInfo where
  die : DieStore
  index : String → List Nat → IndexIteration
  dieMatchesFilename : DieKey → Option String → Bool
  wordSize : Option UInt8
  objectSetCommon : QualifiedType → Except DrgnError ObjectCommon

/-! ## The memo maps -/

/-- The value of a `dwarf_type_map` entry. -/
structure DwarfTypeMapValue where
  type : DrgnType
  qualifiers : Qualifiers
  isIncompleteArray : Bool

/-- `struct dwarf_type_map_entry`. -/
structure DwarfTypeMapEntry where
  key : DieKey
  value : DwarfTypeMapValue

/-- `struct dwarf_type_map`, as its entries in insertion order. -/
structure DwarfTypeMap where
  entries : List DwarfTypeMapEntry := []

namespace DwarfTypeMap

/-- `dwarf_type_map_search_hashed`: the first entry of the key. -/
def search (m : DwarfTypeMap) (key : DieKey) : Option DwarfTypeMapValue :=
  (m.entries.find? (·.key == key)).map (·.value)

/-- `dwarf_type_map_insert_searched`: the entry is added without looking for its key. -/
def insertSearched (m : DwarfTypeMap) (entry : DwarfTypeMapEntry) : DwarfTypeMap :=
  ⟨m.entries ++ [entry]⟩

/-- A key is present when `search` finds it. -/
def contains (m : DwarfTypeMap) (key : DieKey) : Prop :=
  ∃ e ∈ m.entries, e.key = key

@[simp] theorem search_empty (key : DieKey) : ({} : DwarfTypeMap).search key = none := rfl

/-- An insertion never changes what a present key finds: the first entry of a key stays
first. -/
theorem search_insertSearched (m : DwarfTypeMap) (entry : DwarfTypeMapEntry) (key : DieKey) :
    (m.insertSearched entry).search key =
      (m.search key).orElse fun _ => if entry.key = key then some entry.value else none := by
  unfold search insertSearched
  rw [List.find?_append]
  cases m.entries.find? (·.key == key) <;> by_cases h : entry.key = key <;> simp [h, Option.orElse]

end DwarfTypeMap

/-! ## The cache and the monad -/

/-- `struct drgn_dwarf_info_cache` (the index and the program are in `DwarfInfo`), and the
outcomes of the next allocations (`true`: it fails); once they run out, allocations succeed. -/
structure DwarfInfoCache where
  map : DwarfTypeMap := {}
  cantBeIncompleteArrayMap : DwarfTypeMap := {}
  depth : Nat := 0
  failingAllocations : List Bool := []

/-- A computation on the cache: an error keeps the state it was raised in. -/
abbrev DrgnM := EStateM Fault DwarfInfoCache

/-- Return a `struct drgn_error *`. -/
def returnError {α : Type} (err : DrgnError) : DrgnM α := throw (.error err)

/-- One allocation (a `malloc`, or a table or vector growing): `false` when it fails. -/
def allocate : DrgnM Bool := fun s =>
  match s.failingAllocations with
  | [] => .ok true s
  | fails :: rest => .ok (!fails) { s with failingAllocations := rest }

/-- `drgn_dwarf_info_cache_create`: both maps empty, depth 0. -/
def drgnDwarfInfoCacheCreate (failingAllocations : List Bool) : DwarfInfoCache :=
  { failingAllocations }

/-! ## The type factory -/

/-- Every `drgn_*_type_create`: allocate the descriptor, or fail with `&drgn_enomem`. -/
def createType (t : DrgnType) : DrgnM DrgnType := do
  if ← allocate then pure t else returnError drgnEnomem

def drgnBoolTypeCreate (name : String) (size : UInt64) (lang : Option Language) :
    DrgnM DrgnType := createType (.bool name size lang)

def drgnFloatTypeCreate (name : String) (size : UInt64) (lang : Option Language) :
    DrgnM DrgnType := createType (.float name size lang)

def drgnIntTypeCreate (name : String) (size : UInt64) (isSigned : Bool)
    (lang : Option Language) : DrgnM DrgnType := createType (.int name size isSigned lang)

def drgnComplexTypeCreate (name : String) (size : UInt64) (realType : DrgnType)
    (lang : Option Language) : DrgnM DrgnType := createType (.complex name size realType lang)

def drgnIncompleteCompoundTypeCreate (kind : TypeKind) (tag : Option String)
    (lang : Option Language) : DrgnM DrgnType := createType (.incompleteCompound kind tag lang)

def drgnIncompleteEnumTypeCreate (tag : Option String) (lang : Option Language) :
    DrgnM DrgnType := createType (.incompleteEnum tag lang)

def drgnTypedefTypeCreate (name : String) (aliasedType : QualifiedType)
    (lang : Option Language) : DrgnM DrgnType :=
  createType (.typedef name aliasedType.type aliasedType.qualifiers lang)

def drgnPointerTypeCreate (referencedType : QualifiedType) (size : UInt64)
    (lang : Option Language) : DrgnM DrgnType :=
  createType (.pointer referencedType.type referencedType.qualifiers size lang)

def drgnArrayTypeCreate (elementType : QualifiedType) (length : UInt64)
    (lang : Option Language) : DrgnM DrgnType :=
  createType (.array elementType.type elementType.qualifiers length lang)

def drgnIncompleteArrayTypeCreate (elementType : QualifiedType) (lang : Option Language) :
    DrgnM DrgnType := createType (.incompleteArray elementType.type elementType.qualifiers lang)

/-- `drgn_void_type`: the void type of a language is static, nothing is allocated. -/
def drgnVoidType (lang : Option Language) : DrgnType := .void lang

/-- `drgn_language_or_default`: the C language stands in for an unknown one. -/
def drgnLanguageOrDefault (lang : Option Language) : Option Language := some (lang.getD .c)

/-- Append one element to a builder's vector (`*_builder_add_*`), or fail with
`&drgn_enomem`. -/
def builderAdd {α : Type} (builder : List α) (x : α) : DrgnM (List α) := do
  if ← allocate then pure (builder ++ [x]) else returnError drgnEnomem

end Drgn
