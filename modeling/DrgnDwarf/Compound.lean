import DrgnDwarf.Array

/-!
# DrgnDwarf — compound types: the member loop

`drgn_compound_type_from_dwarf` parses the `DW_TAG_member` children of a structure, union or
class definition one behind: a member is held back until the next one turns up, so that the last
alone is parsed with `can_be_incomplete_array` true (a flexible array member), and only when the
type is no union and has a member before it.

* **`MemberSpec`** — the member one `DW_TAG_member` DIE gives under a flag: the DIE's name, its
  bit-field size, the offset `parse_member_offset` computes, and a lazy type of its `DW_AT_type`
  under the flag, unless the offset's computation evaluated it.
* **`parseMembers_returns`** — the invariant of the loop: every member DIE seen but the last has
  its member, in order, and the last is held.
* **`drgnCompoundTypeFromDwarf_members`** — a compound definition has one member per member DIE,
  in order; only the last is parsed under the flexible-array flag.
-/

namespace Drgn

section Members

variable {dw : DwarfInfo} {resolve : Resolver}

/-- A thunk of `drgn_lazy_type_from_dwarf` evaluates to what resolving its DIE under its flag
returns. -/
theorem drgnLazyTypeEvaluate_thunk {e : DieKey} {f : Bool} {s s' : DwarfInfoCache}
    {qt : QualifiedType} {lt : LazyType}
    (hrun : drgnLazyTypeEvaluate resolve (.thunk e f) s = .ok (qt, lt) s') :
    ∃ w, resolve e f s = .ok (qt, w) s' ∧ lt = .evaluated qt.type qt.qualifiers := by
  obtain ⟨⟨qt', w⟩, s₁, hres, hrun⟩ := bind_eq_ok hrun
  cases hrun
  exact ⟨w, hres, rfl⟩

/-- `parse_member_offset` hands back the lazy type it was given, or what that evaluated to when a
little-endian `DW_AT_bit_offset` needed the size of a type with no `DW_AT_byte_size`. -/
theorem parseMemberOffset_type (m : DieKey) (lt : LazyType) (bitFieldSize : UInt64)
    (littleEndian : Bool) :
    Returns (fun r : LazyType × UInt64 => r.1 = lt ∨
        ∃ qt s₁ s₂, drgnLazyTypeEvaluate resolve lt s₁ = .ok (qt, r.1) s₂)
      (parseMemberOffset dw resolve m lt bitFieldSize littleEndian) := by
  unfold parseMemberOffset
  refine .bind fun dataBitOffset _ _ _ => ?_
  split
  · exact .pure (.inl rfl)
  refine .bind fun _ _ _ _ => .bind fun bitOffset _ _ _ => ?_
  split
  · exact .pure (.inl rfl)
  split
  · simp only [bind_assoc]
    refine .bind fun byteSize _ _ _ => ?_
    split
    · exact .pure (.inl rfl)
    simp only [bind_assoc]
    refine .bind fun ⟨qt, lt'⟩ s₁ s₂ heval => ?_
    split
    · exact .pure (.inr ⟨qt, s₁, s₂, heval⟩)
    · exact .throw
  · exact .pure (.inl rfl)

/-- The member one `DW_TAG_member` DIE `m` of a compound of byte order `littleEndian` gives, its
type resolved under `canBeIncompleteArray`: the DIE's `DW_AT_name` (or none), its
`DW_AT_bit_size` (0 when absent), the offset `parse_member_offset` computes, and a lazy type of
the DIE's `DW_AT_type` under the flag, or what resolving that DIE under the flag returned. -/
def MemberSpec (dw : DwarfInfo) (resolve : Resolver) (littleEndian : Bool) (m : DieKey)
    (canBeIncompleteArray : Bool) (member : TypeMember) : Prop :=
  (dwarfAttrIntegrate dw.die m DwAt.name).bind dwarfFormstring = member.name ∧
  ((dwarfAttrIntegrate dw.die m DwAt.bitSize).bind dwarfFormudata).getD 0 =
    member.bitFieldSize ∧
  ∃ attr e, dwarfAttrIntegrate dw.die m DwAt.type = some attr ∧
    dwarfFormrefDie attr = some e ∧
    (member.type = .thunk e canBeIncompleteArray ∨ ∃ qt w s₁ s₂,
      resolve e canBeIncompleteArray s₁ = .ok (qt, w) s₂ ∧
        member.type = .evaluated qt.type qt.qualifiers) ∧
    ∃ s₁ s₂, parseMemberOffset dw resolve m (.thunk e canBeIncompleteArray) member.bitFieldSize
      littleEndian s₁ = .ok (member.type, member.bitOffset) s₂

/-- **`parse_member` adds the member its DIE gives.** -/
theorem parseMember_returns (m : DieKey) (littleEndian f : Bool) (builder : List TypeMember) :
    Returns (fun builder' => ∃ member, builder' = builder ++ [member] ∧
        MemberSpec dw resolve littleEndian m f member)
      (parseMember dw resolve m littleEndian f builder) := by
  unfold parseMember
  refine .bind fun name _ _ hname => .bind fun bitSize _ _ hbits =>
    .bind fun lt _ _ hlt => .bind fun ⟨lt', offset⟩ s₁ s₂ hoffset => ?_
  obtain ⟨-, hname, -⟩ := optionalAttr_eq_ok hname
  obtain ⟨-, hbits, -⟩ := optionalAttr_eq_ok hbits
  obtain ⟨attr, e, hattr, he, rfl⟩ := drgnLazyTypeFromDwarf_eq_thunk hlt
  have htype : lt' = .thunk e f ∨ ∃ qt w s₁ s₂, resolve e f s₁ = .ok (qt, w) s₂ ∧
      lt' = .evaluated qt.type qt.qualifiers := by
    refine (parseMemberOffset_type _ _ _ _ _ _ _ hoffset).imp_right ?_
    rintro ⟨qt, s₃, s₄, heval⟩
    obtain ⟨w, hres, hlt'⟩ := drgnLazyTypeEvaluate_thunk heval
    exact ⟨qt, w, s₃, s₄, hres, hlt'⟩
  exact (builderAdd_returns _ _).mono fun _ h =>
    ⟨_, h, hname, by rw [hbits]; rfl, attr, e, hattr, he, htype, s₁, s₂, hoffset⟩

/-- The members `members` are those of the member DIEs `dies`, in order, each parsed as no last
member. -/
def MembersBuiltFrom (dw : DwarfInfo) (resolve : Resolver) (littleEndian : Bool)
    (dies : List DieKey) (members : List TypeMember) : Prop :=
  members.length = dies.length ∧
    ∀ p ∈ dies.zip members, MemberSpec dw resolve littleEndian p.1 false p.2

theorem MembersBuiltFrom.nil (littleEndian : Bool) :
    MembersBuiltFrom dw resolve littleEndian [] [] :=
  ⟨rfl, by simp⟩

theorem MembersBuiltFrom.cons {littleEndian : Bool} {m : DieKey} {dies : List DieKey}
    {member : TypeMember} {members : List TypeMember}
    (hm : MemberSpec dw resolve littleEndian m false member)
    (h : MembersBuiltFrom dw resolve littleEndian dies members) :
    MembersBuiltFrom dw resolve littleEndian (m :: dies) (member :: members) := by
  refine ⟨by simp [h.1], ?_⟩
  simp only [List.zip_cons_cons, List.mem_cons]
  rintro p (rfl | hp)
  · exact hm
  · exact h.2 p hp

/-- What the member loop returns for the member DIEs `pending` still to be parsed, the held one
first, onto `builder`: with none, nothing held and the builder as it was; else the last one held
and, after the builder, the members of all the others. -/
def HeldMembers (dw : DwarfInfo) (resolve : Resolver) (littleEndian : Bool)
    (pending : List DieKey) (builder : List TypeMember)
    (r : Option DieKey × List TypeMember) : Prop :=
  (pending = [] ∧ r = (none, builder)) ∨
    ∃ init last members, pending = init ++ [last] ∧ r = (some last, builder ++ members) ∧
      MembersBuiltFrom dw resolve littleEndian init members

/-- **The invariant of the member loop.** -/
theorem parseMembers_returns (littleEndian : Bool) (held : Option DieKey)
    (children : List DieKey) (builder : List TypeMember) :
    Returns (HeldMembers dw resolve littleEndian
        (held.toList ++ childrenTagged dw DwTag.member children) builder)
      (parseMembers dw resolve littleEndian held children builder) := by
  induction children generalizing held builder with
  | nil =>
    cases held with
    | none => exact .pure (.inl ⟨rfl, rfl⟩)
    | some m => exact .pure (.inr ⟨[], m, [], rfl, by simp, .nil _⟩)
  | cons child rest ih =>
    unfold parseMembers
    split
    · next htag =>
      have hpending : childrenTagged dw DwTag.member (child :: rest) =
          child :: childrenTagged dw DwTag.member rest :=
        List.filter_cons_of_pos (by simpa using htag)
      rw [hpending]
      cases held with
      | none => exact .pure_bind (ih (some child) builder)
      | some m =>
        refine .bind_of (parseMember_returns m littleEndian false builder) ?_
        rintro _ ⟨member, rfl, hm⟩ s r s' hrun
        rcases ih (some child) _ s r s' hrun with ⟨hnil, -⟩ | ⟨init, last, members, hp, rfl, hb⟩
        · cases hnil
        · exact .inr ⟨m :: init, last, member :: members,
            by rw [List.cons_append, ← hp]; rfl, by simp, hb.cons hm⟩
    · next htag =>
      have hpending : childrenTagged dw DwTag.member (child :: rest) =
          childrenTagged dw DwTag.member rest :=
        List.filter_cons_of_neg (by simpa using htag)
      rw [hpending]
      exact ih held builder

/-- What the law says of a compound definition `die` of kind `kind` that materializes to `ty`:
a compound type of that kind whose members are those of the DIE's `DW_TAG_member` children, in
order, all but the last parsed as no last member, and the last under the flexible-array flag,
which holds when the type is no union and has at least two members. -/
def CompoundSpec (dw : DwarfInfo) (resolve : Resolver) (die : DieKey) (lang : Option Language)
    (kind : TypeKind) (ty : DrgnType) : Prop :=
  ∃ tag size members, ty = .compound kind tag size members lang ∧
    ((childrenTagged dw DwTag.member (dw.die die).children = [] ∧ members = []) ∨
      ∃ init last initMembers lastMember,
        childrenTagged dw DwTag.member (dw.die die).children = init ++ [last] ∧
        members = initMembers ++ [lastMember] ∧
        MembersBuiltFrom dw resolve (dw.die die).unit.littleEndian init initMembers ∧
        MemberSpec dw resolve (dw.die die).unit.littleEndian last
          (decide (kind ≠ .union ∧ 0 < init.length)) lastMember)

/-- **A compound definition has one member per member DIE, in order.** Whatever
`drgn_compound_type_from_dwarf` returns for a DIE whose `DW_AT_declaration` is false meets
`CompoundSpec`. -/
theorem drgnCompoundTypeFromDwarf_members {die : DieKey} {lang : Option Language}
    {kind : TypeKind} (hdecl : dwarfFlag dw.die die DwAt.declaration = some false) :
    Returns (CompoundSpec dw resolve die lang kind)
      (drgnCompoundTypeFromDwarf dw resolve die lang kind) := by
  unfold drgnCompoundTypeFromDwarf
  refine .bind fun ⟨dwTagStr, dwTag⟩ _ _ _ => .bind fun tag _ _ _ => ?_
  simp only [hdecl, findCompleteOfDeclaration_false, pure_bind, Bool.false_eq_true, ↓reduceIte,
    dwarfDieIsLittleEndian_false]
  split
  · exact .throw
  refine .bind_of (parseMembers_returns _ none _ []) ?_
  rintro ⟨held, builder⟩ hheld
  split
  · exact .throw
  rcases hheld with ⟨hnil, hr⟩ | ⟨init, last, members, hp, hr, hb⟩
  · -- no member
    cases hr
    exact .pure_bind (createType_returns ⟨tag, _, [], rfl, .inl ⟨hnil, rfl⟩⟩)
  · -- the held member is the last
    cases hr
    refine .bind_of (parseMember_returns last _ _ _) ?_
    rintro _ ⟨lastMember, rfl, hlast⟩
    rw [List.nil_append, hb.1] at hlast
    exact createType_returns ⟨tag, _, _, rfl, .inr ⟨init, last, members, lastMember, hp, rfl, hb,
      hlast⟩⟩

/-- `struct S` of `zeroLengthDwarf` is a definition that materializes, to a type that meets
`CompoundSpec`. -/
theorem zeroLength_struct_members :
    dwarfFlag zeroLengthDwarf.die 7 DwAt.declaration = some false ∧
    (∃ ty s', drgnCompoundTypeFromDwarf zeroLengthDwarf (drgnTypeFromDwarfInternal zeroLengthDwarf)
      7 (some .c) .struct (drgnDwarfInfoCacheCreate []) = .ok ty s') ∧
    Returns (CompoundSpec zeroLengthDwarf (drgnTypeFromDwarfInternal zeroLengthDwarf) 7 (some .c)
        .struct)
      (drgnCompoundTypeFromDwarf zeroLengthDwarf (drgnTypeFromDwarfInternal zeroLengthDwarf) 7
        (some .c) .struct) :=
  ⟨rfl, ⟨_, _, rfl⟩, drgnCompoundTypeFromDwarf_members rfl⟩

end Members

/-! ## Bit offsets

`parse_member_offset` computes in `uint64_t`. The law it implements is an integer one; the code
returns that integer modulo `2^64`, with no error when it falls outside the word. -/

section Offsets

variable {dw : DwarfInfo} {resolve : Resolver}

theorem UInt64.toNat_add_emod (a b : UInt64) :
    ((a + b).toNat : Int) = ((a.toNat : Int) + b.toNat) % UInt64.size := by
  simp only [UInt64.toNat, UInt64.add_def, BitVec.toNat_add, UInt64.size]
  omega

theorem UInt64.toNat_sub_emod (a b : UInt64) :
    ((a - b).toNat : Int) = ((a.toNat : Int) - b.toNat) % UInt64.size := by
  have := b.toBitVec.isLt
  simp only [UInt64.toNat, UInt64.sub_def, BitVec.toNat_sub, UInt64.size] at *
  omega

theorem UInt64.toNat_emod (a : UInt64) : (a.toNat : Int) % UInt64.size = a.toNat := by
  have := a.toBitVec.isLt
  simp only [UInt64.toNat, UInt64.size] at *
  omega

theorem UInt64.toNat_eight_mul_emod (a : UInt64) :
    ((8 * a).toNat : Int) = 8 * (a.toNat : Int) % UInt64.size := by
  have h8 : (8 : UInt64).toBitVec.toNat = 8 := rfl
  simp only [UInt64.toNat, UInt64.mul_def, BitVec.toNat_mul, h8, UInt64.size]
  omega

/-- The bit offset of the member DIE `m` as the law states it, an exact integer:
`DW_AT_data_bit_offset` when present; otherwise `8 * L`, plus, when `DW_AT_bit_offset` is
present, that bit offset on a big-endian file or `8 * S - bit_offset - bit_field_size` on a
little-endian one. `L` is `DW_AT_data_member_location` (0 when absent) and `S` the byte size of
the containing object. -/
def memberBitOffsetLaw (dw : DwarfInfo) (m : DieKey) (bitFieldSize : UInt64)
    (littleEndian : Bool) (byteSize : Nat) : Int :=
  match (dwarfAttrIntegrate dw.die m DwAt.dataBitOffset).bind dwarfFormudata with
  | some b => b.toNat
  | none =>
    8 * (((dwarfAttrIntegrate dw.die m DwAt.dataMemberLocation).bind dwarfFormudata).getD
        0).toNat +
      match (dwarfAttrIntegrate dw.die m DwAt.bitOffset).bind dwarfFormudata with
      | none => 0
      | some o => if littleEndian then 8 * byteSize - o.toNat - bitFieldSize.toNat else o.toNat

section Law

variable {m : DieKey} {bitFieldSize : UInt64} {littleEndian : Bool} {byteSize : Nat}

theorem memberBitOffsetLaw_dataBitOffset {b : UInt64}
    (h : (dwarfAttrIntegrate dw.die m DwAt.dataBitOffset).bind dwarfFormudata = some b) :
    memberBitOffsetLaw dw m bitFieldSize littleEndian byteSize = b.toNat := by
  simp [memberBitOffsetLaw, h]

theorem memberBitOffsetLaw_location
    (hdbo : (dwarfAttrIntegrate dw.die m DwAt.dataBitOffset).bind dwarfFormudata = none)
    (hbit : (dwarfAttrIntegrate dw.die m DwAt.bitOffset).bind dwarfFormudata = none) :
    memberBitOffsetLaw dw m bitFieldSize littleEndian byteSize =
      8 * (((dwarfAttrIntegrate dw.die m DwAt.dataMemberLocation).bind dwarfFormudata).getD
        0).toNat := by
  simp [memberBitOffsetLaw, hdbo, hbit]

theorem memberBitOffsetLaw_bitOffset {o : UInt64}
    (hdbo : (dwarfAttrIntegrate dw.die m DwAt.dataBitOffset).bind dwarfFormudata = none)
    (hbit : (dwarfAttrIntegrate dw.die m DwAt.bitOffset).bind dwarfFormudata = some o) :
    memberBitOffsetLaw dw m bitFieldSize littleEndian byteSize =
      8 * (((dwarfAttrIntegrate dw.die m DwAt.dataMemberLocation).bind dwarfFormudata).getD
        0).toNat +
      if littleEndian then 8 * (byteSize : Int) - o.toNat - bitFieldSize.toNat
      else (o.toNat : Int) := by
  simp [memberBitOffsetLaw, hdbo, hbit]

end Law

/-- `S`, the byte size of the object containing the member DIE `m` of lazy type `lt`: its
`DW_AT_byte_size` when present, otherwise the size of what `lt` evaluates to. -/
def MemberByteSize (dw : DwarfInfo) (resolve : Resolver) (m : DieKey) (lt : LazyType)
    (byteSize : Nat) : Prop :=
  match (dwarfAttrIntegrate dw.die m DwAt.byteSize).bind dwarfFormudata with
  | some w => byteSize = w.toNat
  | none => ∃ qt lt' s₁ s₂, drgnLazyTypeEvaluate resolve lt s₁ = .ok (qt, lt') s₂ ∧
      qt.type.hasSize ∧ byteSize = qt.type.size.toNat

/-- **`parse_member_offset` returns the law's offset modulo `2^64`.** The byte size `S` is read
only on a little-endian file, for a `DW_AT_bit_offset` without `DW_AT_data_bit_offset`. -/
theorem parseMemberOffset_law_emod (m : DieKey) (lt : LazyType) (bitFieldSize : UInt64)
    (littleEndian : Bool) :
    Returns (fun r : LazyType × UInt64 => ∃ byteSize,
        (littleEndian = true →
          ((dwarfAttrIntegrate dw.die m DwAt.dataBitOffset).bind dwarfFormudata).isNone →
          ((dwarfAttrIntegrate dw.die m DwAt.bitOffset).bind dwarfFormudata).isSome →
          MemberByteSize dw resolve m lt byteSize) ∧
        (r.2.toNat : Int) =
          memberBitOffsetLaw dw m bitFieldSize littleEndian byteSize % UInt64.size)
      (parseMemberOffset dw resolve m lt bitFieldSize littleEndian) := by
  unfold parseMemberOffset
  refine .bind fun dataBitOffset _ _ hdbo => ?_
  obtain ⟨-, hdbo, -⟩ := optionalAttr_eq_ok hdbo
  split
  · -- `DW_AT_data_bit_offset`
    refine .pure ⟨0, fun _ h => absurd h (by simp [hdbo]), ?_⟩
    rw [memberBitOffsetLaw_dataBitOffset hdbo, UInt64.toNat_emod]
  refine .bind fun byteOffset _ _ hbyte => .bind fun bitOffset _ _ hbit => ?_
  obtain ⟨-, hbyte, -⟩ := optionalAttr_eq_ok hbyte
  obtain ⟨-, hbit, -⟩ := optionalAttr_eq_ok hbit
  split
  · -- no `DW_AT_bit_offset`
    refine .pure ⟨0, fun _ _ h => absurd h (by simp [hbit]), ?_⟩
    rw [memberBitOffsetLaw_location hdbo hbit, hbyte]
    cases byteOffset <;> simp [UInt64.toNat_eight_mul_emod]
  split
  · -- little-endian: `8 * S - bit_offset - bit_field_size`
    refine .bind fun word _ _ hword => ?_
    obtain ⟨-, hword, -⟩ := optionalAttr_eq_ok hword
    refine .bind_of (Q := fun r : LazyType × UInt64 => MemberByteSize dw resolve m lt r.2.toNat)
      ?_ ?_
    · split
      · exact .pure (by dsimp only; rw [MemberByteSize, hword])
      · refine .bind fun ⟨qt, lt'⟩ s₁ s₂ heval => ?_
        dsimp only
        split
        · refine .pure ?_
          dsimp only
          rw [MemberByteSize, hword]
          exact ⟨qt, lt', s₁, s₂, heval, ‹_›, rfl⟩
        · exact .throw
    rintro ⟨lt', byteSize⟩ hsize
    refine .pure ⟨byteSize.toNat, fun _ _ _ => hsize, ?_⟩
    rw [memberBitOffsetLaw_bitOffset hdbo hbit, hbyte, if_pos ‹_›, UInt64.toNat_add_emod,
      UInt64.toNat_sub_emod, UInt64.toNat_sub_emod, UInt64.toNat_eight_mul_emod]
    cases byteOffset <;> simp [UInt64.toNat_eight_mul_emod] <;> omega
  · -- big-endian: `bit_offset`
    refine .pure ⟨0, fun h => absurd h ‹_›, ?_⟩
    rw [memberBitOffsetLaw_bitOffset hdbo hbit, hbyte, if_neg ‹_›, UInt64.toNat_add_emod]
    cases byteOffset <;> simp [UInt64.toNat_eight_mul_emod]

end Offsets

/-! ## A bit field that overruns its storage unit

`struct B { int x : 3; }` whose member claims, on a little-endian file, a 4-byte storage unit at
byte 0 and a `DW_AT_bit_offset` of 30: the field would start one bit before the structure. -/

/-- The DIEs of the program. -/
def overrunDie : DieKey → Die
  | 1 => { tag := DwTag.baseType,
           attributes := [⟨DwAt.name, .string "int"⟩, ⟨DwAt.encoding, .data 5⟩,
             ⟨DwAt.byteSize, .data 4⟩] }
  | 2 => { tag := DwTag.structureType, children := [3],
           attributes := [⟨DwAt.name, .string "B"⟩, ⟨DwAt.byteSize, .data 4⟩] }
  | 3 => { tag := DwTag.member,
           attributes := [⟨DwAt.name, .string "x"⟩, ⟨DwAt.type, .ref 1⟩,
             ⟨DwAt.dataMemberLocation, .data 0⟩, ⟨DwAt.byteSize, .data 4⟩,
             ⟨DwAt.bitOffset, .data 30⟩, ⟨DwAt.bitSize, .data 3⟩] }
  | _ => { tag := 0 }

/-- The program; nothing is indexed. -/
def overrunDwarf : DwarfInfo where
  die := overrunDie
  index _ _ := ⟨[], false⟩
  dieMatchesFilename _ _ := true
  wordSize := some 8
  objectSetCommon _ := .error (otherError "no object layer")

/-- **A negative bit offset wraps around.** The law puts the field of `overrunDwarf` at bit
`8 * 0 + (8 * 4 - 30 - 3) = -1`; `drgn_type_from_dwarf` raises no error and builds `struct B`
with the member at bit `2^64 - 1`. -/
theorem member_bit_offset_wraps :
    memberBitOffsetLaw overrunDwarf 3 3 true 4 = -1 ∧
    ∃ s', drgnTypeFromDwarfInternal overrunDwarf 2 true (drgnDwarfInfoCacheCreate []) =
      .ok (⟨.compound .struct (some "B") 4
          [.mk (.thunk 1 false) (some "x") 18446744073709551615 3] (some .c), 0⟩, some false) s' :=
  ⟨rfl, _, rfl⟩

end Drgn
