import Mathlib.Logic.Relation
import DrgnDwarf.Memo
import DrgnDwarf.Replay

/-!
# DrgnDwarf — a DIE on a cycle of call edges is never materialized

A materialization resolves every one of its call edges before it returns. A DIE whose call edges
lead back to it could return only if some DIE of the cycle were answered from `dicache->map`, and
none of them ever gets there: the descent goes round the cycle until the depth guard refuses it.

* **`Spec I P m`** — from a cache satisfying `I`, `m` returns a value satisfying `P` or fails,
  not with `DRGN_ERROR_STOP`, and leaves a cache satisfying `I`; **`Stuck I m`**: it fails.
* **`typeFromDwarfSwitch_stuck`** — every call edge is on every way to a return: the switch fails
  when the resolver fails on one call edge of the DIE.
* **`Settled`** — no DIE on a cycle of call edges has an entry in `dicache->map`. Every call keeps
  it, and from a settled cache the resolution of a DIE on a cycle fails
  (`typeFromDwarfInternalAux_settled`); new caches are settled, so reachable ones are.
* **`typeFromDwarfInternalAux_true_first`** — a resolution with the flag set that returns leaves
  its result as the first entry of its DIE in `dicache->map`: nothing inserted one on the way.
-/

namespace Drgn

/-! ## Runs that fail -/

/-- Any fault but `DRGN_ERROR_STOP`, which the declaration step turns into "no definition". -/
def NotStop : Fault → Prop
  | .error err => err.code ≠ .stop
  | _ => True

theorem LocalFault.notStop {f : Fault} (h : LocalFault f) : NotStop f := by
  cases f with
  | error err => exact h.2
  | _ => trivial

/-- The end of a run: a value satisfying `P`, or a fault other than `DRGN_ERROR_STOP`, in a
cache satisfying `I`. -/
def SpecEnd {α : Type} (I : DwarfInfoCache → Prop) (P : α → Prop) :
    EStateM.Result Fault DwarfInfoCache α → Prop
  | .ok a s => P a ∧ I s
  | .error f s => NotStop f ∧ I s

/-- **From a cache satisfying `I`, `m` returns a value satisfying `P` or fails, not with
`DRGN_ERROR_STOP`; either way it leaves a cache satisfying `I`.** -/
def Spec {α : Type} (I : DwarfInfoCache → Prop) (P : α → Prop) (m : DrgnM α) : Prop :=
  ∀ s, I s → SpecEnd I P (m s)

/-- From a cache satisfying `I`, `m` fails, not with `DRGN_ERROR_STOP`. -/
def Stuck {α : Type} (I : DwarfInfoCache → Prop) (m : DrgnM α) : Prop :=
  Spec I (fun _ => False) m

namespace Spec

variable {α β : Type} {I : DwarfInfoCache → Prop} {P : β → Prop}

theorem pure {b : β} (h : P b) : Spec I P (Pure.pure b : DrgnM β) := fun _ hs => ⟨h, hs⟩

theorem throw {f : Fault} (h : NotStop f) : Spec I P (MonadExcept.throw f : DrgnM β) :=
  fun _ hs => ⟨h, hs⟩

theorem bind {Q : α → Prop} {x : DrgnM α} {f : α → DrgnM β} (hx : Spec I Q x)
    (hf : ∀ a, Q a → Spec I P (f a)) : Spec I P (x >>= f) := by
  intro s hs
  have h := hx s hs
  cases hxs : x s with
  | ok a s' =>
    rw [hxs] at h
    rw [bind_eq_of_ok hxs]
    exact hf a h.1 s' h.2
  | error e s' =>
    rw [hxs] at h
    rw [bind_eq_error hxs]
    exact h

theorem ofKeeps {Q : α → Prop} {x : DrgnM α} (hx : Keeps I NotStop x) (hQ : Returns Q x) :
    Spec I Q x := by
  intro s hs
  have h := hx s hs
  cases hxs : x s with
  | ok a s' => rw [hxs] at h; exact ⟨hQ s a s' hxs, h⟩
  | error e s' => rw [hxs] at h; exact h

theorem keeps {x : DrgnM β} (h : Spec I P x) : Keeps I NotStop x := fun s hs => by
  have h := h s hs
  revert h
  cases x s with
  | ok _ _ => exact And.right
  | error _ _ => exact id

/-- A step that keeps `I`, then a step that satisfies the triple. -/
theorem keeps_bind {x : DrgnM α} {f : α → DrgnM β} (hx : Keeps I NotStop x)
    (hf : ∀ a, Spec I P (f a)) : Spec I P (x >>= f) :=
  .bind (Q := fun _ => True) (.ofKeeps hx fun _ _ _ _ => trivial) fun a _ => hf a

/-- A step that fails, whatever follows it. -/
theorem stuck_bind {x : DrgnM α} {f : α → DrgnM β} (hx : Stuck I x) : Spec I P (x >>= f) :=
  .bind hx fun _ h => h.elim

theorem pure_bind {a : α} {f : α → DrgnM β} (h : Spec I P (f a)) :
    Spec I P (Pure.pure a >>= f) :=
  h

theorem ite {c : Prop} [Decidable c] {a b : DrgnM β} (ha : c → Spec I P a)
    (hb : ¬c → Spec I P b) : Spec I P (if c then a else b) := by
  split
  · exact ha ‹_›
  · exact hb ‹_›

end Spec

/-! ## Every call edge is on every way to a return -/

section Dispatchers

variable {dw : DwarfInfo} {resolve : Resolver} {I : DwarfInfoCache → Prop}

/-- With a `DW_AT_type` that names a DIE, `drgn_type_from_dwarf_child` is the resolution of that
DIE. -/
theorem drgnTypeFromDwarfChild_of_type {die e : DieKey} {attr : DwarfAttribute}
    (hattr : dwarfAttrIntegrate dw.die die DwAt.type = some attr)
    (he : dwarfFormrefDie attr = some e) (lang : Option Language) (tagName : String)
    (canBeVoid f : Bool) :
    drgnTypeFromDwarfChild dw resolve die lang tagName canBeVoid f = resolve e f := by
  unfold drgnTypeFromDwarfChild
  simp only [hattr, he]

theorem drgnTypedefTypeFromDwarf_stuck {die e : DieKey} {attr : DwarfAttribute}
    (hattr : dwarfAttrIntegrate dw.die die DwAt.type = some attr)
    (he : dwarfFormrefDie attr = some e) (lang : Option Language) (f : Bool)
    (hstuck : Stuck I (resolve e f)) :
    Stuck I (drgnTypedefTypeFromDwarf dw resolve die lang f) := by
  unfold drgnTypedefTypeFromDwarf
  split
  · rw [drgnTypeFromDwarfChild_of_type hattr he]
    exact .stuck_bind hstuck
  · exact .throw nofun

theorem drgnPointerTypeFromDwarf_stuck {die e : DieKey} {attr : DwarfAttribute}
    (hattr : dwarfAttrIntegrate dw.die die DwAt.type = some attr)
    (he : dwarfFormrefDie attr = some e) (lang : Option Language)
    (hstuck : Stuck I (resolve e true)) :
    Stuck I (drgnPointerTypeFromDwarf dw resolve die lang) := by
  unfold drgnPointerTypeFromDwarf
  rw [drgnTypeFromDwarfChild_of_type hattr he]
  exact .stuck_bind hstuck

theorem qualifiedTypeFromDwarf_stuck {die e : DieKey} {attr : DwarfAttribute}
    (hattr : dwarfAttrIntegrate dw.die die DwAt.type = some attr)
    (he : dwarfFormrefDie attr = some e) (lang : Option Language) (tagName : String)
    (qualifier : Qualifiers) (hstuck : Stuck I (resolve e true)) :
    Stuck I (qualifiedTypeFromDwarf dw resolve die lang tagName qualifier) := by
  unfold qualifiedTypeFromDwarf
  rw [drgnTypeFromDwarfChild_of_type hattr he]
  exact .stuck_bind hstuck

/-- The declaration step fails when the one definition the index gives fails. -/
theorem findCompleteOfDeclaration_stuck {dwTag : Nat} {name : String} {e : DieKey}
    {bias : UInt64} (hent : (dw.index name [dwTag]).entries = [(e, bias)])
    (hfail : (dw.index name [dwTag]).failed = false) (hstuck : Stuck I (resolve e true)) :
    Stuck I (findCompleteOfDeclaration dw resolve true dwTag (some name)) := by
  have hfind : Stuck I (drgnDwarfInfoCacheFindComplete dw resolve dwTag name) := by
    unfold drgnDwarfInfoCacheFindComplete
    simp only [hent, hfail, Bool.false_eq_true, ↓reduceIte]
    exact .stuck_bind (.stuck_bind hstuck)
  intro s hs
  have h := hfind s hs
  unfold findCompleteOfDeclaration
  dsimp only
  revert h
  cases drgnDwarfInfoCacheFindComplete dw resolve dwTag name s with
  | ok _ _ => exact fun h => h.1.elim
  | error f s' =>
    cases f with
    | error err =>
      rintro ⟨hstop, hs'⟩
      have hstop' : ¬err.code = .stop := hstop
      simp only [hstop', ↓reduceIte]
      exact (⟨hstop, hs'⟩ : NotStop _ ∧ I s')
    | _ => exact id

variable (h : Frame I NotStop)
include h

theorem drgnFunctionTypeFromDwarf_stuck {die e : DieKey} {attr : DwarfAttribute}
    (hattr : dwarfAttrIntegrate dw.die die DwAt.type = some attr)
    (he : dwarfFormrefDie attr = some e) (lang : Option Language)
    (hstuck : Stuck I (resolve e true)) :
    Stuck I (drgnFunctionTypeFromDwarf dw resolve die lang) := by
  unfold drgnFunctionTypeFromDwarf
  refine .keeps_bind (parseParameters_rel (.keeps h) _ _ _ _) fun ⟨_, _⟩ =>
    .ite (fun _ => .throw nofun) fun _ => ?_
  rw [drgnTypeFromDwarfChild_of_type hattr he]
  exact .stuck_bind hstuck

/-- Without its element type, the array dispatcher returns only "nothing written". -/
theorem drgnArrayTypeFromDwarf_spec {die e : DieKey} {attr : DwarfAttribute}
    (hattr : dwarfAttrIntegrate dw.die die DwAt.type = some attr)
    (he : dwarfFormrefDie attr = some e) (lang : Option Language) (f : Bool)
    (hstuck : Stuck I (resolve e false)) :
    Spec I (· = none) (drgnArrayTypeFromDwarf dw resolve die lang f) := by
  unfold drgnArrayTypeFromDwarf
  refine .keeps_bind (arrayDimensions_rel (.keeps h) _ _) fun dims => ?_
  cases dims with
  | none => exact .pure rfl
  | some dims =>
    dsimp only
    refine .ite (fun _ => .throw nofun) fun _ => .keeps_bind ?_ fun dims => ?_
    · exact (RunRel.keeps h).ite (fun _ => (RunRel.keeps h).bind (RunRel.keeps h).allocate
        fun _ => (RunRel.keeps h).ite (fun _ => (RunRel.keeps h).pure _)
          fun _ => (RunRel.keeps h).throw trivial) fun _ => (RunRel.keeps h).pure _
    · rw [drgnTypeFromDwarfChild_of_type hattr he]
      exact .stuck_bind hstuck

omit h in
theorem drgnBaseTypeFromDwarf_stuck {die e : DieKey} (lang : Option Language)
    (henc : (dwarfAttrIntegrate dw.die die DwAt.encoding).bind dwarfFormudata =
      some DwAte.complexFloat)
    (hty : dwarfType dw.die die = .ref e) (hstuck : Stuck I (resolve e true)) :
    Stuck I (drgnBaseTypeFromDwarf dw resolve die lang) := by
  unfold drgnBaseTypeFromDwarf
  split
  · simp only [henc, DwAte.complexFloat, DwAte.boolean, DwAte.float, DwAte.signed,
      DwAte.signedChar, DwAte.unsigned, DwAte.unsignedChar]
    refine .ite (fun _ => .throw nofun) fun _ => ?_
    simp only [hty]
    exact .stuck_bind (.stuck_bind hstuck)
  · exact .throw nofun

theorem parseMemberOffset_stuck {die e : DieKey} {f : Bool} (bitFieldSize : UInt64)
    {littleEndian : Bool} (hdbo : dwarfAttrIntegrate dw.die die DwAt.dataBitOffset = none)
    (hbo : (dwarfAttrIntegrate dw.die die DwAt.bitOffset).isSome) (hle : littleEndian = true)
    (hbs : dwarfAttrIntegrate dw.die die DwAt.byteSize = none) (hstuck : Stuck I (resolve e f)) :
    Stuck I (parseMemberOffset dw resolve die (.thunk e f) bitFieldSize littleEndian) := by
  unfold parseMemberOffset
  refine .bind (.ofKeeps (optionalAttr_rel (.keeps h) _ _ _ _)
    fun _ _ _ hrun => (optionalAttr_eq_ok hrun).2.2) fun dataBitOffset hdbo' => ?_
  rw [hdbo] at hdbo'
  cases dataBitOffset with
  | some _ => cases hdbo'
  | none =>
    refine .keeps_bind (optionalAttr_rel (.keeps h) _ _ _ _) fun _ => ?_
    refine .bind (.ofKeeps (optionalAttr_rel (.keeps h) _ _ _ _)
      fun _ _ _ hrun => (optionalAttr_eq_ok hrun).2.2) fun bitOffset hbo' => ?_
    cases bitOffset with
    | none => rw [hbo] at hbo'; cases hbo'
    | some _ =>
      dsimp only
      rw [if_pos hle]
      refine .bind (.ofKeeps (optionalAttr_rel (.keeps h) _ _ _ _)
        fun _ _ _ hrun => (optionalAttr_eq_ok hrun).2.2) fun byteSize hbs' => ?_
      rw [hbs] at hbs'
      have hlazy : Stuck I (drgnLazyTypeEvaluate resolve (.thunk e f)) := by
        simp only [drgnLazyTypeEvaluate]
        exact .stuck_bind hstuck
      cases byteSize with
      | some _ => cases hbs'
      | none => exact .stuck_bind (.stuck_bind hlazy)

/-- A member whose offset needs the size of its type fails when that type does. -/
theorem parseMember_stuck {m e : DieKey} {littleEndian : Bool}
    (hsized : SizedMemberType dw littleEndian m e) (hstuck : ∀ f, Stuck I (resolve e f))
    (f : Bool) (builder : List TypeMember) :
    Stuck I (parseMember dw resolve m littleEndian f builder) := by
  obtain ⟨hdbo, hbo, hle, hbs, attr, hattr, he⟩ := hsized
  unfold parseMember
  refine .keeps_bind (optionalAttr_rel (.keeps h) _ _ _ _) fun _ =>
    .keeps_bind (optionalAttr_rel (.keeps h) _ _ _ _) fun _ => ?_
  refine .bind (.ofKeeps (drgnLazyTypeFromDwarf_rel (.keeps h) _ _ _)
    fun _ _ _ hrun => drgnLazyTypeFromDwarf_eq_thunk hrun) fun memberType hthunk => ?_
  obtain ⟨attr', e', hattr', he', rfl⟩ := hthunk
  rw [hattr] at hattr'
  cases hattr'
  rw [he] at he'
  cases he'
  exact .stuck_bind (parseMemberOffset_stuck h _ hdbo hbo hle hbs (hstuck f))

omit h in
/-- The member loop either parses the member `m`, and fails, or holds `m` back at its end. -/
theorem parseMembers_holds {littleEndian : Bool} {m : DieKey}
    (hstuck : ∀ b, Stuck I (parseMember dw resolve m littleEndian false b))
    (member : Option DieKey) (children : List DieKey) (builder : List TypeMember)
    (hkeep : ∀ m' b, member = some m' ∨ m' ∈ children ∧ dwarfTag dw.die m' = DwTag.member →
      Keeps I NotStop (parseMember dw resolve m' littleEndian false b))
    (hm : member = some m ∨ m ∈ children ∧ dwarfTag dw.die m = DwTag.member) :
    Spec I (fun r => r.1 = some m)
      (parseMembers dw resolve littleEndian member children builder) := by
  induction children generalizing member builder with
  | nil =>
    obtain rfl | ⟨hm, _⟩ := hm
    · exact .pure rfl
    · cases hm
  | cons child rest ih =>
    unfold parseMembers
    split
    next hchild =>
      by_cases hheld : member = some m
      · subst hheld
        exact .stuck_bind (hstuck builder)
      · refine .keeps_bind ?_ fun b => ih (some child) b (fun m' b hm' => hkeep m' b ?_) ?_
        · cases member with
          | none => exact .pure _
          | some m' => exact hkeep m' builder (.inl rfl)
        · rcases hm' with hm' | ⟨hm', htag⟩
          · cases hm'; exact .inr ⟨List.mem_cons_self _ _, hchild⟩
          · exact .inr ⟨List.mem_cons_of_mem _ hm', htag⟩
        · rcases hm with hm | ⟨hm, htag⟩
          · exact absurd hm hheld
          · rcases List.mem_cons.mp hm with rfl | hm
            · exact .inl rfl
            · exact .inr ⟨hm, htag⟩
    next hchild =>
      refine ih member builder (fun m' b hm' => hkeep m' b ?_) ?_
      · exact hm'.imp_right fun ⟨hm', htag⟩ => ⟨List.mem_cons_of_mem _ hm', htag⟩
      · refine hm.imp_right fun ⟨hm, htag⟩ => ⟨?_, htag⟩
        rcases List.mem_cons.mp hm with rfl | hm
        · exact absurd htag hchild
        · exact hm

theorem drgnCompoundTypeFromDwarf_stuck_definition {die e : DieKey} {name : String}
    {bias : UInt64} (lang : Option Language) (kind : TypeKind)
    (htag : typeFindTag kind = some (dwarfTag dw.die die))
    (hdecl : dwarfFlag dw.die die DwAt.declaration = some true)
    (hname : (dwarfAttrIntegrate dw.die die DwAt.name).bind dwarfFormstring = some name)
    (hent : (dw.index name [dwarfTag dw.die die]).entries = [(e, bias)])
    (hfail : (dw.index name [dwarfTag dw.die die]).failed = false)
    (hstuck : Stuck I (resolve e true)) :
    Stuck I (drgnCompoundTypeFromDwarf dw resolve die lang kind) := by
  unfold drgnCompoundTypeFromDwarf
  refine .bind (Q := fun t : String × Nat => t.2 = dwarfTag dw.die die) (.ofKeeps ?_ ?_)
    fun ⟨_, dwTag⟩ hdwTag => ?_
  · cases kind <;> first | exact .pure _ | exact .throw trivial
  · cases kind <;> simp only [typeFindTag, Option.some.injEq] at htag <;>
      first | exact Returns.throw | exact Returns.pure htag
  subst hdwTag
  dsimp only
  refine .bind (.ofKeeps (optionalAttr_rel (.keeps h) _ _ _ _)
    fun _ _ _ hrun => (optionalAttr_eq_ok hrun).2.1) fun tag htagName => ?_
  rw [hname] at htagName
  subst htagName
  simp only [hdecl]
  exact .stuck_bind (findCompleteOfDeclaration_stuck hent hfail hstuck)

theorem drgnCompoundTypeFromDwarf_stuck_member {die m e : DieKey} (lang : Option Language)
    (kind : TypeKind) (htag : typeFindTag kind = some (dwarfTag dw.die die))
    (hdefinition : dwarfFlag dw.die die DwAt.declaration = some false)
    (hm : m ∈ (dw.die die).children) (htagm : dwarfTag dw.die m = DwTag.member)
    (hsized : SizedMemberType dw (dw.die die).unit.littleEndian m e)
    (hstuck : ∀ f, Stuck I (resolve e f))
    (hkeep : ∀ e f, CallEdge dw die e → Keeps I NotStop (resolve e f)) :
    Stuck I (drgnCompoundTypeFromDwarf dw resolve die lang kind) := by
  unfold drgnCompoundTypeFromDwarf
  refine .bind (Q := fun t : String × Nat => t.2 = dwarfTag dw.die die ∧ t.2 ∈ compoundTags)
    (.ofKeeps ?_ ?_) fun ⟨_, dwTag⟩ ⟨hdwTag, hcompound⟩ => ?_
  · cases kind <;> first | exact .pure _ | exact .throw trivial
  · cases kind <;> simp only [typeFindTag, Option.some.injEq] at htag <;>
      first | exact Returns.throw | exact Returns.pure ⟨htag, by decide⟩
  subst hdwTag
  dsimp only
  refine .keeps_bind (optionalAttr_rel (.keeps h) _ _ _ _) fun tag => ?_
  simp only [hdefinition, findCompleteOfDeclaration_false]
  refine .pure_bind ?_
  simp only [Bool.false_eq_true, ↓reduceIte]
  refine .ite (fun _ => .throw nofun) fun _ => ?_
  simp only [dwarfDieIsLittleEndian_false]
  refine .bind (parseMembers_holds (parseMember_stuck h hsized hstuck false) none _ []
    (fun m' b hm' => @parseMember_rel (.keeps h) _ _ resolve _ _ _ _
      fun e hsized' => hkeep e false ?_)
    (.inr ⟨hm, htagm⟩)) fun ⟨held, members⟩ hheld => ?_
  · obtain ⟨hm', htagm'⟩ := hm'.resolve_left nofun
    exact .memberType hcompound hdefinition hm' htagm' hsized'
  dsimp only at hheld
  subst hheld
  refine .ite (fun _ => .throw nofun) fun _ => ?_
  exact .stuck_bind (parseMember_stuck h hsized hstuck _ _)

theorem drgnEnumTypeFromDwarf_stuck_definition {die e : DieKey} {name : String}
    {bias : UInt64} (lang : Option Language)
    (htag : dwarfTag dw.die die = DwTag.enumerationType)
    (hdecl : dwarfFlag dw.die die DwAt.declaration = some true)
    (hname : (dwarfAttrIntegrate dw.die die DwAt.name).bind dwarfFormstring = some name)
    (hent : (dw.index name [dwarfTag dw.die die]).entries = [(e, bias)])
    (hfail : (dw.index name [dwarfTag dw.die die]).failed = false)
    (hstuck : Stuck I (resolve e true)) :
    Stuck I (drgnEnumTypeFromDwarf dw resolve die lang) := by
  unfold drgnEnumTypeFromDwarf
  rw [htag] at hent hfail
  refine .bind (.ofKeeps (optionalAttr_rel (.keeps h) _ _ _ _)
    fun _ _ _ hrun => (optionalAttr_eq_ok hrun).2.1) fun tag htagName => ?_
  rw [hname] at htagName
  subst htagName
  simp only [hdecl]
  exact .stuck_bind (findCompleteOfDeclaration_stuck hent hfail hstuck)

theorem drgnEnumTypeFromDwarf_stuck_compatible {die e : DieKey} (lang : Option Language)
    (hdefinition : dwarfFlag dw.die die DwAt.declaration = some false)
    (hty : dwarfType dw.die die = .ref e) (hstuck : Stuck I (resolve e true)) :
    Stuck I (drgnEnumTypeFromDwarf dw resolve die lang) := by
  unfold drgnEnumTypeFromDwarf
  refine .keeps_bind (optionalAttr_rel (.keeps h) _ _ _ _) fun tag => ?_
  simp only [hdefinition, findCompleteOfDeclaration_false]
  refine .pure_bind ?_
  simp only [Bool.false_eq_true, ↓reduceIte]
  refine .keeps_bind (parseEnumerators_rel (.keeps h) _ _ _) fun ⟨_, _⟩ =>
    .ite (fun _ => .throw nofun) fun _ => ?_
  simp only [hty]
  exact .stuck_bind (.stuck_bind (.stuck_bind hstuck))

/-- **The switch fails when the resolver fails on one call edge of the DIE** and keeps `I` on
the others: every call edge is on every way to a return. -/
theorem typeFromDwarfSwitch_stuck {die e : DieKey} (lang : Option Language) (f : Bool)
    (hedge : CallEdge dw die e) (hstuck : ∀ f, Stuck I (resolve e f))
    (hkeep : ∀ e f, CallEdge dw die e → Keeps I NotStop (resolve e f)) :
    Stuck I (typeFromDwarfSwitch dw resolve die lang f) := by
  unfold typeFromDwarfSwitch
  cases hedge with
  | child htag hattr he =>
    simp only [childTypeTags, List.mem_cons, List.mem_singleton, List.not_mem_nil,
      or_false] at htag
    rcases htag with htag | htag | htag | htag | htag | htag | htag | htag | htag <;>
      simp only [htag, DwTag.constType, DwTag.restrictType, DwTag.volatileType,
        DwTag.atomicType, DwTag.baseType, DwTag.structureType, DwTag.unionType, DwTag.classType,
        DwTag.enumerationType, DwTag.typedef, DwTag.pointerType, DwTag.arrayType,
        DwTag.subroutineType, DwTag.subprogram, Nat.reduceEqDiff, ↓reduceIte, or_false,
        or_true]
    · exact qualifiedTypeFromDwarf_stuck hattr he _ _ _ (hstuck true)
    · exact qualifiedTypeFromDwarf_stuck hattr he _ _ _ (hstuck true)
    · exact qualifiedTypeFromDwarf_stuck hattr he _ _ _ (hstuck true)
    · exact qualifiedTypeFromDwarf_stuck hattr he _ _ _ (hstuck true)
    · exact .stuck_bind (drgnTypedefTypeFromDwarf_stuck hattr he _ _ (hstuck f))
    · exact .stuck_bind (drgnPointerTypeFromDwarf_stuck hattr he _ (hstuck true))
    · refine .bind (drgnArrayTypeFromDwarf_spec h hattr he _ _ (hstuck false)) fun r hr => ?_
      subst hr
      exact .throw trivial
    · exact .stuck_bind (drgnFunctionTypeFromDwarf_stuck h hattr he _ (hstuck true))
    · exact .stuck_bind (drgnFunctionTypeFromDwarf_stuck h hattr he _ (hstuck true))
  | complexReal htag henc hty =>
    simp only [htag, DwTag.constType, DwTag.restrictType, DwTag.volatileType, DwTag.atomicType,
      DwTag.baseType, Nat.reduceEqDiff, ↓reduceIte]
    exact .stuck_bind (drgnBaseTypeFromDwarf_stuck _ henc hty (hstuck true))
  | definition htag hdecl hname hent hfail =>
    simp only [completableTags, List.mem_cons, List.mem_singleton, List.not_mem_nil,
      or_false] at htag
    rcases htag with htag | htag | htag | htag <;>
      simp only [htag, DwTag.constType, DwTag.restrictType, DwTag.volatileType,
        DwTag.atomicType, DwTag.baseType, DwTag.structureType, DwTag.unionType, DwTag.classType,
        DwTag.enumerationType, Nat.reduceEqDiff, ↓reduceIte]
    case inr.inr.inr =>
      exact .stuck_bind (drgnEnumTypeFromDwarf_stuck_definition h _ htag hdecl hname hent hfail
        (hstuck true))
    all_goals exact .stuck_bind (drgnCompoundTypeFromDwarf_stuck_definition h _ _
      (by rw [htag]; rfl) hdecl hname hent hfail (hstuck true))
  | compatible htag hdefinition hty =>
    simp only [htag, DwTag.constType, DwTag.restrictType, DwTag.volatileType, DwTag.atomicType,
      DwTag.baseType, DwTag.structureType, DwTag.unionType, DwTag.classType,
      DwTag.enumerationType, Nat.reduceEqDiff, ↓reduceIte]
    exact .stuck_bind (drgnEnumTypeFromDwarf_stuck_compatible h _ hdefinition hty (hstuck true))
  | memberType htag hdefinition hm htagm hsized =>
    simp only [compoundTags, List.mem_cons, List.mem_singleton, List.not_mem_nil,
      or_false] at htag
    rcases htag with htag | htag | htag <;>
      simp only [htag, DwTag.constType, DwTag.restrictType, DwTag.volatileType,
        DwTag.atomicType, DwTag.baseType, DwTag.structureType, DwTag.unionType, DwTag.classType,
        Nat.reduceEqDiff, ↓reduceIte] <;>
      exact .stuck_bind (drgnCompoundTypeFromDwarf_stuck_member h _ _ (by rw [htag]; rfl)
        hdefinition hm htagm hsized hstuck hkeep)

end Dispatchers

/-! ## Settled caches -/

section Settled

variable (dw : DwarfInfo)

/-- A DIE on a cycle of call edges. -/
def Cyclic (die : DieKey) : Prop := Relation.TransGen (CallEdge dw) die die

/-- **No DIE on a cycle of call edges has an entry in `dicache->map`.** -/
def Settled (s : DwarfInfoCache) : Prop := ∀ die, Cyclic dw die → s.map.search die = none

variable {dw}

theorem settled_frame : Frame (Settled dw) NotStop :=
  ⟨fun _ _ hs => hs, fun _ hf => hf.notStop⟩

/-- A DIE on a cycle has a call edge to a DIE of the same cycle. -/
theorem Cyclic.successor {die : DieKey} (h : Cyclic dw die) :
    ∃ e, CallEdge dw die e ∧ Cyclic dw e := by
  obtain ⟨e, he, hback⟩ := Relation.TransGen.head'_iff.mp h
  exact ⟨e, he, Relation.TransGen.tail' hback he⟩

@[simp] theorem searchMemo_true (s : DwarfInfoCache) (die : DieKey) :
    searchMemo s die true = s.map.search die := by
  unfold searchMemo
  split <;> simp_all

theorem searchMemo_eq_none {s : DwarfInfoCache} {die : DieKey} (f : Bool)
    (h : s.map.search die = none) : searchMemo s die f = none := by
  simp [searchMemo, h]

/-- What `dicache->map` answers after an insertion: the restricted map took the entry, or the
entry answers its key if nothing did before. -/
theorem insertMemo_map_search (s : DwarfInfoCache) (f : Bool) (die : DieKey)
    (v : DwarfTypeMapValue) (key : DieKey) :
    (insertMemo s f ⟨die, v⟩).map.search key =
      if !f && v.isIncompleteArray then s.map.search key
      else (s.map.search key).orElse fun _ => if die = key then some v else none := by
  unfold Drgn.insertMemo
  split <;> simp [DwarfTypeMap.search_insertSearched, *]

theorem insertMemo_map_search_of_ne {s : DwarfInfoCache} (f : Bool) {die key : DieKey}
    (v : DwarfTypeMapValue) (hne : die ≠ key) :
    (insertMemo s f ⟨die, v⟩).map.search key = s.map.search key := by
  rw [insertMemo_map_search]
  split <;> cases s.map.search key <;> simp [Option.orElse, hne]

theorem insertMemo_map_search_of_some {s : DwarfInfoCache} (f : Bool) (entry : DwarfTypeMapEntry)
    {key : DieKey} {w : DwarfTypeMapValue} (h : s.map.search key = some w) :
    (insertMemo s f entry).map.search key = some w :=
  DwarfTypeMap.search_of_prefix (memoExtends_insertMemo ⟨List.prefix_refl _, List.prefix_refl _⟩
    f entry).1 h

/-- Under `can_be_incomplete_array = true` the insertion goes to `dicache->map`, and answers a
key nothing answered before. -/
theorem insertMemo_true_map_search_self {s : DwarfInfoCache} {die : DieKey}
    (v : DwarfTypeMapValue) (h : s.map.search die = none) :
    (insertMemo s true ⟨die, v⟩).map.search die = some v := by
  simp [insertMemo_map_search, h, Option.orElse]

/-- Inserting the result of a DIE on no cycle keeps a cache settled. -/
theorem Settled.insertMemo {s : DwarfInfoCache} (hs : Settled dw s) {die : DieKey}
    (hdie : ¬Cyclic dw die) (f : Bool) (v : DwarfTypeMapValue) :
    Settled dw (insertMemo s f ⟨die, v⟩) := fun d hd => by
  rw [insertMemo_map_search_of_ne f v (by rintro rfl; exact hdie hd)]
  exact hs d hd

/-- A lookup that returns passed the depth guard, and either found its answer in the maps and
left the cache alone, or returned what the miss returned. -/
theorem lookupMemo_eq_ok {die : DieKey} {f : Bool} {miss : DrgnM (QualifiedType × Option Bool)}
    {s s' : DwarfInfoCache} {r : QualifiedType × Option Bool}
    (h : lookupMemo die f miss s = .ok r s') :
    s.depth < 1000 ∧
      ((∃ v, searchMemo s die f = some v ∧ r = (⟨v.type, v.qualifiers⟩, none) ∧ s' = s) ∨
        (searchMemo s die f = none ∧ miss s = .ok r s')) := by
  unfold lookupMemo at h
  split at h
  · cases h
  · refine ⟨by omega, ?_⟩
    cases hv : searchMemo s die f with
    | some v =>
      simp only [hv, EStateM.Result.ok.injEq] at h
      exact .inl ⟨v, rfl, h.1.symm, h.2.symm⟩
    | none => simp only [hv] at h; exact .inr ⟨rfl, h⟩

theorem Stuck.withDepth {α : Type} {I : DwarfInfoCache → Prop} {m : DrgnM α} (h : Stuck I m)
    (hup : ∀ s, I s → I { s with depth := s.depth + 1 })
    (hdown : ∀ s, I s → I { s with depth := s.depth - 1 }) : Stuck I (Drgn.withDepth m) := by
  intro s hs
  have hm := h _ (hup s hs)
  unfold Drgn.withDepth
  revert hm
  cases m { s with depth := s.depth + 1 } with
  | ok _ _ => exact fun hm => hm.1.elim
  | error _ s' => exact fun ⟨hf, hs'⟩ => ⟨hf, hdown s' hs'⟩

/-- The lookup misses a DIE with no entry, and its guard fails with `DRGN_ERROR_RECURSION`. -/
theorem lookupMemo_stuck {I : DwarfInfoCache → Prop} {die : DieKey} {f : Bool}
    {miss : DrgnM (QualifiedType × Option Bool)} (hnone : ∀ s, I s → searchMemo s die f = none)
    (hmiss : Stuck I miss) : Stuck I (lookupMemo die f miss) := by
  intro s hs
  unfold lookupMemo
  split
  · exact ⟨nofun, hs⟩
  · rw [hnone s hs]
    exact hmiss s hs

/-- **From a settled cache, every resolution keeps the cache settled and fails only with
another error than `DRGN_ERROR_STOP`; the resolution of a DIE on a cycle of call edges fails.** -/
theorem typeFromDwarfInternalAux_settled (n : Nat) (die : DieKey) (f : Bool) :
    Keeps (Settled dw) NotStop (typeFromDwarfInternalAux dw n die f) ∧
      (Cyclic dw die → Stuck (Settled dw) (typeFromDwarfInternalAux dw n die f)) := by
  have hup : ∀ s, Settled dw s → Settled dw { s with depth := s.depth + 1 } := fun _ hs => hs
  have hdown : ∀ s, Settled dw s → Settled dw { s with depth := s.depth - 1 } := fun _ hs => hs
  induction n generalizing die f with
  | zero =>
    refine ⟨lookupMemo_keeps (fun s hs _ => Keeps.throw trivial s hs) fun _ _ _ => nofun,
      fun hcyc => lookupMemo_stuck (fun s hs => searchMemo_eq_none f (hs die hcyc)) ?_⟩
    exact fun _ hs => ⟨trivial, hs⟩
  | succ n ih =>
    have hstuck : Cyclic dw die →
        Stuck (Settled dw) (typeFromDwarfInternalAux dw (n + 1) die f) := fun hcyc => by
      obtain ⟨e, he, hcyc'⟩ := hcyc.successor
      refine lookupMemo_stuck (fun s hs => searchMemo_eq_none f (hs die hcyc)) ?_
      unfold materialize
      exact .keeps_bind (drgnLanguageFromDie_rel (.keeps settled_frame) die) fun lang =>
        .stuck_bind (Stuck.withDepth (typeFromDwarfSwitch_stuck settled_frame lang f he
          (fun f' => (ih e f').2 hcyc') fun e' f' _ => (ih e' f').1) hup hdown)
    refine ⟨?_, hstuck⟩
    by_cases hcyc : Cyclic dw die
    · exact (hstuck hcyc).keeps
    · exact lookupMemo_keeps (fun s hs _ => materialize_keeps_of settled_frame settled_frame hup
        hdown (fun e f' _ => (ih e f').1) (fun _ _ _ _ _ _ hs' _ => hs'.insertMemo hcyc f _) s hs)
        fun _ _ _ => nofun

/-- A switch that returns one level below a settled cache was for a DIE on no cycle. -/
theorem withDepth_typeFromDwarfSwitch_acyclic {n : Nat} {die : DieKey} {lang : Option Language}
    {f : Bool} {s s' : DwarfInfoCache} {a : QualifiedType × Bool} (hs : Settled dw s)
    (hw : withDepth (typeFromDwarfSwitch dw (typeFromDwarfInternalAux dw n) die lang f) s =
      .ok a s') :
    ¬Cyclic dw die := fun hcyc => by
  obtain ⟨e, he, hcyc'⟩ := hcyc.successor
  have hend := Stuck.withDepth (typeFromDwarfSwitch_stuck settled_frame lang f he
    (fun f' => (typeFromDwarfInternalAux_settled n e f').2 hcyc')
    fun e' f' _ => (typeFromDwarfInternalAux_settled n e' f').1) (fun _ h => h) (fun _ h => h) s hs
  rw [hw] at hend
  exact hend.1.elim

/-- **Reachable caches are settled.** -/
theorem Reachable.settled {s : DwarfInfoCache} (hs : Reachable dw s) : Settled dw s :=
  hs.induction (fun _ _ h => h)
    (fun die f s hs => (typeFromDwarfInternalAux_settled (1000 - s.depth) die f).1.mono
      (fun _ _ => trivial) s hs) fun _ _ _ => rfl

/-- The caches in which `target` has no entry in `dicache->map`. -/
theorem avoids_frame (target : DieKey) :
    Frame (fun s : DwarfInfoCache => s.map.search target = none) fun _ => True :=
  ⟨fun _ _ hs => hs, fun _ _ => trivial⟩

/-- A DIE from which no path of call edges leads to `target` inserts no entry for `target`. -/
theorem typeFromDwarfInternalAux_avoids (target : DieKey) (n : Nat) (die : DieKey) (f : Bool)
    (hdie : ¬Relation.ReflTransGen (CallEdge dw) die target) :
    Keeps (fun s => s.map.search target = none) (fun _ => True)
      (typeFromDwarfInternalAux dw n die f) := by
  induction n generalizing die f with
  | zero => exact lookupMemo_keeps (fun s hs _ => Keeps.throw trivial s hs) fun _ _ _ => trivial
  | succ n ih =>
    have hne : die ≠ target := fun h => hdie (h ▸ .refl)
    exact lookupMemo_keeps (fun s hs _ => materialize_keeps_of (avoids_frame target)
      (avoids_frame target) (fun _ hs => hs) (fun _ hs => hs)
      (fun e f' he => ih e f' fun hr => hdie (.head he hr))
      (fun _ _ _ _ _ _ hs' _ => (insertMemo_map_search_of_ne f _ hne).trans hs') s hs)
      fun _ _ _ => trivial

/-- **A resolution with the flag set that returns leaves its result as the first entry of its DIE
in `dicache->map`.** From a settled cache: a DIE that is materialized is on no cycle, so nothing
on the way inserted an entry for it. -/
theorem typeFromDwarfInternalAux_true_first (n : Nat) {die : DieKey} {s s' : DwarfInfoCache}
    {r : QualifiedType × Option Bool} (hs : Settled dw s)
    (hrun : typeFromDwarfInternalAux dw n die true s = .ok r s') :
    ∃ v, s'.map.search die = some v ∧ r.1 = ⟨v.type, v.qualifiers⟩ := by
  by_cases hcyc : Cyclic dw die
  · have hend := (typeFromDwarfInternalAux_settled n die true).2 hcyc s hs
    rw [hrun] at hend
    exact hend.1.elim
  have hlookup : ∀ {miss : DrgnM (QualifiedType × Option Bool)},
      lookupMemo die true miss s = .ok r s' → (s.map.search die = none → miss s = .ok r s' →
        ∃ v, s'.map.search die = some v ∧ r.1 = ⟨v.type, v.qualifiers⟩) →
      ∃ v, s'.map.search die = some v ∧ r.1 = ⟨v.type, v.qualifiers⟩ := fun h hmiss => by
    obtain ⟨-, ⟨v, hv, rfl, rfl⟩ | ⟨hnone, hm⟩⟩ := lookupMemo_eq_ok h
    · exact ⟨v, by simpa using hv, rfl⟩
    · exact hmiss (by simpa using hnone) hm
  cases n with
  | zero => exact hlookup hrun fun _ h => nomatch h
  | succ n =>
    refine hlookup hrun fun hnone hm => ?_
    obtain ⟨lang, qt, iia, s₁, l, hw, rfl, rfl⟩ := materialize_eq_ok hm
    have hres : ∀ e f', CallEdge dw die e → Keeps (fun s => s.map.search die = none)
        (fun _ => True) (typeFromDwarfInternalAux dw n e f') := fun e f' he =>
      typeFromDwarfInternalAux_avoids die n e f' fun hr => hcyc (.head' he hr)
    have hs₁ : s₁.map.search die = none := by
      have hsw := withDepth_keeps (typeFromDwarfSwitch_keeps (avoids_frame die) die lang true hres)
        (fun _ hs => hs) (fun _ hs => hs) s hnone
      rwa [hw] at hsw
    exact ⟨_, insertMemo_true_map_search_self (s := { s₁ with failingAllocations := l }) _ hs₁, rfl⟩

end Settled

end Drgn
