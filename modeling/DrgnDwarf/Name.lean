import DrgnDwarf.Kind

/-!
# DrgnDwarf — a type lookup returns a type of the name it asked for

`drgn_dwarf_type_find` checks the kind of what it materializes but never its name: that the type
it returns is named as asked rests on the name index and on the dispatchers. Each dispatcher of a
type tag names its type after the DIE's `DW_AT_name` (the name of a base type or a typedef, the
tag of a structure, union, class or enumeration), and a declaration is completed by the
definition the index files under the same name.

* **`DrgnType.nameOrTag`** — `drgn_type_name` of a base type or a typedef, `drgn_type_tag` of a
  compound or enumeration type.
* **`NameOK`** — the law of a DIE with a type tag: its type has the DIE's `DW_AT_name`. The switch
  passes it on (`switchTransfers_name`) when the index files each DIE under its own name
  (`IndexNamed`).
* **`drgnDwarfTypeFind_name`** — so a lookup that returns, from every reachable cache, returns a
  type of the name and the kind it asked for.
-/

namespace Drgn

/-- The name of a base type or a typedef (`drgn_type_name`), the tag of a structure, union, class
or enumeration (`drgn_type_tag`). -/
def DrgnType.nameOrTag : DrgnType → Option String
  | .int name .. | .bool name .. | .float name .. | .complex name .. | .typedef name .. =>
    some name
  | .compound _ tag .. | .incompleteCompound _ tag _ | .enum tag .. | .incompleteEnum tag _ => tag
  | _ => none

/-- A DIE with a type tag materializes to a type with its `DW_AT_name`. -/
def NameOK (dw : DwarfInfo) (die : DieKey) (t : DrgnType) : Prop :=
  dwarfTag dw.die die ∈ typeIndexTags → t.nameOrTag = dwarfDiename dw.die die

/-- **The name index yields only DIEs of the name it is asked for**, for a type tag. -/
def IndexNamed (dw : DwarfInfo) : Prop :=
  ∀ name tag e bias, tag ∈ typeIndexTags → (e, bias) ∈ (dw.index name [tag]).entries →
    dwarfDiename dw.die e = some name

/-- The index of `kindDwarf` files each DIE under its own name. -/
theorem kindDwarf_indexNamed : IndexNamed kindDwarf := by
  intro name tag e bias _ h
  simp only [kindDwarf] at h
  split at h
  · obtain ⟨rfl, -⟩ := List.mem_singleton.mp h
    rw [(‹name = _ ∧ _›).1]; rfl
  split at h
  · obtain ⟨rfl, -⟩ := List.mem_singleton.mp h
    rw [(‹name = _ ∧ _›).1]; rfl
  split at h
  · obtain ⟨rfl, -⟩ := List.mem_singleton.mp h
    rw [(‹name = _ ∧ _›).1]; rfl
  · cases h

/-! ## The dispatchers name their type after the DIE -/

section Dispatchers

variable {dw : DwarfInfo} {resolve : Resolver}

/-- A base type has the DIE's name; without one the dispatcher fails. -/
theorem drgnBaseTypeFromDwarf_name (die : DieKey) (lang : Option Language) :
    Returns (·.nameOrTag = dwarfDiename dw.die die)
      (drgnBaseTypeFromDwarf dw resolve die lang) := by
  unfold drgnBaseTypeFromDwarf
  split
  case h_2 => exact .throw
  rename_i name hname
  rw [hname]
  split
  case h_2 => exact .throw
  refine .ite (fun _ => .throw) fun _ => ?_
  refine .ite (fun _ => createType_returns rfl) fun _ => ?_
  refine .ite (fun _ => createType_returns rfl) fun _ => ?_
  refine .ite (fun _ => createType_returns rfl) fun _ => ?_
  refine .ite (fun _ => createType_returns rfl) fun _ => ?_
  refine .ite (fun _ => ?_) fun _ => .throw
  split
  · exact .bind fun _ _ _ _ => .ite (fun _ => .throw) fun _ => createType_returns rfl
  all_goals exact .throw

omit resolve in
theorem drgnTypedefTypeFromDwarf_name (resolve : Resolver) (die : DieKey)
    (lang : Option Language) (f : Bool) :
    Returns (·.1.nameOrTag = dwarfDiename dw.die die)
      (drgnTypedefTypeFromDwarf dw resolve die lang f) := by
  unfold drgnTypedefTypeFromDwarf
  split
  · rename_i name hname
    rw [hname]
    exact .bind fun _ _ _ _ =>
      .bind_of (createType_returns (P := (·.nameOrTag = some name)) rfl) fun _ h => .pure h
  · exact .throw

variable (hidx : IndexTagged dw) (hnamed : IndexNamed dw)
  (hres : ∀ e f, Returns (fun r => NameOK dw e r.1.type) (resolve e f))
include hidx hnamed hres

/-- The definition of a named declaration has the declaration's name. -/
theorem findCompleteOfDeclaration_name {declaration : Bool} {dwTag : Nat} {tag : Option String}
    (hdwTag : dwTag ∈ typeIndexTags) :
    Returns (fun o => ∀ t, o = some t → t.nameOrTag = tag)
      (findCompleteOfDeclaration dw resolve declaration dwTag tag) :=
  findCompleteOfDeclaration_returns _ _ _ fun name hname =>
    drgnDwarfInfoCacheFindComplete_returns _ _ fun e bias he => (hres e true).mono fun _ hr => by
      have hmem := he ▸ List.mem_singleton_self _
      rw [hr (hidx name dwTag e bias hdwTag hmem ▸ hdwTag), hnamed name dwTag e bias hdwTag hmem,
        hname]

/-- A compound type has the DIE's `DW_AT_name` as tag: built here, or the definition the
declaration step found under that name. -/
theorem drgnCompoundTypeFromDwarf_name (die : DieKey) (lang : Option Language)
    (kind : TypeKind) :
    Returns (·.nameOrTag = dwarfDiename dw.die die)
      (drgnCompoundTypeFromDwarf dw resolve die lang kind) := by
  unfold drgnCompoundTypeFromDwarf
  refine .bind_of (Q := fun p : String × Nat => p.2 ∈ typeIndexTags)
    (by cases kind <;> first | exact .throw | exact .pure (by simp [typeIndexTags]))
    fun ⟨_, dwTag⟩ hdwTag => .bind fun tag _ _ htag => ?_
  rw [dwarfDiename, (optionalAttr_eq_ok htag).2.1]
  split
  case h_2 => exact .throw
  refine .bind_of (findCompleteOfDeclaration_name hidx hnamed hres hdwTag) fun o ho => ?_
  split
  · exact .pure (ho _ rfl)
  refine .ite (fun _ => createType_returns rfl) fun _ => ?_
  refine .ite (fun _ => .throw) fun _ => ?_
  split
  · exact .bind fun ⟨_, _⟩ _ _ _ => .ite (fun _ => .throw) fun _ =>
      .bind fun _ _ _ _ => createType_returns rfl
  · exact .throw

/-- An enumeration type has the DIE's `DW_AT_name` as tag. -/
theorem drgnEnumTypeFromDwarf_name (die : DieKey) (lang : Option Language) :
    Returns (·.nameOrTag = dwarfDiename dw.die die)
      (drgnEnumTypeFromDwarf dw resolve die lang) := by
  unfold drgnEnumTypeFromDwarf
  refine .bind fun tag _ _ htag => ?_
  rw [dwarfDiename, (optionalAttr_eq_ok htag).2.1]
  split
  case h_2 => exact .throw
  refine .bind_of (findCompleteOfDeclaration_name hidx hnamed hres (by simp [typeIndexTags]))
    fun o ho => ?_
  split
  · exact .pure (ho _ rfl)
  refine .ite (fun _ => createType_returns rfl) fun _ => ?_
  exact .bind fun ⟨_, _⟩ _ _ _ => .ite (fun _ => .throw) fun _ =>
    .bind fun _ _ _ _ => createType_returns rfl

/-- **The switch returns a type with the DIE's name** when the resolver does. -/
theorem typeFromDwarfSwitch_name (die : DieKey) (lang : Option Language) (f : Bool) :
    Returns (fun r => NameOK dw die r.1.type) (typeFromDwarfSwitch dw resolve die lang f) := by
  have hname : ∀ {α : Type} {m : DrgnM α} {get : α → DrgnType},
      Returns (fun a => (get a).nameOrTag = dwarfDiename dw.die die) m →
      Returns (fun a => NameOK dw die (get a)) m :=
    fun h => h.mono fun _ h _ => h
  have hother : ∀ {α : Type} {m : DrgnM α} {get : α → DrgnType},
      dwarfTag dw.die die ∉ typeIndexTags → Returns (fun a => NameOK dw die (get a)) m :=
    fun h _ _ _ _ hmem => absurd hmem h
  unfold typeFromDwarfSwitch
  simp only
  repeat' refine .ite (fun htag => ?_) fun htag => ?_
  iterate 4 exact hother (by rw [htag]; decide)
  · exact hname (unqualifiedTypeFromDwarf_returns (drgnBaseTypeFromDwarf_name die lang))
  iterate 3
    exact hname (unqualifiedTypeFromDwarf_returns
      (drgnCompoundTypeFromDwarf_name hidx hnamed hres die lang _))
  · exact hname (unqualifiedTypeFromDwarf_returns
      (drgnEnumTypeFromDwarf_name hidx hnamed hres die lang))
  · exact hname (.bind_of (drgnTypedefTypeFromDwarf_name resolve die lang f) fun ⟨_, _⟩ h =>
      .pure h)
  iterate 2 exact hother (by rw [htag]; decide)
  · exact hother (by rcases htag with h | h <;> rw [h] <;> decide)
  · exact .throw

end Dispatchers

/-! ## The type finder -/

section Finder

variable {dw : DwarfInfo} (hidx : IndexTagged dw) (hnamed : IndexNamed dw)
include hidx hnamed

theorem switchTransfers_name : SwitchTransfers dw (NameOK dw) :=
  fun _ hres => typeFromDwarfSwitch_name hidx hnamed hres

omit hidx hnamed in
/-- The candidates a lookup passes over leave the maps obeying every law the switch passes on. -/
theorem PassedOver.mapsObey {Q : DieKey → DrgnType → Prop} (hQ : SwitchTransfers dw Q)
    {kind : TypeKind} {filename : Option String} {pre : List (DieKey × UInt64)}
    {s s₁ : DwarfInfoCache} (h : PassedOver dw kind filename pre s s₁) (hs : MapsObey Q s) :
    MapsObey Q s₁ := by
  induction h with
  | nil => exact hs
  | skip _ _ ih => exact ih hs
  | other _ hqt _ _ ih =>
    obtain ⟨_, _, hint, hpure⟩ := bind_eq_ok hqt
    cases hpure
    exact ih ((typeFromDwarfInternalAux_resolvesObeying hQ _).keeps _ true |>.of_ok hs hint)

/-- **A type lookup returns a type of the name and the kind it asked for.** With a name index
that, asked for a type tag and a name, yields only DIEs of that tag and that `DW_AT_name`, a
`drgn_dwarf_type_find` that returns from a reachable cache returns a type named `name` (the tag
of a structure, union, class or enumeration, the name of a base type or a typedef) of kind
`kind`. The code checks the kind; the name holds because every candidate it materializes, and
every definition that completes a declaration, carries the name it was indexed under. -/
theorem drgnDwarfTypeFind_name {kind : TypeKind} {name : String} {filename : Option String}
    {s s' : DwarfInfoCache} {qt : QualifiedType} (hs : Reachable dw s)
    (hrun : drgnDwarfTypeFind dw kind name filename s = .ok qt s') :
    qt.type.nameOrTag = some name ∧ qt.type.kind = kind := by
  unfold drgnDwarfTypeFind at hrun
  cases htag : typeFindTag kind with
  | none => simp only [htag] at hrun; cases hrun
  | some tag =>
    simp only [htag] at hrun
    obtain ⟨pre, die, bias, post, s₁, hcands, hpre, -, hqt, hkind⟩ := typeFindLoop_eq_ok hrun
    have hmem : (die, bias) ∈ (dw.index name [tag]).entries := by simp [hcands]
    have htags := typeFindTag_mem htag
    have hs₁ := hpre.mapsObey (switchTransfers_name hidx hnamed)
      (Reachable.mapsObey (switchTransfers_name hidx hnamed) hs)
    obtain ⟨_, _, hint, hpure⟩ := bind_eq_ok hqt
    cases hpure
    refine ⟨?_, hkind⟩
    rw [(typeFromDwarfInternalAux_resolvesObeying (switchTransfers_name hidx hnamed) _).obeys
      die true s₁ hs₁ _ _ hint (hidx name tag die bias htags hmem ▸ htags),
      hnamed name tag die bias htags hmem]

omit hidx hnamed in
/-- The lookup of `struct S` in `kindDwarf`, from a new cache, returns a structure named `S`. -/
theorem kindDwarf_struct_named :
    ∃ qt s', IndexTagged kindDwarf ∧ IndexNamed kindDwarf ∧
      Reachable kindDwarf (drgnDwarfInfoCacheCreate []) ∧
      drgnDwarfTypeFind kindDwarf .struct "S" none (drgnDwarfInfoCacheCreate []) = .ok qt s' ∧
      (qt.type.nameOrTag = some "S" ∧ qt.type.kind = .struct) := by
  obtain ⟨qt, s', hrun⟩ : ∃ qt s', drgnDwarfTypeFind kindDwarf .struct "S" none
      (drgnDwarfInfoCacheCreate []) = .ok qt s' := ⟨_, _, rfl⟩
  exact ⟨qt, s', kindDwarf_indexTagged, kindDwarf_indexNamed, .create [], hrun,
    drgnDwarfTypeFind_name kindDwarf_indexTagged kindDwarf_indexNamed (.create []) hrun⟩

end Finder

end Drgn
