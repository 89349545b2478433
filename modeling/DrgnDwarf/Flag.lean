import DrgnDwarf.Memo

/-!
# DrgnDwarf — `can_be_incomplete_array` matters only for incomplete arrays

`drgn_type_from_dwarf_internal` stores a result resolved with `can_be_incomplete_array = false`
in `dicache->map`, where later callers that set the flag find it. That is sound when, evaluated
without the maps, the two flags give the same `is_incomplete_array`, the same type when it is
false, and otherwise types that differ only in the array at the end of the DIE's typedef chain.
Only the typedef and array cases of the switch read the flag; this module proves the law by
induction on the memo-free evaluation.

* **`EndsAlike R m m'`** — from every cache the two runs fail alike, or return values related by
  `R`; either way they leave the same cache.
* **`ZeroLengthVariant t t'`** — `t'` is `t` with the incomplete array its typedefs lead to
  replaced by an array of length 0.
* **`FlagAlike`** — what the flag may change in a result: nothing when `is_incomplete_array` is
  not set, the incomplete array alone when it is.
* **`typeFromDwarfMemoFree_flag`** — the memo-free evaluation of any DIE with the flag set and
  clear ends alike up to `FlagAlike`.
-/

namespace Drgn

/-! ## Runs that end alike -/

/-- Two ends of a run alike up to `R`: the same fault, or values related by `R`, and the same
cache. -/
def ResultsAlike {α : Type} (R : α → α → Prop) :
    EStateM.Result Fault DwarfInfoCache α → EStateM.Result Fault DwarfInfoCache α → Prop
  | .ok a s, .ok a' s' => R a a' ∧ s = s'
  | .error f s, .error f' s' => f = f' ∧ s = s'
  | _, _ => False

/-- **`m` and `m'` end alike up to `R`** from every cache. -/
def EndsAlike {α : Type} (R : α → α → Prop) (m m' : DrgnM α) : Prop :=
  ∀ s, ResultsAlike R (m s) (m' s)

namespace EndsAlike

variable {α β : Type} {R : α → α → Prop} {S : β → β → Prop}

/-- A run ends alike with itself, up to any `R` that relates what it returns to itself. -/
theorem refl_of {P : α → Prop} {m : DrgnM α} (hm : Returns P m) (hP : ∀ a, P a → R a a) :
    EndsAlike R m m := fun s => by
  cases hrun : m s with
  | ok a s' => exact ⟨hP a (hm s a s' hrun), rfl⟩
  | error f s' => exact ⟨rfl, rfl⟩

theorem rfl (m : DrgnM α) : EndsAlike Eq m m :=
  refl_of (P := fun _ => True) (fun _ _ _ _ => trivial) fun _ _ => Eq.refl _

theorem pure {a a' : α} (h : R a a') : EndsAlike R (Pure.pure a) (Pure.pure a') :=
  fun _ => ⟨h, Eq.refl _⟩

theorem throw {f : Fault} : EndsAlike R (MonadExcept.throw f) (MonadExcept.throw f) :=
  fun _ => ⟨Eq.refl _, Eq.refl _⟩

theorem bind {x x' : DrgnM α} {f f' : α → DrgnM β} (hx : EndsAlike R x x')
    (hf : ∀ a a', R a a' → EndsAlike S (f a) (f' a')) : EndsAlike S (x >>= f) (x' >>= f') := by
  intro s
  have h := hx s
  show ResultsAlike S (EStateM.bind x f s) (EStateM.bind x' f' s)
  unfold EStateM.bind
  revert h
  cases x s <;> cases x' s
  · rintro ⟨hR, rfl⟩
    exact hf _ _ hR _
  · exact False.elim
  · exact False.elim
  · rintro ⟨rfl, rfl⟩
    exact ⟨Eq.refl _, Eq.refl _⟩

/-- A step that is the same on both sides. -/
theorem bind_rfl (x : DrgnM α) {f f' : α → DrgnM β} (hf : ∀ a, EndsAlike S (f a) (f' a)) :
    EndsAlike S (x >>= f) (x >>= f') :=
  .bind (rfl x) fun a _ h => h ▸ hf a

/-- The same allocation creates related types. -/
theorem createType {R : DrgnType → DrgnType → Prop} {t t' : DrgnType} (h : R t t') :
    EndsAlike R (Drgn.createType t) (Drgn.createType t') :=
  bind_rfl allocate fun ok => by
    cases ok
    · exact throw
    · exact pure h

end EndsAlike

/-! ## What the flag changes -/

/-- **`t'` is `t` with a length-0 array for its incomplete array**: the array that `t` reaches
through its typedefs is incomplete, and in `t'` it has length 0. -/
inductive ZeroLengthVariant : DrgnType → DrgnType → Prop
  | incompleteArray (elementType : DrgnType) (elementQualifiers : Qualifiers)
      (lang : Option Language) :
      ZeroLengthVariant (.incompleteArray elementType elementQualifiers lang)
        (.array elementType elementQualifiers 0 lang)
  | typedef (name : String) {t t' : DrgnType} (qualifiers : Qualifiers) (lang : Option Language) :
      ZeroLengthVariant t t' →
        ZeroLengthVariant (.typedef name t qualifiers lang) (.typedef name t' qualifiers lang)

/-- **What the flag may change in a result** of the flag set (`r`) and clear (`r'`): the same
`is_incomplete_array`; when it is set, the same qualifiers and a type that differs only in the
incomplete array; otherwise the same qualified type. -/
def FlagAlike (r r' : QualifiedType × Option Bool) : Prop :=
  r.2 = r'.2 ∧ if r.2 = some true then
    r.1.qualifiers = r'.1.qualifiers ∧ ZeroLengthVariant r.1.type r'.1.type
  else r.1 = r'.1

theorem FlagAlike.refl_of {r : QualifiedType × Option Bool} (h : r.2 ≠ some true) :
    FlagAlike r r :=
  ⟨Eq.refl _, by rw [if_neg h]⟩

/-- A typedef of related types, with what the aliased type reported. -/
theorem FlagAlike.typedef {r r' : QualifiedType × Option Bool} (h : FlagAlike r r') (name : String)
    (lang : Option Language) :
    FlagAlike (⟨.typedef name r.1.type r.1.qualifiers lang, 0⟩, r.2)
      (⟨.typedef name r'.1.type r'.1.qualifiers lang, 0⟩, r'.2) := by
  obtain ⟨hiia, h⟩ := h
  refine ⟨hiia, ?_⟩
  split
  · rw [if_pos ‹_›] at h
    rw [h.1]
    exact ⟨Eq.refl _, .typedef name _ lang h.2⟩
  · rw [if_neg ‹_›] at h
    rw [h]

/-- What the switch reports for a typedef: the aliased type's report, false when there was none. -/
theorem FlagAlike.getD {q q' : QualifiedType} {iia iia' : Option Bool}
    (h : FlagAlike (q, iia) (q', iia')) :
    FlagAlike (q, some (iia.getD false)) (q', some (iia'.getD false)) := by
  obtain ⟨hiia, h⟩ := h
  dsimp only at hiia h
  subst hiia
  refine ⟨Eq.refl _, ?_⟩
  rcases iia with _ | _ | _ <;> simpa using h

/-! ## The dispatchers that read the flag -/

section Dispatchers

variable {dw : DwarfInfo} {resolve : Resolver}

/-- The pop loop builds the same levels under both flags but the outermost when it is unbounded:
an incomplete array with the flag set, length 0 without. -/
theorem arrayTypeLoop_flag (lang : Option Language) (elementType : QualifiedType)
    (dim : ArrayDimension) (rest : List ArrayDimension) :
    EndsAlike (fun t t' =>
        FlagAlike (⟨t, 0⟩, some !((dim :: rest).getLast (List.cons_ne_nil _ _)).isComplete)
          (⟨t', 0⟩, some !((dim :: rest).getLast (List.cons_ne_nil _ _)).isComplete))
      (arrayTypeLoop lang true elementType dim rest)
      (arrayTypeLoop lang false elementType dim rest) := by
  induction rest generalizing elementType dim with
  | nil =>
    unfold arrayTypeLoop
    cases hdim : dim.isComplete
    · simp only [hdim, List.isEmpty_nil, Bool.not_true, Bool.not_false, Bool.or_false,
        Bool.or_true, Bool.false_eq_true, ↓reduceIte]
      refine .bind (.createType
        (R := fun t t' => FlagAlike (⟨t, 0⟩, some true) (⟨t', 0⟩, some true)) ⟨Eq.refl _, ?_⟩)
        fun t t' h => .pure (by simpa [hdim] using h)
      exact if_pos (Eq.refl _) ▸ ⟨Eq.refl _, .incompleteArray _ _ _⟩
    · refine .bind_rfl _ fun t => .pure (FlagAlike.refl_of ?_)
      simp [hdim]
  | cons next rest ih =>
    unfold arrayTypeLoop
    simp only [List.isEmpty_cons, Bool.not_false, Bool.true_or, ↓reduceIte]
    refine .bind_rfl _ fun t => ?_
    rw [List.getLast_cons (List.cons_ne_nil _ _)]
    exact ih ⟨t, 0⟩ next

/-- **The array case reads the flag at the outermost level only**, and reports whether that
level is unbounded whatever the flag. -/
theorem drgnArrayTypeFromDwarf_flag (die : DieKey) (lang : Option Language) :
    EndsAlike (Option.Rel fun p p' => FlagAlike (⟨p.1, 0⟩, some p.2) (⟨p'.1, 0⟩, some p'.2))
      (drgnArrayTypeFromDwarf dw resolve die lang true)
      (drgnArrayTypeFromDwarf dw resolve die lang false) := by
  unfold drgnArrayTypeFromDwarf
  refine .bind_rfl _ fun dims => ?_
  split
  · split
    · exact .throw
    · refine .bind_rfl _ fun dims => .bind_rfl _ fun ⟨elementType, _⟩ => ?_
      dsimp only
      split
      · rename_i outermost _ dim rest hrev
        have hlast : (dim :: rest).getLast (List.cons_ne_nil _ _) = outermost := by
          simp only [← hrev, List.getLast_reverse, List.head_cons]
        refine .bind (arrayTypeLoop_flag lang elementType dim rest) fun t t' h => .pure (.some ?_)
        rwa [hlast] at h
      · exact .throw
  · exact .pure .none

section Other

variable {die : DieKey} (htypedef : dwarfTag dw.die die ≠ DwTag.typedef)
  (harray : dwarfTag dw.die die ≠ DwTag.arrayType)
include htypedef harray

/-- On a DIE that is no typedef and no array, the switch does not read the flag. -/
theorem typeFromDwarfSwitch_flag_irrelevant (lang : Option Language) (f f' : Bool) :
    typeFromDwarfSwitch dw resolve die lang f = typeFromDwarfSwitch dw resolve die lang f' := by
  simp only [typeFromDwarfSwitch, htypedef, harray, ↓reduceIte]

/-- On a DIE that is no typedef and no array, the switch reports no incomplete array. -/
theorem typeFromDwarfSwitch_not_incomplete (lang : Option Language) (f : Bool) :
    Returns (fun p => p.2 = false) (typeFromDwarfSwitch dw resolve die lang f) := by
  simp only [typeFromDwarfSwitch, htypedef, harray, ↓reduceIte]
  repeat' refine .ite (fun _ => ?_) fun _ => ?_
  all_goals first | exact .bind fun _ _ _ _ => .pure (Eq.refl _) | exact .throw

end Other

variable (hres : ∀ e, EndsAlike FlagAlike (resolve e true) (resolve e false))
include hres

/-- Resolving a child passes the flag on, and does nothing else with it: without `DW_AT_type`
both flags give void and no report. -/
theorem drgnTypeFromDwarfChild_flag (die : DieKey) (lang : Option Language) (tagName : String)
    (canBeVoid : Bool) :
    EndsAlike FlagAlike (drgnTypeFromDwarfChild dw resolve die lang tagName canBeVoid true)
      (drgnTypeFromDwarfChild dw resolve die lang tagName canBeVoid false) := by
  unfold drgnTypeFromDwarfChild
  split
  · split
    · exact .refl_of (P := fun r => r.2 = none) (.bind fun _ _ _ _ => .pure (Eq.refl _))
        fun r hr => .refl_of (by rw [hr]; nofun)
    · exact .throw
  · split
    · exact .throw
    · exact hres _

/-- **The typedef case passes the flag to the aliased type** and wraps what that gives. -/
theorem drgnTypedefTypeFromDwarf_flag (die : DieKey) (lang : Option Language) :
    EndsAlike (fun r r' => FlagAlike (⟨r.1, 0⟩, r.2) (⟨r'.1, 0⟩, r'.2))
      (drgnTypedefTypeFromDwarf dw resolve die lang true)
      (drgnTypedefTypeFromDwarf dw resolve die lang false) := by
  unfold drgnTypedefTypeFromDwarf
  split
  · rename_i name _
    refine .bind (drgnTypeFromDwarfChild_flag hres _ _ _ _) ?_
    rintro ⟨_, _⟩ ⟨_, _⟩ h
    exact .bind (.createType (h.typedef name lang)) fun _ _ ht => .pure ht
  · exact .throw

/-- **The switch reads the flag in the typedef and array cases only.** -/
theorem typeFromDwarfSwitch_flag (die : DieKey) (lang : Option Language) :
    EndsAlike (fun p p' => FlagAlike (p.1, some p.2) (p'.1, some p'.2))
      (typeFromDwarfSwitch dw resolve die lang true)
      (typeFromDwarfSwitch dw resolve die lang false) := by
  by_cases htypedef : dwarfTag dw.die die = DwTag.typedef
  · simp only [typeFromDwarfSwitch, htypedef, DwTag.constType, DwTag.restrictType,
      DwTag.volatileType, DwTag.atomicType, DwTag.baseType, DwTag.structureType, DwTag.unionType,
      DwTag.classType, DwTag.enumerationType, DwTag.typedef, Nat.reduceEqDiff, ↓reduceIte]
    exact .bind (drgnTypedefTypeFromDwarf_flag hres die lang) fun ⟨_, _⟩ ⟨_, _⟩ h => .pure h.getD
  by_cases harray : dwarfTag dw.die die = DwTag.arrayType
  · simp only [typeFromDwarfSwitch, harray, DwTag.constType, DwTag.restrictType,
      DwTag.volatileType, DwTag.atomicType, DwTag.baseType, DwTag.structureType, DwTag.unionType,
      DwTag.classType, DwTag.enumerationType, DwTag.typedef, DwTag.pointerType, DwTag.arrayType,
      Nat.reduceEqDiff, ↓reduceIte]
    refine .bind (drgnArrayTypeFromDwarf_flag die lang) fun o o' h => ?_
    rcases h with ⟨h⟩ | _
    · exact .pure h
    · exact .throw
  rw [typeFromDwarfSwitch_flag_irrelevant htypedef harray lang true false]
  exact .refl_of (typeFromDwarfSwitch_not_incomplete htypedef harray lang false)
    fun p hp => .refl_of (by simp [hp])

end Dispatchers

/-! ## The memo-free evaluation -/

/-- **`can_be_incomplete_array` matters only for incomplete arrays.** Evaluated without the
maps, with any fuel, from any cache, a DIE resolved with the flag set and with it clear fails
alike, or returns the same `is_incomplete_array`, and the same qualified type unless that is
set; when it is set, the types differ only in the array at the end of the typedef chain, an
incomplete array with the flag and length 0 without. Either way both leave the same cache. -/
theorem typeFromDwarfMemoFree_flag (dw : DwarfInfo) (fuel : Nat) (die : DieKey) :
    EndsAlike FlagAlike (typeFromDwarfMemoFree dw fuel die true)
      (typeFromDwarfMemoFree dw fuel die false) := by
  induction fuel generalizing die with
  | zero => exact .throw
  | succ fuel ih =>
    exact .bind_rfl _ fun lang => .bind (typeFromDwarfSwitch_flag (fun e => ih e) die lang)
      fun ⟨_, _⟩ ⟨_, _⟩ h => .pure h

/-- The typedef `T` of an unbounded `int` array in `zeroLengthDwarf`: with the flag, a typedef of
`int []`; without, of `int [0]`; both report an incomplete array. -/
theorem zeroLength_typedef_flag :
    (∃ s', typeFromDwarfMemoFree zeroLengthDwarf 3 4 true (drgnDwarfInfoCacheCreate []) =
      .ok (⟨typedefT (.incompleteArray zeroLengthInt 0 (some .c)), 0⟩, some true) s') ∧
    (∃ s', typeFromDwarfMemoFree zeroLengthDwarf 3 4 false (drgnDwarfInfoCacheCreate []) =
      .ok (⟨typedefT (.array zeroLengthInt 0 0 (some .c)), 0⟩, some true) s') ∧
    EndsAlike FlagAlike (typeFromDwarfMemoFree zeroLengthDwarf 3 4 true)
      (typeFromDwarfMemoFree zeroLengthDwarf 3 4 false) :=
  ⟨⟨_, rfl⟩, ⟨_, rfl⟩, typeFromDwarfMemoFree_flag _ _ _⟩

end Drgn
