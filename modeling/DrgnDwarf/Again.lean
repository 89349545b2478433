import DrgnDwarf.Law
import DrgnDwarf.Lookup

/-!
# DrgnDwarf — a lookup once answered is answered again

A client that looks a name up twice gets the same answer, and the second lookup costs nothing:
whatever the first one materialized under `can_be_incomplete_array = true` sits in
`dicache->map`, first for its DIE, and the maps only grow. The candidates the type finder passed
over are passed over again, since they materialize to the same types; the object finder takes
the same candidate and builds the same object from the same type.

* **`drgnTypeFromDwarfInternal_again`** — after `(D, true)` returned `qt` from a settled cache,
  every later `(D, true)` returns `qt` itself from the map and leaves the cache alone.
* **`drgnTypeFromDwarfInternal_true_memoized`** — so from every reachable cache, after any
  further calls, `dicache->map`'s entry for `D` holds that type and those qualifiers, and every
  later `(D, true)` returns them from the map.
* **`Stateless`** — a computation that reads and writes no cache: the object setters, and the
  object builders after their type is known.
* **`PassedOver.again`** — a stretch of candidates the type finder passed over is passed over
  again from every later cache.
* **`drgnDwarfTypeFind_again`**, **`drgnDwarfObjectFind_again`** — a lookup that returned from
  a reachable cache returns the same result after any further calls, and leaves the cache as it
  finds it.
* **`drgnDwarfTypeFind_not_found_again`** — and a type lookup that passed over every candidate
  ends the same way again.
-/

namespace Drgn

/-! ## Computations that touch no cache -/

/-- **`m` reads no cache and changes none**: what it returns from one cache it returns from
every cache, and it leaves the cache as it found it. -/
def Stateless {α : Type} (m : DrgnM α) : Prop :=
  ∀ s a s', m s = .ok a s' → s' = s ∧ ∀ t, m t = .ok a t

namespace Stateless

variable {α β : Type}

theorem pure (a : α) : Stateless (Pure.pure a : DrgnM α) := by
  rintro s _ _ ⟨⟩
  exact ⟨rfl, fun _ => rfl⟩

theorem throw {f : Fault} : Stateless (MonadExcept.throw f : DrgnM α) :=
  nofun

theorem bind {x : DrgnM α} {k : α → DrgnM β} (hx : Stateless x) (hk : ∀ a, Stateless (k a)) :
    Stateless (x >>= k) := by
  intro s b s' hrun
  obtain ⟨a, s₁, hxs, hks⟩ := bind_eq_ok hrun
  obtain ⟨rfl, hxt⟩ := hx s a s₁ hxs
  obtain ⟨rfl, hkt⟩ := hk a _ b s' hks
  exact ⟨rfl, fun t => by rw [bind_eq_of_ok (hxt t)]; exact hkt t⟩

/-- A step that returns again from a later cache, followed by a step that touches no cache,
returns again from that cache. -/
theorem bind_again {x : DrgnM α} {k : α → DrgnM β} (hk : ∀ a, Stateless (k a))
    {s s₁ t : DwarfInfoCache} {b : β} (hrun : (x >>= k) s = .ok b s₁)
    (hx : ∀ a, x s = .ok a s₁ → ∃ a', x t = .ok a' t ∧ k a' = k a) :
    (x >>= k) t = .ok b t := by
  obtain ⟨a, s₂, hxs, hks⟩ := bind_eq_ok hrun
  obtain ⟨rfl, hkt⟩ := hk a s₂ b s₁ hks
  obtain ⟨a', hxt, hka⟩ := hx a hxs
  rw [bind_eq_of_ok hxt, hka]
  exact hkt t

end Stateless

/-! ## Resolutions answered from the map -/

section Resolve

variable {dw : DwarfInfo}

theorem MemoExtends.trans {s t u : DwarfInfoCache} (h₁ : MemoExtends s t)
    (h₂ : MemoExtends t u) : MemoExtends s u :=
  ⟨h₁.1.trans h₂.1, h₁.2.trans h₂.2⟩

/-- A resolution with the flag set keeps a cache settled. -/
theorem drgnTypeFromDwarfInternal_settled {die : DieKey} {s s' : DwarfInfoCache}
    {r : QualifiedType × Option Bool} (hs : Settled dw s)
    (h : drgnTypeFromDwarfInternal dw die true s = .ok r s') : Settled dw s' :=
  (typeFromDwarfInternalAux_settled _ die true).1.of_ok hs h

/-- **A DIE resolved with the flag set is answered from the map with the same type.** After
`(D, true)` returned `r` from a settled cache, the request `(D, true)` made from any cache whose
maps extend the ones it left, below depth 1000, returns the type and qualifiers of `r` without
materializing, and leaves that cache as it was. -/
theorem drgnTypeFromDwarfInternal_again {die : DieKey} {s s₁ t : DwarfInfoCache}
    {r : QualifiedType × Option Bool} (hs : Settled dw s)
    (hrun : drgnTypeFromDwarfInternal dw die true s = .ok r s₁) (ht : MemoExtends s₁ t)
    (hdepth : t.depth < 1000) :
    drgnTypeFromDwarfInternal dw die true t = .ok (r.1, none) t := by
  obtain ⟨v, hv, hr⟩ := typeFromDwarfInternalAux_true_first _ hs hrun
  rw [hr]
  exact drgnTypeFromDwarfInternal_hit dw hdepth
    (by simpa using DwarfTypeMap.search_of_prefix ht.1 hv)

/-- **A DIE resolved with `can_be_incomplete_array = true` is answered from `dicache->map` ever
after.** After `(D, true)` returned `r` from a reachable cache, every cache that any further
sequence of calls leads to holds an entry for `D` in `dicache->map` whose type and qualifiers are
those of `r`, and the request `(D, true)` made there returns them without materializing, writes
nothing through `is_incomplete_array_ret`, and leaves the cache as it was. -/
theorem drgnTypeFromDwarfInternal_true_memoized {s s₁ t : DwarfInfoCache} (hs : Reachable dw s)
    {die : DieKey} {r : QualifiedType × Option Bool}
    (hrun : drgnTypeFromDwarfInternal dw die true s = .ok r s₁) (ht : Reaches dw s₁ t) :
    (∃ v, t.map.search die = some v ∧ r.1 = ⟨v.type, v.qualifiers⟩) ∧
      drgnTypeFromDwarfInternal dw die true t = .ok (r.1, none) t := by
  have htr : Reachable dw t :=
    (hs.call (.typeFromDwarfInternal die true)).reaches (CacheCall.finalState_run hrun ▸ ht)
  obtain ⟨v, hv, hr⟩ := typeFromDwarfInternalAux_true_first _ hs.settled hrun
  exact ⟨⟨v, DwarfTypeMap.search_of_prefix ht.memoExtends.1 hv, hr⟩,
    drgnTypeFromDwarfInternal_again hs.settled hrun ht.memoExtends
      (by rw [htr.depth_eq_zero]; decide)⟩

/-- In `nodeDwarf`, `struct node` resolved from a new cache is answered from the map after a
lookup of `struct node` by name. -/
theorem nodeDwarf_true_memoized :
    ∃ r s₁, Reachable nodeDwarf (drgnDwarfInfoCacheCreate []) ∧
      drgnTypeFromDwarfInternal nodeDwarf 1 true (drgnDwarfInfoCacheCreate []) = .ok r s₁ ∧
      let t := finalState ((CacheCall.typeFind .struct "node" none).run nodeDwarf s₁)
      Reaches nodeDwarf s₁ t ∧
        (∃ v, t.map.search 1 = some v ∧ r.1 = ⟨v.type, v.qualifiers⟩) ∧
        drgnTypeFromDwarfInternal nodeDwarf 1 true t = .ok (r.1, none) t := by
  obtain ⟨r, s₁, hrun⟩ : ∃ r s₁, drgnTypeFromDwarfInternal nodeDwarf 1 true
      (drgnDwarfInfoCacheCreate []) = .ok r s₁ := ⟨_, _, rfl⟩
  exact ⟨r, s₁, .create [], hrun, .call _ .refl,
    drgnTypeFromDwarfInternal_true_memoized (.create []) hrun (.call _ .refl)⟩

theorem drgnTypeFromDwarf_again {die : DieKey} {s s₁ t : DwarfInfoCache} {qt : QualifiedType}
    (hs : Settled dw s)
    (hrun : drgnTypeFromDwarf (drgnTypeFromDwarfInternal dw) die s = .ok qt s₁)
    (ht : MemoExtends s₁ t) (hdepth : t.depth < 1000) :
    drgnTypeFromDwarf (drgnTypeFromDwarfInternal dw) die t = .ok qt t := by
  obtain ⟨⟨_, _⟩, s₂, hint, hpure⟩ := bind_eq_ok hrun
  cases hpure
  rw [drgnTypeFromDwarf, bind_eq_of_ok (drgnTypeFromDwarfInternal_again hs hint ht hdepth)]
  rfl

/-- `drgn_type_from_dwarf_child` under the flag set: its type again, from the map, or void
again, read off the DIE's unit. -/
theorem drgnTypeFromDwarfChild_again {die : DieKey} {lang : Option Language} {tagName : String}
    {canBeVoid : Bool} {s s₁ t : DwarfInfoCache} {r : QualifiedType × Option Bool}
    (hs : Settled dw s)
    (hrun : drgnTypeFromDwarfChild dw (drgnTypeFromDwarfInternal dw) die lang tagName canBeVoid
      true s = .ok r s₁)
    (ht : MemoExtends s₁ t) (hdepth : t.depth < 1000) :
    drgnTypeFromDwarfChild dw (drgnTypeFromDwarfInternal dw) die lang tagName canBeVoid true t =
      .ok (r.1, none) t := by
  rcases drgnTypeFromDwarfChild_eq_ok hrun with
    ⟨attr, e, hattr, he, hres⟩ | ⟨hattr, rfl, rfl, l, rfl⟩
  · simp only [drgnTypeFromDwarfChild, hattr, he]
    exact drgnTypeFromDwarfInternal_again hs hres ht hdepth
  · have hvoid : Stateless (drgnTypeFromDwarfChild dw (drgnTypeFromDwarfInternal dw) die lang
        tagName true true) := by
      simp only [drgnTypeFromDwarfChild, hattr, ↓reduceIte]
      refine .bind ?_ fun _ => .pure _
      split
      · exact .pure _
      · unfold drgnLanguageFromDie
        split
        · exact .throw
        · exact .pure _
    exact (hvoid _ _ _ hrun).2 t

end Resolve

/-! ## The finders -/

section Finders

variable {dw : DwarfInfo}

/-- The candidate loop of the type finder, run again from a later cache, passes over the same
candidates and returns the same type. -/
theorem typeFindLoop_again {kind : TypeKind} {filename : Option String} {failed : Bool}
    (cands : List (DieKey × UInt64)) {s s₁ t : DwarfInfoCache} {qt : QualifiedType}
    (hs : Settled dw s) (hrun : typeFindLoop dw kind filename cands failed s = .ok qt s₁)
    (ht : MemoExtends s₁ t) (hdepth : t.depth < 1000) :
    typeFindLoop dw kind filename cands failed t = .ok qt t := by
  induction cands generalizing s with
  | nil => cases hrun
  | cons c rest ih =>
    obtain ⟨die, bias⟩ := c
    unfold typeFindLoop at hrun ⊢
    split at hrun
    · rw [if_pos ‹_›]
      obtain ⟨qt₁, s₂, hfind, hrun⟩ := bind_eq_ok hrun
      have hs₂ : Settled dw s₂ := by
        obtain ⟨_, s₃, hint, hpure⟩ := bind_eq_ok hfind
        cases hpure
        exact drgnTypeFromDwarfInternal_settled hs hint
      have hext : MemoExtends s₂ s₁ := by
        split at hrun
        · cases hrun
          exact ⟨List.prefix_refl _, List.prefix_refl _⟩
        · exact (typeFindLoop_keeps (fun die f u hu =>
            typeFromDwarfInternalAux_memoExtends dw s₂ (1000 - u.depth) die f u hu) kind filename
            rest failed).of_ok
            ⟨List.prefix_refl _, List.prefix_refl _⟩ hrun
      rw [bind_eq_of_ok (drgnTypeFromDwarf_again hs hfind (hext.trans ht) hdepth)]
      split at hrun
      · cases hrun
        rw [if_pos ‹_›]
        rfl
      · rw [if_neg ‹_›]
        exact ih hs₂ hrun
    · rw [if_neg ‹_›]
      exact ih hs hrun

/-- A lookup made as a call leaves the cache the lookup leaves, whether it returned or failed. -/
theorem CacheCall.finalState_typeFind (kind : TypeKind) (name : String)
    (filename : Option String) (s : DwarfInfoCache) :
    finalState ((CacheCall.typeFind kind name filename).run dw s) =
      finalState (drgnDwarfTypeFind dw kind name filename s) := by
  show finalState (EStateM.map _ _ s) = _
  unfold EStateM.map
  split <;> simp_all [finalState]

/-- A stretch the type finder passes over only lets the maps grow. -/
theorem PassedOver.memoExtends {kind : TypeKind} {filename : Option String}
    {pre : List (DieKey × UInt64)} {s s₁ : DwarfInfoCache}
    (h : PassedOver dw kind filename pre s s₁) : MemoExtends s s₁ := by
  induction h with
  | nil => exact ⟨List.prefix_refl _, List.prefix_refl _⟩
  | skip _ _ ih => exact ih
  | @other _ _ _ u _ _ _ _ hqt _ _ ih =>
    obtain ⟨_, _, hint, hpure⟩ := bind_eq_ok hqt
    cases hpure
    exact ((typeFromDwarfInternalAux_memoExtends dw u (1000 - u.depth) _ true).of_ok
      ⟨List.prefix_refl _, List.prefix_refl _⟩ hint).trans ih

/-- **A stretch passed over is passed over again.** The candidates the type finder passed over
from a settled cache, it passes over again from every cache whose maps extend the ones it left,
below depth 1000: a candidate of another file is still of another file, and one it materialized
materializes from the map to the same type, of the same other kind, without changing the cache. -/
theorem PassedOver.again {kind : TypeKind} {filename : Option String}
    {pre : List (DieKey × UInt64)} {s s₁ t : DwarfInfoCache} (hs : Settled dw s)
    (h : PassedOver dw kind filename pre s s₁) (ht : MemoExtends s₁ t)
    (hdepth : t.depth < 1000) : PassedOver dw kind filename pre t t := by
  induction h with
  | nil => exact .nil t
  | skip hmatch _ ih => exact .skip hmatch (ih hs ht)
  | @other _ _ _ _ u₁ _ _ hmatch hqt hkind hrest ih =>
    have hs₁ : Settled dw u₁ := by
      obtain ⟨_, _, hint, hpure⟩ := bind_eq_ok hqt
      cases hpure
      exact drgnTypeFromDwarfInternal_settled hs hint
    exact .other hmatch (drgnTypeFromDwarf_again hs hqt (hrest.memoExtends.trans ht) hdepth)
      hkind (ih hs₁ ht)

/-- **A type lookup once answered is answered again.** If `drgn_dwarf_type_find` returned a type
from a reachable cache, the same lookup, made after any further sequence of calls, returns the
same type and leaves the cache as it finds it: every candidate the first lookup materialized is
answered from `dicache->map` with the type it materialized to. -/
theorem drgnDwarfTypeFind_again {kind : TypeKind} {name : String} {filename : Option String}
    {s s' t : DwarfInfoCache} {qt : QualifiedType} (hs : Reachable dw s)
    (hrun : drgnDwarfTypeFind dw kind name filename s = .ok qt s') (ht : Reaches dw s' t) :
    drgnDwarfTypeFind dw kind name filename t = .ok qt t := by
  have htr : Reachable dw t :=
    (hs.call (.typeFind kind name filename)).reaches
      (by rw [CacheCall.finalState_typeFind, hrun]; exact ht)
  unfold drgnDwarfTypeFind at hrun ⊢
  cases htag : typeFindTag kind with
  | none => simp only [htag] at hrun; cases hrun
  | some tag =>
    simp only [htag] at hrun ⊢
    exact typeFindLoop_again _ (Reachable.settled hs) hrun ht.memoExtends
      (by rw [htr.depth_eq_zero]; decide)

/-- In `zeroLengthDwarf`, `union U` is found again after `p` was looked up. -/
theorem zeroLength_union_found_again :
    ∃ qt s', Reachable zeroLengthDwarf (drgnDwarfInfoCacheCreate []) ∧
      drgnDwarfTypeFind zeroLengthDwarf .union "U" none (drgnDwarfInfoCacheCreate []) =
        .ok qt s' ∧
      let t := finalState ((CacheCall.objectFind "p" none FindObject.var).run zeroLengthDwarf s')
      Reaches zeroLengthDwarf s' t ∧
        drgnDwarfTypeFind zeroLengthDwarf .union "U" none t = .ok qt t := by
  obtain ⟨qt, s', hrun⟩ : ∃ qt s', drgnDwarfTypeFind zeroLengthDwarf .union "U" none
      (drgnDwarfInfoCacheCreate []) = .ok qt s' := ⟨_, _, rfl⟩
  exact ⟨qt, s', .create [], hrun, .call _ .refl,
    drgnDwarfTypeFind_again (.create []) hrun (.call _ .refl)⟩

/-- **A type lookup that found nothing finds nothing again.** If `drgn_dwarf_type_find` passed
over every candidate from a reachable cache, rejecting each by filename or materializing it to a
type of another kind, it ended with the iterator's error or `&drgn_not_found`. The same lookup,
after any further sequence of calls, passes over every candidate again and ends the same way,
leaving the cache as it finds it. -/
theorem drgnDwarfTypeFind_not_found_again {kind : TypeKind} {name : String}
    {filename : Option String} {tag : Nat} (htag : typeFindTag kind = some tag)
    {s s' t : DwarfInfoCache} (hs : Reachable dw s)
    (hpass : PassedOver dw kind filename (dw.index name [tag]).entries s s')
    (ht : Reaches dw s' t) :
    drgnDwarfTypeFind dw kind name filename t =
      .error (.error (if (dw.index name [tag]).failed then libdwError else drgnNotFound)) t := by
  have hend : ∀ u u', PassedOver dw kind filename (dw.index name [tag]).entries u u' →
      drgnDwarfTypeFind dw kind name filename u =
        .error (.error (if (dw.index name [tag]).failed then libdwError else drgnNotFound)) u' :=
    fun u u' hu => by
      simp only [drgnDwarfTypeFind, htag]
      rw [← List.append_nil (dw.index name [tag]).entries, typeFindLoop_passedOver hu]
      rfl
  have htr : Reachable dw t := (hs.call (.typeFind kind name filename)).reaches
    (by rw [CacheCall.finalState_typeFind, hend s s' hpass]; exact ht)
  exact hend t t (hpass.again (Reachable.settled hs) ht.memoExtends
    (by rw [htr.depth_eq_zero]; decide))

/-- In `zeroLengthDwarf`, whose index files `T` under every tag, a lookup of `struct T` passes
over the typedef `T` and finds nothing, and finds nothing again after `p` was looked up. -/
theorem zeroLength_struct_T_not_found_again :
    ∃ s', typeFindTag .struct = some DwTag.structureType ∧
      Reachable zeroLengthDwarf (drgnDwarfInfoCacheCreate []) ∧
      PassedOver zeroLengthDwarf .struct none
        (zeroLengthDwarf.index "T" [DwTag.structureType]).entries (drgnDwarfInfoCacheCreate []) s' ∧
      let t := finalState ((CacheCall.objectFind "p" none FindObject.var).run zeroLengthDwarf s')
      Reaches zeroLengthDwarf s' t ∧
        drgnDwarfTypeFind zeroLengthDwarf .struct "T" none t =
          .error (.error (if (zeroLengthDwarf.index "T" [DwTag.structureType]).failed then
            libdwError else drgnNotFound)) t := by
  obtain ⟨qt, s', hqt, hkind⟩ : ∃ qt s',
      drgnTypeFromDwarf (drgnTypeFromDwarfInternal zeroLengthDwarf) 4
        (drgnDwarfInfoCacheCreate []) = .ok qt s' ∧ qt.type.kind = .typedef :=
    ⟨_, _, rfl, rfl⟩
  have htag : typeFindTag .struct = some DwTag.structureType := rfl
  have hpass : PassedOver zeroLengthDwarf .struct none
      (zeroLengthDwarf.index "T" [DwTag.structureType]).entries (drgnDwarfInfoCacheCreate []) s' :=
    .other rfl hqt (by rw [hkind]; decide) (.nil _)
  exact ⟨s', htag, .create [], hpass, .call _ .refl,
    drgnDwarfTypeFind_not_found_again htag (.create []) hpass (.call _ .refl)⟩

/-- The value setters read nothing but the object layer and the type they are given. -/
theorem objectSetValue_stateless (kind : ObjectKind) (message : String) (qt : QualifiedType)
    (value : DrgnObject) : Stateless (objectSetValue dw kind message qt value) := by
  unfold objectSetValue
  repeat' split
  all_goals first | exact .pure _ | exact .throw

theorem drgnObjectSetReference_stateless (qt : QualifiedType) (address : UInt64)
    (byteOrder : ByteOrder) : Stateless (drgnObjectSetReference dw qt address byteOrder) := by
  unfold drgnObjectSetReference
  split
  · exact .throw
  · exact .pure _

/-- `drgn_object_from_dwarf_constant` reads nothing but the DIE and the type it is given. -/
theorem drgnObjectFromDwarfConstant_stateless (die : DieKey) (qt : QualifiedType)
    (attr : DwarfAttribute) : Stateless (drgnObjectFromDwarfConstant dw die qt attr) := by
  unfold drgnObjectFromDwarfConstant
  repeat' split
  all_goals first | exact .pure _ | exact .throw

/-- A materialization followed by a step that touches no cache returns again from a later
cache: the enumerator and subprogram builders. -/
theorem typeFromDwarf_bind_again {die : DieKey} {k : QualifiedType → DrgnM DrgnObject}
    (hk : ∀ qt, Stateless (k qt)) {s s₁ t : DwarfInfoCache} {o : DrgnObject}
    (hs : Settled dw s) (hrun : (drgnTypeFromDwarf (drgnTypeFromDwarfInternal dw) die >>= k) s =
      .ok o s₁)
    (ht : MemoExtends s₁ t) (hdepth : t.depth < 1000) :
    (drgnTypeFromDwarf (drgnTypeFromDwarfInternal dw) die >>= k) t = .ok o t :=
  Stateless.bind_again hk hrun fun _ h => ⟨_, drgnTypeFromDwarf_again hs h ht hdepth, rfl⟩

theorem drgnObjectFromDwarfEnumerator_again {die : DieKey} {name : String}
    {s s₁ t : DwarfInfoCache} {o : DrgnObject} (hs : Settled dw s)
    (hrun : drgnObjectFromDwarfEnumerator dw die name s = .ok o s₁) (ht : MemoExtends s₁ t)
    (hdepth : t.depth < 1000) : drgnObjectFromDwarfEnumerator dw die name t = .ok o t := by
  refine typeFromDwarf_bind_again (fun qt => ?_) hs hrun ht hdepth
  repeat' split
  all_goals first | exact .throw | exact objectSetValue_stateless _ _ _ _

theorem drgnObjectFromDwarfSubprogram_again {die : DieKey} {bias : UInt64} {name : String}
    {s s₁ t : DwarfInfoCache} {o : DrgnObject} (hs : Settled dw s)
    (hrun : drgnObjectFromDwarfSubprogram dw die bias name s = .ok o s₁) (ht : MemoExtends s₁ t)
    (hdepth : t.depth < 1000) : drgnObjectFromDwarfSubprogram dw die bias name t = .ok o t := by
  refine typeFromDwarf_bind_again (fun qt => ?_) hs hrun ht hdepth
  repeat' split
  all_goals first | exact .throw | exact drgnObjectSetReference_stateless _ _ _

/-- The variable builder throws the child's qualifier flag away, so the child answered from the
map builds the same object. -/
theorem drgnObjectFromDwarfVariable_again {die : DieKey} {bias : UInt64} {name : String}
    {s s₁ t : DwarfInfoCache} {o : DrgnObject} (hs : Settled dw s)
    (hrun : drgnObjectFromDwarfVariable dw die bias name s = .ok o s₁) (ht : MemoExtends s₁ t)
    (hdepth : t.depth < 1000) : drgnObjectFromDwarfVariable dw die bias name t = .ok o t := by
  refine Stateless.bind_again (fun ⟨qt, _⟩ => ?_) hrun fun ⟨qt, _⟩ h =>
    ⟨(qt, none), drgnTypeFromDwarfChild_again hs h ht hdepth, rfl⟩
  dsimp only
  repeat' split
  all_goals first
    | exact .throw
    | exact drgnObjectSetReference_stateless _ _ _
    | exact drgnObjectFromDwarfConstant_stateless _ _ _

/-- The candidate loop of the object finder, run again from a later cache, takes the same
candidate and builds the same object. -/
theorem objectFindLoop_again {name : String} {filename : Option String} {failed : Bool}
    (cands : List (DieKey × UInt64)) {s s₁ t : DwarfInfoCache} {o : DrgnObject}
    (hs : Settled dw s) (hrun : objectFindLoop dw name filename cands failed s = .ok o s₁)
    (ht : MemoExtends s₁ t) (hdepth : t.depth < 1000) :
    objectFindLoop dw name filename cands failed t = .ok o t := by
  induction cands with
  | nil => cases hrun
  | cons c rest ih =>
    obtain ⟨die, bias⟩ := c
    unfold objectFindLoop at hrun ⊢
    split at hrun
    · rw [if_pos ‹_›]; exact ih hrun
    rw [if_neg ‹_›]
    split at hrun
    · rw [if_pos ‹_›]; exact drgnObjectFromDwarfEnumerator_again hs hrun ht hdepth
    rw [if_neg ‹_›]
    split at hrun
    · rw [if_pos ‹_›]; exact drgnObjectFromDwarfSubprogram_again hs hrun ht hdepth
    rw [if_neg ‹_›]
    split at hrun
    · rw [if_pos ‹_›]; exact drgnObjectFromDwarfVariable_again hs hrun ht hdepth
    · cases hrun

theorem CacheCall.finalState_objectFind {name : String} {filename : Option String} {flags : Nat}
    {s s' : DwarfInfoCache} {o : DrgnObject}
    (h : drgnDwarfObjectFind dw name filename flags s = .ok o s') :
    finalState ((CacheCall.objectFind name filename flags).run dw s) = s' := by
  show finalState (EStateM.map _ _ s) = s'
  simp [EStateM.map, h, finalState]

/-- **An object lookup once answered is answered again.** If `drgn_dwarf_object_find` returned
an object from a reachable cache, the same lookup, made after any further sequence of calls,
returns the same object and leaves the cache as it finds it: the candidates before the one it
took are still rejected by filename, and that one materializes to the same type from
`dicache->map`. -/
theorem drgnDwarfObjectFind_again {name : String} {filename : Option String} {flags : Nat}
    {s s' t : DwarfInfoCache} {o : DrgnObject} (hs : Reachable dw s)
    (hrun : drgnDwarfObjectFind dw name filename flags s = .ok o s') (ht : Reaches dw s' t) :
    drgnDwarfObjectFind dw name filename flags t = .ok o t := by
  have htr : Reachable dw t :=
    (hs.call (.objectFind name filename flags)).reaches
      (CacheCall.finalState_objectFind hrun ▸ ht)
  exact objectFindLoop_again _ (Reachable.settled hs) hrun ht.memoExtends
    (by rw [htr.depth_eq_zero]; decide)

/-- In `zeroLengthDwarf`, the variable `p` is found again after `struct S` was looked up. -/
theorem zeroLength_variable_found_again :
    ∃ o s', Reachable zeroLengthDwarf (drgnDwarfInfoCacheCreate []) ∧
      drgnDwarfObjectFind zeroLengthDwarf "p" none FindObject.var (drgnDwarfInfoCacheCreate []) =
        .ok o s' ∧
      let t := finalState ((CacheCall.typeFind .struct "S" none).run zeroLengthDwarf s')
      Reaches zeroLengthDwarf s' t ∧
        drgnDwarfObjectFind zeroLengthDwarf "p" none FindObject.var t = .ok o t := by
  obtain ⟨o, s', hrun⟩ : ∃ o s', drgnDwarfObjectFind zeroLengthDwarf "p" none FindObject.var
      (drgnDwarfInfoCacheCreate []) = .ok o s' := ⟨_, _, rfl⟩
  exact ⟨o, s', .create [], hrun, .call _ .refl,
    drgnDwarfObjectFind_again (.create []) hrun (.call _ .refl)⟩

end Finders

end Drgn
