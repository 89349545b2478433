import DrgnDwarf.Depth

/-!
# DrgnDwarf — the recursion terminates: one equation, one solution

`drgn_type_from_dwarf_internal` is a recursive C function: after the depth guard and the memo
lookup it materializes the DIE, and every DIE the materialization resolves is resolved by a
nested call, one level deeper. The model computes it with fuel `1000 - depth`. This module shows
that the fuelled function is the recursion of the source and that the recursion has no other
meaning.

* **`AgreeAt d m m'`** — from every cache at depth `d`, `m'` ends as `m` does, and `m` leaves the
  counter at `d`. It is a relation the code respects (`RunRel.agreeAt`).
* **`AgreeAt.materialize`** — a materialization from depth `d` consults its resolver only at
  depth `d + 1`: two resolvers that agree there give materializations that agree at `d`.
* **`drgnTypeFromDwarfInternal_unfold`** — the model satisfies the defining equation of the
  source: guard, lookup, and a materialization whose nested calls are the model itself.
* **`drgnTypeFromDwarfInternal_unique`** — every resolver that satisfies that equation is the
  model: the measure `1000 - depth` decreases at each nesting, so the equation has one solution.
-/

namespace Drgn

/-- **`m'` agrees with `m` at depth `d`**: from every cache at depth `d` the two end the same
way, and `m` leaves the depth counter at `d` on every way out. -/
structure AgreeAt {α : Type} (d : Nat) (m m' : DrgnM α) : Prop where
  keeps : Keeps (fun s => s.depth = d) (fun _ => True) m
  eq : ∀ s, s.depth = d → m s = m' s

namespace AgreeAt

variable {α β : Type} {d : Nat}

theorem frame (d : Nat) : Frame (fun s => s.depth = d) fun _ => True :=
  depth_frame d fun _ _ => trivial

theorem pure (a : α) : AgreeAt d (Pure.pure a : DrgnM α) (Pure.pure a) :=
  ⟨.pure a, fun _ _ => rfl⟩

theorem bind_of {x x' : DrgnM α} {f f' : α → DrgnM β} {P : α → Prop} (hx : AgreeAt d x x')
    (hP : Returns P x) (hf : ∀ a, P a → AgreeAt d (f a) (f' a)) :
    AgreeAt d (x >>= f) (x' >>= f') := by
  refine ⟨.bind_of hx.keeps hP fun a ha => (hf a ha).keeps, fun s hs => ?_⟩
  have hend := hx.keeps s hs
  show EStateM.bind x f s = EStateM.bind x' f' s
  unfold EStateM.bind
  rw [← hx.eq s hs]
  cases hrun : x s with
  | ok a s₁ =>
    rw [hrun] at hend
    exact (hf a (hP s a s₁ hrun)).eq s₁ hend
  | error _ _ => rfl

theorem throw {f : Fault} : AgreeAt d (MonadExcept.throw f : DrgnM α) (MonadExcept.throw f) :=
  ⟨.throw trivial, fun _ _ => rfl⟩

theorem allocate : AgreeAt d allocate allocate :=
  ⟨(frame d).allocate_keeps, fun _ _ => rfl⟩

theorem modify {g : DwarfInfoCache → DwarfInfoCache} (hg : ∀ s, (g s).depth = s.depth) :
    AgreeAt d (MonadStateOf.modifyGet fun s => ((), g s) : DrgnM Unit)
      (MonadStateOf.modifyGet fun s => ((), g s)) :=
  ⟨.modify fun s hs => (hg s).trans hs, fun _ _ => rfl⟩

/-- The lookup of a definition agrees when the resolver agrees on the one candidate. -/
theorem declaration {dw : DwarfInfo} {resolve resolve' : Resolver} {dwTag : Nat} {name : String}
    (hres : ∀ e bias, (dw.index name [dwTag]).entries = [(e, bias)] →
      (dw.index name [dwTag]).failed = false → AgreeAt d (resolve e true) (resolve' e true)) :
    AgreeAt d (findCompleteOfDeclaration dw resolve true dwTag (some name))
      (findCompleteOfDeclaration dw resolve' true dwTag (some name)) := by
  refine ⟨findCompleteOfDeclaration_keeps (frame d) fun e bias he hf => (hres e bias he hf).keeps,
    fun s hs => ?_⟩
  have hfind : drgnDwarfInfoCacheFindComplete dw resolve dwTag name s =
      drgnDwarfInfoCacheFindComplete dw resolve' dwTag name s := by
    unfold drgnDwarfInfoCacheFindComplete drgnTypeFromDwarf
    dsimp only
    rcases hentries : (dw.index name [dwTag]).entries with _ | ⟨⟨e, bias⟩, _ | _⟩
    · rfl
    · cases hfailed : (dw.index name [dwTag]).failed
      · show EStateM.bind (EStateM.bind (resolve e true) _) _ s =
          EStateM.bind (EStateM.bind (resolve' e true) _) _ s
        simp only [EStateM.bind, (hres e bias hentries hfailed).eq s hs]
      · rfl
    · rfl
  simp only [findCompleteOfDeclaration, hfind]

end AgreeAt

/-- **Agreeing at a depth is a relation the code respects.** -/
def RunRel.agreeAt (d : Nat) : RunRel where
  Rel := AgreeAt d
  pure := .pure
  bind_of := .bind_of
  throw _ := .throw
  allocate := .allocate
  findComplete := .declaration

/-! ## The steps of the recursion -/

namespace AgreeAt

variable {dw : DwarfInfo} {α : Type} {d : Nat}

/-- `depth++` and `depth--` turn agreement one level deeper into agreement here. -/
theorem withDepth {m m' : DrgnM α} (h : AgreeAt (d + 1) m m') :
    AgreeAt d (Drgn.withDepth m) (Drgn.withDepth m') := by
  refine ⟨withDepth_keeps h.keeps (fun s hs => by simp [hs]) (fun s hs => by simp [hs]),
    fun s hs => ?_⟩
  unfold Drgn.withDepth
  rw [h.eq _ (by simp [hs])]

/-- The guard and the lookup agree when the miss path agrees below depth 1000. -/
theorem lookupMemo {die : DieKey} {f : Bool} {miss miss' : DrgnM (QualifiedType × Option Bool)}
    (h : d < 1000 → AgreeAt d miss miss') :
    AgreeAt d (Drgn.lookupMemo die f miss) (Drgn.lookupMemo die f miss') := by
  refine ⟨lookupMemo_keeps (fun s hs hd => (h (hs ▸ hd)).keeps s hs) fun _ _ _ => trivial,
    fun s hs => ?_⟩
  unfold Drgn.lookupMemo
  split
  · rfl
  · split
    · rfl
    · exact (h (by omega)).eq s hs

/-- **A materialization consults its resolver one level deeper.** -/
theorem materialize {resolve resolve' : Resolver} {die : DieKey} {f : Bool}
    (hres : ∀ e f', AgreeAt (d + 1) (resolve e f') (resolve' e f')) :
    AgreeAt d (Drgn.materialize dw resolve die f) (Drgn.materialize dw resolve' die f) := by
  unfold Drgn.materialize
  refine (RunRel.agreeAt d).bind (drgnLanguageFromDie_rel (.agreeAt d) die) fun lang =>
    (RunRel.agreeAt d).bind (.withDepth (typeFromDwarfSwitch_rel (.agreeAt (d + 1)) die lang f
      fun e f' _ => hres e f')) fun ⟨qt, iia⟩ => (RunRel.agreeAt d).bind .allocate fun ok => ?_
  split
  · exact (RunRel.agreeAt d).bind (.modify fun s => insertMemo_depth s _ _) fun _ => .pure _
  · exact .throw

end AgreeAt

/-! ## The equation and its solution -/

section Recursion

variable (dw : DwarfInfo)

/-- The model, run one level deeper, agrees with the fuel its caller hands down. -/
theorem typeFromDwarfInternalAux_agreeAt {k d : Nat} (hk : 1000 - (d + 1) = k) (e : DieKey)
    (f : Bool) :
    AgreeAt (d + 1) (typeFromDwarfInternalAux dw k e f) (drgnTypeFromDwarfInternal dw e f) :=
  ⟨typeFromDwarfInternalAux_depth dw k (d + 1) e f, fun s hs => by
    simp only [drgnTypeFromDwarfInternal, hs, hk]⟩

/-- **The model is the recursion of the source**: the depth guard, the memo lookup, and on a miss
the materialization, whose nested calls are `drgn_type_from_dwarf_internal` itself. -/
theorem drgnTypeFromDwarfInternal_unfold (die : DieKey) (f : Bool) (s : DwarfInfoCache) :
    drgnTypeFromDwarfInternal dw die f s =
      lookupMemo die f (materialize dw (drgnTypeFromDwarfInternal dw) die f) s := by
  show typeFromDwarfInternalAux dw (1000 - s.depth) die f s = _
  by_cases hdeep : 1000 ≤ s.depth
  · rw [show 1000 - s.depth = 0 by omega]
    simp only [typeFromDwarfInternalAux, lookupMemo, ge_iff_le, hdeep, ↓reduceIte]
  · obtain ⟨k, hk⟩ : ∃ k, 1000 - s.depth = k + 1 := ⟨999 - s.depth, by omega⟩
    rw [hk, typeFromDwarfInternalAux]
    exact (AgreeAt.lookupMemo fun _ => AgreeAt.materialize
      (typeFromDwarfInternalAux_agreeAt dw (by omega))).eq s rfl

/-- **The equation has one solution.** A resolver that satisfies the defining equation of
`drgn_type_from_dwarf_internal` is the model, by induction on `1000 - depth`. -/
theorem drgnTypeFromDwarfInternal_unique (resolve : Resolver)
    (hrec : ∀ die f s, resolve die f s = lookupMemo die f (materialize dw resolve die f) s)
    (die : DieKey) (f : Bool) (s : DwarfInfoCache) :
    resolve die f s = drgnTypeFromDwarfInternal dw die f s := by
  -- one level: the two agree at `d` when their materializations do
  have hstep : ∀ d die f,
      (d < 1000 → AgreeAt d (materialize dw (drgnTypeFromDwarfInternal dw) die f)
        (materialize dw resolve die f)) →
      AgreeAt d (drgnTypeFromDwarfInternal dw die f) (resolve die f) := fun d die f h =>
    ⟨fun s hs => typeFromDwarfInternalAux_depth dw _ d die f s hs, fun s hs => by
      rw [drgnTypeFromDwarfInternal_unfold, hrec]
      exact (AgreeAt.lookupMemo h).eq s hs⟩
  have hagree : ∀ n d, 1000 - d = n → ∀ die f,
      AgreeAt d (drgnTypeFromDwarfInternal dw die f) (resolve die f) := by
    intro n
    induction n with
    | zero => exact fun d hd die f => hstep d die f fun _ => by omega
    | succ n ih =>
      exact fun d hd die f => hstep d die f fun _ => .materialize (ih (d + 1) (by omega))
  exact ((hagree _ s.depth rfl die f).eq s rfl).symm

/-- **Resolution terminates and restores the depth counter.** `drgn_type_from_dwarf_internal`
has one meaning, the model: it satisfies the defining equation of the source, and every resolver
that does is the model. From every cache it returns or fails with the counter as it found it,
never for want of fuel, and a materialization at depth `d` makes its nested calls at `d + 1`. -/
theorem drgnTypeFromDwarfInternal_terminates :
    (∀ die f s, drgnTypeFromDwarfInternal dw die f s =
      lookupMemo die f (materialize dw (drgnTypeFromDwarfInternal dw) die f) s) ∧
    (∀ resolve : Resolver,
      (∀ die f s, resolve die f s = lookupMemo die f (materialize dw resolve die f) s) →
      ∀ die f s, resolve die f s = drgnTypeFromDwarfInternal dw die f s) ∧
    (∀ die f d, Keeps (fun s => s.depth = d) (· ≠ .outOfFuel)
      (drgnTypeFromDwarfInternal dw die f)) ∧
    (∀ d (resolve resolve' : Resolver) die f,
      (∀ e f', AgreeAt (d + 1) (resolve e f') (resolve' e f')) →
      AgreeAt d (materialize dw resolve die f) (materialize dw resolve' die f)) :=
  ⟨drgnTypeFromDwarfInternal_unfold dw, drgnTypeFromDwarfInternal_unique dw,
    fun die f d s hs => typeFromDwarfInternalAux_fuel dw _ d die f (by omega) s hs,
    fun _ _ _ _ _ => AgreeAt.materialize⟩

end Recursion

end Drgn
