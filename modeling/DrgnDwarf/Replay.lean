import DrgnDwarf.Depth

/-!
# DrgnDwarf — a successful resolution does not depend on the depth

`drgn_type_from_dwarf_internal` reads `dicache->depth` in its guard only. A resolution that
returned from one depth did not come near the guard, so from the same cache at a smaller depth it
takes the same steps: it returns the same type and leaves the same maps.

* **`Replays m m'`** — every run of `m` that returns, or stops with the `DRGN_ERROR_STOP` that
  the declaration step turns into a return, is the run of `m'` from the same cache at any
  smaller depth, and leaves the counter as it found it.
* **`RunRel.replays`** — `Replays` is a relation the code respects, so each dispatcher replays
  its counterpart over a resolver that replays its own (`typeFromDwarfSwitch_rel`).
* **`typeFromDwarfInternalAux_up`** — so a resolution made one level deeper, as the tag switch
  makes it, returns the same one level up: a materialization's result can be read off its
  resolution from the caller's depth.
-/

namespace Drgn

/-- The cache `s` with its depth counter at `k`. -/
def DwarfInfoCache.atDepth (s : DwarfInfoCache) (k : Nat) : DwarfInfoCache :=
  { s with depth := k }

namespace DwarfInfoCache

variable (s : DwarfInfoCache) (k : Nat)

@[simp] theorem atDepth_depth : (s.atDepth k).depth = k := rfl
@[simp] theorem atDepth_map : (s.atDepth k).map = s.map := rfl
@[simp] theorem atDepth_cantBeIncompleteArrayMap :
    (s.atDepth k).cantBeIncompleteArrayMap = s.cantBeIncompleteArrayMap := rfl
@[simp] theorem atDepth_failingAllocations :
    (s.atDepth k).failingAllocations = s.failingAllocations := rfl

end DwarfInfoCache

/-- The end of a run, with the cache's depth counter at `k`. -/
def endAtDepth {α : Type} (k : Nat) :
    EStateM.Result Fault DwarfInfoCache α → EStateM.Result Fault DwarfInfoCache α
  | .ok a s => .ok a (s.atDepth k)
  | .error f s => .error f (s.atDepth k)

/-- The ends a replay reproduces: a return, and a `DRGN_ERROR_STOP`, which the declaration step
turns into one. -/
def Replayable {α : Type} : EStateM.Result Fault DwarfInfoCache α → Prop
  | .ok _ _ => True
  | .error (.error err) _ => err.code = .stop
  | .error _ _ => False

/-- **`m'` replays `m` from shallower caches**: a run of `m` that returns or stops leaves the
depth counter as it found it, and `m'` ends the same way from the same cache at any smaller
depth. -/
def Replays {α : Type} (m m' : DrgnM α) : Prop :=
  ∀ s k, k ≤ s.depth → Replayable (m s) →
    (finalState (m s)).depth = s.depth ∧ m' (s.atDepth k) = endAtDepth k (m s)

/-- Whether a failed run is replayable depends on its fault only. -/
theorem Replayable.error {α β : Type} {f : Fault} {s s' : DwarfInfoCache}
    (h : Replayable (.error f s : EStateM.Result Fault DwarfInfoCache α)) :
    Replayable (.error f s' : EStateM.Result Fault DwarfInfoCache β) := by
  cases f <;> exact h

namespace Replays

variable {α β : Type}

theorem pure (a : α) : Replays (Pure.pure a : DrgnM α) (Pure.pure a) :=
  fun _ _ _ _ => ⟨rfl, rfl⟩

theorem throw {f : Fault} {m' : DrgnM α}
    (h : ∀ (s : DwarfInfoCache) (k : Nat), m' (s.atDepth k) = .error f (s.atDepth k)) :
    Replays (MonadExcept.throw f : DrgnM α) m' :=
  fun s k _ _ => ⟨rfl, h s k⟩

/-- A computation that never returns nor stops is replayed by anything. -/
theorem of_not_replayable {m m' : DrgnM α} (h : ∀ s, ¬Replayable (m s)) : Replays m m' :=
  fun s _ _ hr => absurd hr (h s)

theorem bind_of {x x' : DrgnM α} {f f' : α → DrgnM β} {P : α → Prop} (hx : Replays x x')
    (hP : Returns P x) (hf : ∀ a, P a → Replays (f a) (f' a)) :
    Replays (x >>= f) (x' >>= f') := by
  intro s k hk hr
  cases hxs : x s with
  | ok a s₁ =>
    rw [bind_eq_of_ok hxs] at hr ⊢
    obtain ⟨hd, hx'⟩ := hx s k hk (by rw [hxs]; trivial)
    rw [hxs] at hd hx'
    obtain ⟨hd', hf'⟩ := hf a (hP s a s₁ hxs) s₁ k (hd ▸ hk) hr
    exact ⟨hd'.trans hd, by rw [bind_eq_of_ok hx', hf']⟩
  | error e s₁ =>
    rw [bind_eq_error hxs] at hr ⊢
    obtain ⟨hd, hx'⟩ := hx s k hk (by rw [hxs]; exact hr.error)
    rw [hxs] at hd hx'
    exact ⟨hd, bind_eq_error hx'⟩

theorem bind {x x' : DrgnM α} {f f' : α → DrgnM β} (hx : Replays x x')
    (hf : ∀ a, Replays (f a) (f' a)) : Replays (x >>= f) (x' >>= f') :=
  bind_of (P := fun _ => True) hx (fun _ _ _ _ => trivial) fun a _ => hf a

theorem allocate : Replays allocate allocate := by
  intro s k _ _
  unfold Drgn.allocate
  simp only [DwarfInfoCache.atDepth_failingAllocations]
  cases s.failingAllocations <;> exact ⟨rfl, rfl⟩

/-- A change of the maps that leaves the counter alone. -/
theorem modify {g : DwarfInfoCache → DwarfInfoCache} (hdepth : ∀ s, (g s).depth = s.depth)
    (hg : ∀ s k, g (s.atDepth k) = (g s).atDepth k) :
    Replays (MonadStateOf.modifyGet fun s => ((), g s) : DrgnM Unit)
      (MonadStateOf.modifyGet fun s => ((), g s)) :=
  fun s k _ _ => ⟨hdepth s, congrArg (EStateM.Result.ok ()) (hg s k)⟩

/-- The lookup of a definition replays its counterpart; its own `DRGN_ERROR_STOP` included. -/
theorem findComplete {dw : DwarfInfo} {resolve resolve' : Resolver}
    {tag : Nat} {name : String}
    (hres : ∀ e bias, (dw.index name [tag]).entries = [(e, bias)] →
      (dw.index name [tag]).failed = false → Replays (resolve e true) (resolve' e true)) :
    Replays (drgnDwarfInfoCacheFindComplete dw resolve tag name)
      (drgnDwarfInfoCacheFindComplete dw resolve' tag name) := by
  unfold Drgn.drgnDwarfInfoCacheFindComplete
  dsimp only
  split
  next => exact throw fun _ _ => rfl
  next e bias hentries =>
    split
    · exact throw fun _ _ => rfl
    · exact bind (bind (hres e bias hentries (Bool.eq_false_iff.mpr ‹_›)) fun _ => pure _)
        fun _ => pure _
  next => exact throw fun _ _ => rfl

/-- The declaration step replays its counterpart: `DRGN_ERROR_STOP` becomes "no definition" on
both sides. -/
theorem declaration {dw : DwarfInfo} {resolve resolve' : Resolver} {dwTag : Nat}
    {name : String}
    (hres : ∀ e bias, (dw.index name [dwTag]).entries = [(e, bias)] →
      (dw.index name [dwTag]).failed = false → Replays (resolve e true) (resolve' e true)) :
    Replays (findCompleteOfDeclaration dw resolve true dwTag (some name))
      (findCompleteOfDeclaration dw resolve' true dwTag (some name)) := by
  intro s k hk hr
  have hfind := findComplete hres s k hk
  unfold Drgn.findCompleteOfDeclaration at hr ⊢
  dsimp only at hr ⊢
  revert hr hfind
  cases drgnDwarfInfoCacheFindComplete dw resolve dwTag name s with
  | ok ty s' => intro _ hfind; obtain ⟨hd, h'⟩ := hfind trivial; simp only [h']; exact ⟨hd, rfl⟩
  | error fault s' =>
    cases fault with
    | error err =>
      by_cases hstop : err.code = .stop
      · intro _ hfind
        obtain ⟨hd, h'⟩ := hfind hstop
        simp only [h', endAtDepth, hstop, ↓reduceIte]
        exact ⟨hd, trivial⟩
      · simp only [hstop, ↓reduceIte, Replayable, imp_false, not_true_eq_false, false_imp_iff,
          imp_self]
    | _ => exact fun hr => hr.elim

end Replays

/-- **Replaying from shallower caches is a relation the code respects.** -/
def RunRel.replays : RunRel where
  Rel := Replays
  pure := .pure
  bind_of := .bind_of
  throw _ := .throw fun _ _ => rfl
  allocate := .allocate
  findComplete := .declaration

/-! ## The recursion -/

section Recursion

variable {dw : DwarfInfo} {α : Type}

theorem Replays.withDepth {m m' : DrgnM α} (h : Replays m m') :
    Replays (Drgn.withDepth m) (Drgn.withDepth m') := by
  intro s k hk hr
  have hup : ({ s.atDepth k with depth := (s.atDepth k).depth + 1 } : DwarfInfoCache) =
      DwarfInfoCache.atDepth { s with depth := s.depth + 1 } (k + 1) := rfl
  unfold Drgn.withDepth at hr ⊢
  rw [hup]
  have hm := h { s with depth := s.depth + 1 } (k + 1) (by simp only; omega)
  revert hr hm
  cases m { s with depth := s.depth + 1 } with
  | ok a s₁ =>
    intro _ hm
    obtain ⟨hd, h'⟩ := hm trivial
    rw [h']
    exact ⟨by simp only [finalState] at hd ⊢; omega, rfl⟩
  | error e s₁ =>
    intro hr hm
    obtain ⟨hd, h'⟩ := hm hr.error
    rw [h']
    exact ⟨by simp only [finalState] at hd ⊢; omega, rfl⟩

theorem searchMemo_atDepth (s : DwarfInfoCache) (k : Nat) (die : DieKey) (f : Bool) :
    searchMemo (s.atDepth k) die f = searchMemo s die f :=
  rfl

theorem insertMemo_atDepth (s : DwarfInfoCache) (k : Nat) (f : Bool) (entry : DwarfTypeMapEntry) :
    insertMemo (s.atDepth k) f entry = (insertMemo s f entry).atDepth k := by
  unfold insertMemo
  split <;> rfl

/-- The guard refuses only at depth 1000, which a replay from a smaller depth does not reach. -/
theorem Replays.lookupMemo {die : DieKey} {f : Bool}
    {miss miss' : DrgnM (QualifiedType × Option Bool)} (h : Replays miss miss') :
    Replays (Drgn.lookupMemo die f miss) (Drgn.lookupMemo die f miss') := by
  intro s k hk hr
  unfold Drgn.lookupMemo at hr ⊢
  by_cases hdeep : s.depth ≥ 1000
  · simp only [hdeep, ↓reduceIte, Replayable] at hr
    exact absurd hr nofun
  · have hshallow : ¬(s.atDepth k).depth ≥ 1000 := by
      simp only [DwarfInfoCache.atDepth_depth]; omega
    simp only [hdeep, hshallow, ↓reduceIte, searchMemo_atDepth] at hr ⊢
    cases hsearch : searchMemo s die f with
    | some v => exact ⟨rfl, rfl⟩
    | none => simp only [hsearch] at hr ⊢; exact h s k hk hr

theorem Replays.materialize {resolve resolve' : Resolver} {die : DieKey} {f : Bool}
    (hres : ∀ e f', CallEdge dw die e → Replays (resolve e f') (resolve' e f')) :
    Replays (Drgn.materialize dw resolve die f) (Drgn.materialize dw resolve' die f) := by
  unfold Drgn.materialize
  refine .bind (drgnLanguageFromDie_rel .replays die) fun lang =>
    .bind (.withDepth (typeFromDwarfSwitch_rel .replays die lang f hres)) fun ⟨qt, iia⟩ =>
      .bind .allocate fun ok => ?_
  split
  · exact .bind (.modify (fun s => insertMemo_depth s _ _)
      fun s k => insertMemo_atDepth s k _ _) fun _ => .pure _
  · exact .throw fun _ _ => rfl

/-- **With at least as much fuel, a resolution replays from shallower caches.** -/
theorem typeFromDwarfInternalAux_replays (n n' : Nat) (hn : n ≤ n') (die : DieKey) (f : Bool) :
    Replays (typeFromDwarfInternalAux dw n die f) (typeFromDwarfInternalAux dw n' die f) := by
  induction n generalizing n' die f with
  | zero =>
    cases n' <;> exact .lookupMemo (.of_not_replayable fun _ => nofun)
  | succ n ih =>
    cases n' with
    | zero => omega
    | succ n' => exact .lookupMemo (.materialize fun e f' _ => ih n' (by omega) e f')

/-- A resolution that returns one level deeper returns the same one level up, with one more
unit of fuel. -/
theorem typeFromDwarfInternalAux_up {n : Nat} {die : DieKey} {f : Bool} {s s' : DwarfInfoCache}
    {r : QualifiedType × Option Bool}
    (hrun : typeFromDwarfInternalAux dw n die f { s with depth := s.depth + 1 } = .ok r s') :
    typeFromDwarfInternalAux dw (n + 1) die f s = .ok r (s'.atDepth s.depth) := by
  have h := @typeFromDwarfInternalAux_replays dw n (n + 1) (Nat.le_succ n) die f
    { s with depth := s.depth + 1 } s.depth (Nat.le_succ _)
  rw [hrun] at h
  exact (h trivial).2

end Recursion

end Drgn
