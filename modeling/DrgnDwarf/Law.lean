import DrgnDwarf.Qualifier

/-!
# DrgnDwarf — a law of each DIE that the switch passes on holds of every cache

Many facts about `drgn_type_from_dwarf_internal` say what one DIE may materialize to: the kind
its tag names, the enumerators of its children. Each is a law `Q die t` of a DIE and a type, and
each holds of the memoized resolution as soon as the tag switch passes it on: the switch over a
resolver whose results obey `Q` returns results that obey `Q`. Through the memo maps the law
becomes an invariant of the cache, since `dicache->map` and `cant_be_incomplete_array_map` only
answer what the switch once returned for the same DIE.

* **`AgreeOn I m m'`** — `m'` ends as `m` does from every cache satisfying `I`, and `m` keeps
  `I`: a relation the code respects (`RunRel.agreeOn`). It carries a postcondition proved of a
  resolver that fails outside `I` over to the memoized one.
* **`SwitchTransfers dw Q`** — what a law has to show: the switch passes it on.
* **`MapsObey Q`** — every entry of both maps obeys the law of its DIE.
* **`drgnTypeFromDwarfInternal_obeys`** — in every reachable cache the maps obey a law the switch
  passes on, and so does every type `drgn_type_from_dwarf_internal` returns, under either flag.
-/

namespace Drgn

/-! ## Runs that agree on an invariant -/

/-- **`m'` agrees with `m` on the caches satisfying `I`**: from each of them the two end the
same way, and `m` keeps `I`. -/
structure AgreeOn {α : Type} (I : DwarfInfoCache → Prop) (m m' : DrgnM α) : Prop where
  keeps : Keeps I (fun _ => True) m
  eq : ∀ s, I s → m s = m' s

/-- The declaration step runs alike from a cache where the two resolvers run alike on the one
candidate. -/
theorem findCompleteOfDeclaration_congr {dw : DwarfInfo} {resolve resolve' : Resolver}
    {dwTag : Nat} {name : String} {s : DwarfInfoCache}
    (hres : ∀ e bias, (dw.index name [dwTag]).entries = [(e, bias)] →
      (dw.index name [dwTag]).failed = false → resolve e true s = resolve' e true s) :
    findCompleteOfDeclaration dw resolve true dwTag (some name) s =
      findCompleteOfDeclaration dw resolve' true dwTag (some name) s := by
  have hfind : drgnDwarfInfoCacheFindComplete dw resolve dwTag name s =
      drgnDwarfInfoCacheFindComplete dw resolve' dwTag name s := by
    unfold drgnDwarfInfoCacheFindComplete drgnTypeFromDwarf
    dsimp only
    rcases hentries : (dw.index name [dwTag]).entries with _ | ⟨⟨e, bias⟩, _ | _⟩
    · rfl
    · cases hfailed : (dw.index name [dwTag]).failed
      · show EStateM.bind (EStateM.bind (resolve e true) _) _ s =
          EStateM.bind (EStateM.bind (resolve' e true) _) _ s
        simp only [EStateM.bind, hres e bias hentries hfailed]
      · rfl
    · rfl
  simp only [findCompleteOfDeclaration, hfind]

namespace AgreeOn

variable {α β : Type} {I : DwarfInfoCache → Prop}

theorem pure (a : α) : AgreeOn I (Pure.pure a : DrgnM α) (Pure.pure a) :=
  ⟨.pure a, fun _ _ => rfl⟩

theorem bind_of {x x' : DrgnM α} {f f' : α → DrgnM β} {P : α → Prop} (hx : AgreeOn I x x')
    (hP : Returns P x) (hf : ∀ a, P a → AgreeOn I (f a) (f' a)) :
    AgreeOn I (x >>= f) (x' >>= f') := by
  refine ⟨.bind_of hx.keeps hP fun a ha => (hf a ha).keeps, fun s hs => ?_⟩
  have hend := hx.keeps s hs
  show EStateM.bind x f s = EStateM.bind x' f' s
  unfold EStateM.bind
  rw [← hx.eq s hs]
  cases hrun : x s with
  | ok a s₁ =>
    rw [hrun] at hend
    exact (hf a (hP s a s₁ hrun)).eq s₁ hend
  | error _ _ => rfl

theorem throw {f : Fault} : AgreeOn I (MonadExcept.throw f : DrgnM α) (MonadExcept.throw f) :=
  ⟨.throw trivial, fun _ _ => rfl⟩

variable (h : Frame I fun _ => True)
include h

theorem allocate : AgreeOn I allocate allocate :=
  ⟨h.allocate_keeps, fun _ _ => rfl⟩

theorem declaration {dw : DwarfInfo} {resolve resolve' : Resolver} {dwTag : Nat} {name : String}
    (hres : ∀ e bias, (dw.index name [dwTag]).entries = [(e, bias)] →
      (dw.index name [dwTag]).failed = false → AgreeOn I (resolve e true) (resolve' e true)) :
    AgreeOn I (findCompleteOfDeclaration dw resolve true dwTag (some name))
      (findCompleteOfDeclaration dw resolve' true dwTag (some name)) :=
  ⟨findCompleteOfDeclaration_keeps h fun e bias he hf => (hres e bias he hf).keeps,
    fun s hs => findCompleteOfDeclaration_congr fun e bias he hf => (hres e bias he hf).eq s hs⟩

end AgreeOn

/-- **Agreeing on an invariant that allocations do not disturb is a relation the code
respects.** -/
def RunRel.agreeOn {I : DwarfInfoCache → Prop} (h : Frame I fun _ => True) : RunRel where
  Rel := AgreeOn I
  pure := .pure
  bind_of := .bind_of
  throw _ := .throw
  allocate := .allocate h
  findComplete := .declaration h

/-- What a run that returned leaves behind keeps what the run keeps. -/
theorem Keeps.of_ok {α : Type} {I : DwarfInfoCache → Prop} {E : Fault → Prop} {m : DrgnM α}
    (hm : Keeps I E m) {s s' : DwarfInfoCache} {a : α} (hs : I s) (h : m s = .ok a s') :
    I s' := by
  have hend := hm s hs
  rwa [h] at hend

/-! ## Laws of one DIE -/

/-- **The tag switch passes the law `Q` on**: over every resolver whose results obey `Q` for the
DIE they resolve, each result of the switch obeys `Q` for its own DIE. -/
def SwitchTransfers (dw : DwarfInfo) (Q : DieKey → DrgnType → Prop) : Prop :=
  ∀ resolve : Resolver, (∀ e f, Returns (fun r => Q e r.1.type) (resolve e f)) →
    ∀ die lang f, Returns (fun r => Q die r.1.type) (typeFromDwarfSwitch dw resolve die lang f)

/-- **Every entry of the two maps obeys the law of its DIE.** -/
def MapsObey (Q : DieKey → DrgnType → Prop) (s : DwarfInfoCache) : Prop :=
  ∀ e ∈ s.map.entries ++ s.cantBeIncompleteArrayMap.entries, Q e.key e.value.type

/-- A dispatcher with no qualifiers of its own passes on what holds of the type it builds. -/
theorem unqualifiedTypeFromDwarf_returns {P : DrgnType → Prop} {m : DrgnM DrgnType}
    (h : Returns P m) : Returns (fun r => P r.1.type) (unqualifiedTypeFromDwarf m) :=
  .bind_of h fun _ ht => .pure ht

/-- What a search finds is an entry of the map. -/
theorem DwarfTypeMap.search_mem {m : DwarfTypeMap} {key : DieKey} {v : DwarfTypeMapValue}
    (h : m.search key = some v) : ⟨key, v⟩ ∈ m.entries := by
  unfold DwarfTypeMap.search at h
  obtain ⟨⟨k, v⟩, he, rfl⟩ := Option.map_eq_some'.mp h
  have hkey : k = key := by simpa using List.find?_some he
  exact hkey ▸ List.mem_of_find?_eq_some he

/-- An insertion adds its entry to one map and nothing else. -/
theorem mem_insertMemo_entries {s : DwarfInfoCache} {f : Bool} {entry e : DwarfTypeMapEntry}
    (he : e ∈ (insertMemo s f entry).map.entries ++
      (insertMemo s f entry).cantBeIncompleteArrayMap.entries) :
    e ∈ s.map.entries ++ s.cantBeIncompleteArrayMap.entries ∨ e = entry := by
  unfold insertMemo at he
  split at he <;>
    simp only [DwarfTypeMap.insertSearched, List.mem_append, List.mem_singleton] at he ⊢
  · rcases he with he | he | he
    exacts [.inl (.inl he), .inl (.inr he), .inr he]
  · rcases he with (he | he) | he
    exacts [.inl (.inl he), .inr he, .inl (.inr he)]

section Invariant

variable {dw : DwarfInfo} {Q : DieKey → DrgnType → Prop}

theorem mapsObey_frame : Frame (MapsObey Q) fun _ => True :=
  ⟨fun _ _ hs => hs, fun _ _ => trivial⟩

namespace MapsObey

variable {s : DwarfInfoCache} (hs : MapsObey Q s)
include hs

/-- A hit of either map obeys the law of its DIE. -/
theorem searchMemo {die : DieKey} {f : Bool} {v : DwarfTypeMapValue}
    (hv : Drgn.searchMemo s die f = some v) : Q die v.type := by
  unfold Drgn.searchMemo at hv
  split at hv
  · split at hv
    · exact hs _ (List.mem_append_right _ (DwarfTypeMap.search_mem hv))
    · cases hv
      exact hs _ (List.mem_append_left _ (DwarfTypeMap.search_mem ‹_›))
  · cases hv

/-- Inserting a type that obeys the law of its DIE keeps the maps obeying. -/
theorem insertMemo (f : Bool) {die : DieKey} {v : DwarfTypeMapValue} (hnew : Q die v.type) :
    MapsObey Q (Drgn.insertMemo s f ⟨die, v⟩) := fun e he =>
  (mem_insertMemo_entries he).elim (hs e) fun h => h ▸ hnew

end MapsObey

/-- A resolver that keeps the maps obeying `Q` and, from a cache where they do, returns a type
that obeys the law of the DIE it resolves. -/
structure ResolvesObeying (Q : DieKey → DrgnType → Prop) (resolve : Resolver) : Prop where
  keeps : ∀ die f, Keeps (MapsObey Q) (fun _ => True) (resolve die f)
  obeys : ∀ die f s, MapsObey Q s → ∀ r s', resolve die f s = .ok r s' → Q die r.1.type

/-- The guard and the lookup: a hit obeys the law, a miss is left to `miss`. -/
theorem lookupMemo_obeys {die : DieKey} {f : Bool} {miss : DrgnM (QualifiedType × Option Bool)}
    (hmiss : ∀ s, MapsObey Q s → ∀ r s', miss s = .ok r s' → Q die r.1.type) :
    ∀ s, MapsObey Q s → ∀ r s', lookupMemo die f miss s = .ok r s' → Q die r.1.type := by
  intro s hs r s' hrun
  unfold lookupMemo at hrun
  split at hrun
  · cases hrun
  · split at hrun
    · cases hrun
      exact hs.searchMemo ‹_›
    · exact hmiss s hs r s' hrun

variable (hQ : SwitchTransfers dw Q)
include hQ

/-- **The switch over a resolver that keeps the law obeys it.** The resolver is compared with
one that fails outside the caches whose maps obey the law: the switch runs the same over both
from such a cache, and over the second one the law is a postcondition of every call. -/
theorem typeFromDwarfSwitch_obeys_of {resolve : Resolver} (hr : ResolvesObeying Q resolve)
    (die : DieKey) (lang : Option Language) (f : Bool) {s s' : DwarfInfoCache}
    {r : QualifiedType × Bool} (hrun : typeFromDwarfSwitch dw resolve die lang f s = .ok r s')
    (hs : MapsObey Q s) : Q die r.1.type := by
  classical
  have hagree : ∀ e f', AgreeOn (MapsObey Q) (resolve e f')
      fun t => if MapsObey Q t then resolve e f' t else .error .unreachable t :=
    fun e f' => ⟨hr.keeps e f', fun _ ht => (if_pos ht).symm⟩
  have hret : ∀ e f', Returns (fun r => Q e r.1.type)
      fun t => if MapsObey Q t then resolve e f' t else .error .unreachable t := by
    intro e f' t r t' h
    dsimp only at h
    by_cases ht : MapsObey Q t
    · rw [if_pos ht] at h
      exact hr.obeys e f' t ht r t' h
    · rw [if_neg ht] at h
      cases h
  rw [(typeFromDwarfSwitch_rel (RunRel.agreeOn mapsObey_frame) die lang f
    fun e f' _ => hagree e f').eq s hs] at hrun
  exact hQ _ hret die lang f s r s' hrun

/-- **The memoized resolver keeps the law**, at every fuel: a miss materializes a type that
obeys it and inserts it, a hit returns an entry. -/
theorem typeFromDwarfInternalAux_resolvesObeying (n : Nat) :
    ResolvesObeying Q (typeFromDwarfInternalAux dw n) := by
  induction n with
  | zero =>
    exact ⟨fun _ _ => lookupMemo_keeps (fun s hs _ => Keeps.throw trivial s hs)
      fun _ _ _ => trivial, fun _ _ => lookupMemo_obeys fun _ _ _ _ h => nomatch h⟩
  | succ n ih =>
    have hswitch : ∀ die lang f s qt iia s', MapsObey Q s →
        withDepth (typeFromDwarfSwitch dw (typeFromDwarfInternalAux dw n) die lang f) s =
          .ok (qt, iia) s' → Q die qt.type := fun die lang f s _ _ _ hs hw => by
      obtain ⟨_, hw, -⟩ := withDepth_eq_ok hw
      exact typeFromDwarfSwitch_obeys_of hQ ih die lang f hw hs
    refine ⟨fun die f => lookupMemo_keeps (fun s hs _ => materialize_keeps_of mapsObey_frame
      mapsObey_frame (fun _ hs => hs) (fun _ hs => hs) (fun e f' _ => ih.keeps e f')
      (fun s lang qt iia s' hs hs' hw => hs'.insertMemo f (hswitch die lang f s qt iia s' hs hw))
      s hs) fun _ _ _ => trivial, fun die f => lookupMemo_obeys fun s hs r s' hrun => ?_⟩
    obtain ⟨lang, qt, iia, s₁, l, hw, -, rfl⟩ := materialize_eq_ok hrun
    exact hswitch die lang f s qt iia s₁ hs hw

/-- Reachable caches have maps that obey the law. -/
theorem Reachable.mapsObey {s : DwarfInfoCache} (hs : Reachable dw s) : MapsObey Q s :=
  hs.induction (fun _ _ h => h)
    (fun die f s hs => (typeFromDwarfInternalAux_resolvesObeying hQ _).keeps die f s hs)
    fun _ _ he => by simp [drgnDwarfInfoCacheCreate] at he

/-- **A law the switch passes on holds of every cache and of every resolution.** In every cache
reachable from `drgn_dwarf_info_cache_create`, every entry of `dicache->map` and of
`cant_be_incomplete_array_map` obeys the law of its DIE, and so does every type
`drgn_type_from_dwarf_internal` returns from that cache, under either flag. -/
theorem drgnTypeFromDwarfInternal_obeys {s : DwarfInfoCache} (hs : Reachable dw s) :
    MapsObey Q s ∧ ∀ die f r s', drgnTypeFromDwarfInternal dw die f s = .ok r s' →
      Q die r.1.type :=
  ⟨Reachable.mapsObey hQ hs, fun die f =>
    (typeFromDwarfInternalAux_resolvesObeying hQ _).obeys die f s (Reachable.mapsObey hQ hs)⟩

end Invariant

end Drgn
