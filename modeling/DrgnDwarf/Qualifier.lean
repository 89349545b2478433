import DrgnDwarf.Cycles

/-!
# DrgnDwarf — qualifier DIEs only add bits

The four qualifier cases of the switch in `drgn_type_from_dwarf_internal` resolve the DIE's
`DW_AT_type` with `can_be_incomplete_array = true` and add their bit to what comes back; without
`DW_AT_type` they return void with only their bit. A chain of qualifier DIEs therefore resolves to
what the DIE at its end resolves to, with the OR of the chain's bits, whichever DIEs of the chain
`dicache->map` already answers.

* **`QualifierChain`** — qualifier DIEs, each naming the next by `DW_AT_type`, down to the DIE
  the last one names, with the OR of their bits.
* **`QualifiersAdd`** — `dicache->map` answers every qualifier DIE as its switch case would from
  the answer for the DIE it names. Every resolution from a settled cache keeps it
  (`typeFromDwarfInternalAux_qualifiersAdd`), so reachable caches have it.
* **`typeFromDwarfInternalAux_qualifier`** — one qualifier: on a hit by `QualifiersAdd`, on a miss
  because the case resolves the named DIE one level deeper, which replays one level up.
* **`typeFromDwarfInternalAux_chain`** — a chain, by induction on it;
  **`qualifier_chain_adds_bits`** states the law for reachable caches, with the void case.
-/

namespace Drgn

/-! ## The qualifier cases of the switch -/

section Switch

variable {dw : DwarfInfo}

/-- The bit the switch adds for a tag: `DW_TAG_const_type`, `DW_TAG_restrict_type`,
`DW_TAG_volatile_type` and `DW_TAG_atomic_type`, in the order of its cases. -/
def qualifierOfTag (tag : Nat) : Option Qualifiers :=
  if tag = DwTag.constType then some Qualifier.const
  else if tag = DwTag.restrictType then some Qualifier.restrict
  else if tag = DwTag.volatileType then some Qualifier.volatile
  else if tag = DwTag.atomicType then some Qualifier.atomic
  else none

theorem qualifierOfTag_eq_some {tag : Nat} {q : Qualifiers} (h : qualifierOfTag tag = some q) :
    tag = DwTag.constType ∧ q = Qualifier.const ∨
      tag = DwTag.restrictType ∧ q = Qualifier.restrict ∨
      tag = DwTag.volatileType ∧ q = Qualifier.volatile ∨
      tag = DwTag.atomicType ∧ q = Qualifier.atomic := by
  unfold qualifierOfTag at h
  split_ifs at h with h1 h2 h3 h4 <;> cases h
  · exact .inl ⟨h1, rfl⟩
  · exact .inr (.inl ⟨h2, rfl⟩)
  · exact .inr (.inr (.inl ⟨h3, rfl⟩))
  · exact .inr (.inr (.inr ⟨h4, rfl⟩))

/-- The switch on a qualifier DIE is the qualifier case with the tag's bit. -/
theorem typeFromDwarfSwitch_of_qualifier {die : DieKey} {q : Qualifiers}
    (hq : qualifierOfTag (dwarfTag dw.die die) = some q) :
    ∃ tagName, ∀ resolve lang f, typeFromDwarfSwitch dw resolve die lang f =
      qualifiedTypeFromDwarf dw resolve die lang tagName q := by
  rcases qualifierOfTag_eq_some hq with ⟨htag, rfl⟩ | ⟨htag, rfl⟩ | ⟨htag, rfl⟩ | ⟨htag, rfl⟩ <;>
    exact ⟨_, fun _ _ _ => by
      simp only [typeFromDwarfSwitch, htag, DwTag.constType, DwTag.restrictType,
        DwTag.volatileType, DwTag.atomicType, Nat.reduceEqDiff, ↓reduceIte]
      rfl⟩

/-- **A qualifier case that returns** resolved the DIE its `DW_AT_type` names with the flag set,
from the cache it was given, and added its bit; without `DW_AT_type` it returned void with only
its bit. Either way it reports no incomplete array. -/
theorem qualifiedTypeFromDwarf_eq_ok {resolve : Resolver} {die : DieKey}
    {lang : Option Language} {tagName : String} {q : Qualifiers} {s s' : DwarfInfoCache}
    {r : QualifiedType × Bool}
    (h : qualifiedTypeFromDwarf dw resolve die lang tagName q s = .ok r s') :
    r.2 = false ∧
      ((∃ e re, dwarfType dw.die die = .ref e ∧ resolve e true s = .ok re s' ∧
          r.1 = ⟨re.1.type, re.1.qualifiers ||| q⟩) ∨
        (dwarfType dw.die die = .absent ∧ ∃ l, r.1 = ⟨drgnVoidType l, q⟩)) := by
  unfold qualifiedTypeFromDwarf at h
  obtain ⟨⟨qt, iia⟩, s₁, hc, hp⟩ := bind_eq_ok h
  cases hp
  refine ⟨rfl, ?_⟩
  rcases drgnTypeFromDwarfChild_eq_ok hc with ⟨attr, e, hattr, he, hres⟩ | ⟨hattr, -, -, l, hr⟩
  · exact .inl ⟨e, _, by simp only [dwarfType, hattr, he], hres, rfl⟩
  · cases hr
    exact .inr ⟨by simp only [dwarfType, hattr], l, by rw [Nat.zero_or]⟩

/-- A run one level deeper that returns came back up to the depth it started from. -/
theorem withDepth_eq_ok {α : Type} {m : DrgnM α} {s s' : DwarfInfoCache} {a : α}
    (h : withDepth m s = .ok a s') :
    ∃ s₁, m { s with depth := s.depth + 1 } = .ok a s₁ ∧
      s' = { s₁ with depth := s₁.depth - 1 } := by
  unfold withDepth at h
  split at h
  · cases h
    exact ⟨_, ‹_›, rfl⟩
  · cases h

/-- A materialization of a qualifier DIE that returns is its qualifier case, one level deeper. -/
theorem materialize_qualifier_eq_ok {resolve : Resolver} {die : DieKey} {q : Qualifiers}
    {f : Bool} {s s' : DwarfInfoCache} {r : QualifiedType × Option Bool}
    (hq : qualifierOfTag (dwarfTag dw.die die) = some q)
    (hrun : materialize dw resolve die f s = .ok r s') :
    ∃ lang tagName s₁, qualifiedTypeFromDwarf dw resolve die lang tagName q
      { s with depth := s.depth + 1 } = .ok (r.1, false) s₁ := by
  obtain ⟨lang, qt, iia, s₁, l, hw, -, rfl⟩ := materialize_eq_ok hrun
  obtain ⟨tagName, hsw⟩ := typeFromDwarfSwitch_of_qualifier hq
  obtain ⟨s₂, hrun', -⟩ := withDepth_eq_ok hw
  rw [hsw] at hrun'
  obtain rfl : iia = false := (qualifiedTypeFromDwarf_eq_ok hrun').1
  exact ⟨lang, tagName, s₂, hrun'⟩

end Switch

/-! ## What `dicache->map` holds for qualifier DIEs -/

section Entries

variable (dw : DwarfInfo)

/-- **An entry `v` for a qualifier DIE with bit `q` is what its switch case returns from cache
`s`**: the entry of the DIE its `DW_AT_type` names with the bit added, or void with only the bit,
and never an incomplete array. -/
structure QualifierEntry (s : DwarfInfoCache) (die : DieKey) (q : Qualifiers)
    (v : DwarfTypeMapValue) : Prop where
  complete : v.isIncompleteArray = false
  ofRef : ∀ e, dwarfType dw.die die = .ref e →
    ∃ w, s.map.search e = some w ∧ v.type = w.type ∧ v.qualifiers = w.qualifiers ||| q
  ofAbsent : dwarfType dw.die die = .absent → v.qualifiers = q ∧ ∃ l, v.type = drgnVoidType l

/-- **`dicache->map` answers every qualifier DIE as its switch case would.** -/
def QualifiersAdd (s : DwarfInfoCache) : Prop :=
  ∀ die q v, qualifierOfTag (dwarfTag dw.die die) = some q → s.map.search die = some v →
    QualifierEntry dw s die q v

variable {dw}

/-- An entry stays what its case returns while `dicache->map` only grows. -/
theorem QualifierEntry.mono {s t : DwarfInfoCache} (h : s.map.entries <+: t.map.entries)
    {die : DieKey} {q : Qualifiers} {v : DwarfTypeMapValue} (hv : QualifierEntry dw s die q v) :
    QualifierEntry dw t die q v where
  complete := hv.complete
  ofRef e he := (hv.ofRef e he).imp fun _ ⟨hw, hty, hq⟩ =>
    ⟨DwarfTypeMap.search_of_prefix h hw, hty, hq⟩
  ofAbsent := hv.ofAbsent

theorem QualifiersAdd.of_map_eq {s t : DwarfInfoCache} (hs : QualifiersAdd dw s)
    (h : t.map = s.map) : QualifiersAdd dw t := fun die q v hq hv =>
  (hs die q v hq (h ▸ hv)).mono (h ▸ List.prefix_refl _)

/-- An insertion keeps `QualifiersAdd` when the entry is what the DIE's case returns. -/
theorem QualifiersAdd.insertMemo {s : DwarfInfoCache} (hs : QualifiersAdd dw s) (f : Bool)
    {die : DieKey} {v : DwarfTypeMapValue}
    (hnew : ∀ q, qualifierOfTag (dwarfTag dw.die die) = some q → QualifierEntry dw s die q v) :
    QualifiersAdd dw (insertMemo s f ⟨die, v⟩) := by
  have hext : s.map.entries <+: (Drgn.insertMemo s f ⟨die, v⟩).map.entries :=
    (memoExtends_insertMemo ⟨List.prefix_refl _, List.prefix_refl _⟩ f _).1
  intro d q w hq hw
  cases hd : s.map.search d with
  | some w₀ =>
    rw [insertMemo_map_search_of_some f _ hd] at hw
    cases hw
    exact (hs d q _ hq hd).mono hext
  | none =>
    rw [insertMemo_map_search, hd] at hw
    split at hw
    · cases hw
    · by_cases hdie : die = d
      · subst hdie
        simp only [Option.orElse, ↓reduceIte, Option.some.injEq] at hw
        exact hw ▸ (hnew q hq).mono hext
      · simp [Option.orElse, hdie] at hw

/-- A qualifier DIE that the maps answer is answered by an entry its case would return. -/
theorem QualifiersAdd.searchMemo {s : DwarfInfoCache} (hs : QualifiersAdd dw s) {die : DieKey}
    {q : Qualifiers} (hq : qualifierOfTag (dwarfTag dw.die die) = some q) {f : Bool}
    {v : DwarfTypeMapValue} (hv : Drgn.searchMemo s die f = some v) :
    QualifierEntry dw s die q v := by
  unfold Drgn.searchMemo at hv
  cases hd : s.map.search die with
  | none => simp [hd] at hv
  | some v₀ =>
    have hentry := hs die q v₀ hq hd
    simp only [hd, hentry.complete, Bool.and_false, Bool.false_eq_true, ↓reduceIte,
      Option.some.injEq] at hv
    exact hv ▸ hentry

/-- What the switch of a qualifier DIE returns one level below a settled cache is an entry its
case would return, read in the cache the switch leaves. -/
theorem typeFromDwarfSwitch_qualifierEntry {n : Nat} {die : DieKey} {q : Qualifiers}
    {lang : Option Language} {f : Bool} {s s' : DwarfInfoCache} {qt : QualifiedType} {iia : Bool}
    (hq : qualifierOfTag (dwarfTag dw.die die) = some q) (hs : Settled dw s)
    (hw : withDepth (typeFromDwarfSwitch dw (typeFromDwarfInternalAux dw n) die lang f) s =
      .ok (qt, iia) s') :
    QualifierEntry dw s' die q ⟨qt.type, qt.qualifiers, iia⟩ := by
  obtain ⟨tagName, hsw⟩ := typeFromDwarfSwitch_of_qualifier hq
  obtain ⟨s₁, hrun, rfl⟩ := withDepth_eq_ok hw
  rw [hsw] at hrun
  obtain ⟨hiia, ⟨e, re, he, hre, hqt⟩ | ⟨habs, hqt⟩⟩ := qualifiedTypeFromDwarf_eq_ok hrun
  · obtain ⟨w, hwe, hre1⟩ := typeFromDwarfInternalAux_true_first n
      (show Settled dw { s with depth := s.depth + 1 } from hs) hre
    cases hqt
    refine ⟨hiia, fun e' he' => ?_, fun habs => nomatch he.symm.trans habs⟩
    obtain rfl : e = e' := DwarfTypeRef.ref.inj (he.symm.trans he')
    exact ⟨w, hwe, by rw [hre1], by rw [hre1]⟩
  · obtain ⟨l, hqt⟩ := hqt
    cases hqt
    exact ⟨hiia, fun _ he => (nomatch habs.symm.trans he), fun _ => ⟨rfl, l, rfl⟩⟩

/-- Settled caches whose map answers qualifier DIEs as their cases would. -/
theorem settledQualifiers_frame :
    Frame (fun s => Settled dw s ∧ QualifiersAdd dw s) NotStop :=
  ⟨fun _ _ hs => ⟨hs.1, hs.2.of_map_eq rfl⟩, fun _ hf => hf.notStop⟩

/-- **Every resolution from a settled cache keeps `dicache->map` answering qualifier DIEs as their
cases would.** -/
theorem typeFromDwarfInternalAux_qualifiersAdd (n : Nat) (die : DieKey) (f : Bool) :
    Keeps (fun s => Settled dw s ∧ QualifiersAdd dw s) NotStop
      (typeFromDwarfInternalAux dw n die f) := by
  have hdepth : ∀ (d : Nat → Nat) (s : DwarfInfoCache), Settled dw s ∧ QualifiersAdd dw s →
      Settled dw { s with depth := d s.depth } ∧ QualifiersAdd dw { s with depth := d s.depth } :=
    fun _ _ hs => ⟨hs.1, hs.2.of_map_eq rfl⟩
  induction n generalizing die f with
  | zero => exact lookupMemo_keeps (fun s hs _ => Keeps.throw trivial s hs) fun _ _ _ => nofun
  | succ n ih =>
    refine lookupMemo_keeps (fun s hs _ => materialize_keeps_of settledQualifiers_frame
      settledQualifiers_frame (hdepth (· + 1)) (hdepth (· - 1)) (fun e f' _ => ih e f')
      (fun _ _ _ _ _ hs hs' hw => ?_) s hs) fun _ _ _ => nofun
    exact ⟨hs'.1.insertMemo (withDepth_typeFromDwarfSwitch_acyclic hs.1 hw) f _,
      hs'.2.insertMemo f fun _ hq => typeFromDwarfSwitch_qualifierEntry hq hs.1 hw⟩

/-- **Reachable caches are settled, and answer qualifier DIEs as their cases would.** -/
theorem Reachable.qualifiersAdd {s : DwarfInfoCache} (hs : Reachable dw s) :
    Settled dw s ∧ QualifiersAdd dw s :=
  hs.induction (fun _ _ h => ⟨h.1, h.2.of_map_eq rfl⟩)
    (fun die f s hs => (typeFromDwarfInternalAux_qualifiersAdd (1000 - s.depth) die f).mono
      (fun _ _ => trivial) s hs) fun _ => ⟨fun _ _ => rfl, fun _ _ _ _ h => nomatch h⟩

end Entries

/-! ## Chains of qualifiers -/

section Chains

variable {dw : DwarfInfo}

/-- Qualifier DIEs from `die` on, each naming the next by `DW_AT_type`, down to `target`, which
the last one names; `bits` is the OR of their bits. -/
inductive QualifierChain (dw : DwarfInfo) : DieKey → DieKey → Qualifiers → Prop
  /-- The last qualifier names `target`. -/
  | last {die target : DieKey} {q : Qualifiers}
      (qualifier : qualifierOfTag (dwarfTag dw.die die) = some q)
      (type : dwarfType dw.die die = .ref target) : QualifierChain dw die target q
  /-- A qualifier names the head of a chain. -/
  | cons {die next target : DieKey} {q bits : Qualifiers}
      (qualifier : qualifierOfTag (dwarfTag dw.die die) = some q)
      (type : dwarfType dw.die die = .ref next) (rest : QualifierChain dw next target bits) :
      QualifierChain dw die target (q ||| bits)

/-- **One qualifier DIE.** When resolving a qualifier DIE returns, from a cache that answers
qualifier DIEs as their cases would, the DIE its `DW_AT_type` names resolves with the flag set,
from the same cache and with the same fuel, and the qualifier's type is that DIE's type with the
bit added: a hit by `QualifiersAdd`; a miss because the case resolved the DIE one level deeper,
which replays one level up. -/
theorem typeFromDwarfInternalAux_qualifier (n : Nat) {die e : DieKey} {q : Qualifiers} {f : Bool}
    (hq : qualifierOfTag (dwarfTag dw.die die) = some q) (he : dwarfType dw.die die = .ref e)
    {s s' : DwarfInfoCache} {r : QualifiedType × Option Bool} (hs : QualifiersAdd dw s)
    (hrun : typeFromDwarfInternalAux dw n die f s = .ok r s') :
    ∃ re se, typeFromDwarfInternalAux dw n e true s = .ok re se ∧
      r.1 = ⟨re.1.type, re.1.qualifiers ||| q⟩ := by
  have hlookup : ∀ {miss : DrgnM (QualifiedType × Option Bool)},
      lookupMemo die f miss s = .ok r s' → (miss s = .ok r s' →
        ∃ re se, typeFromDwarfInternalAux dw n e true s = .ok re se ∧
          r.1 = ⟨re.1.type, re.1.qualifiers ||| q⟩) →
      ∃ re se, typeFromDwarfInternalAux dw n e true s = .ok re se ∧
        r.1 = ⟨re.1.type, re.1.qualifiers ||| q⟩ := fun h hmiss => by
    obtain ⟨hdepth, ⟨v, hv, rfl, -⟩ | ⟨-, hm⟩⟩ := lookupMemo_eq_ok h
    · obtain ⟨w, hw, hty, hqual⟩ := (hs.searchMemo hq hv).ofRef e he
      refine ⟨_, _, typeFromDwarfInternalAux_hit dw n hdepth (v := w) (by simpa using hw), ?_⟩
      simp only [hty, hqual]
    · exact hmiss hm
  cases n with
  | zero => exact hlookup hrun fun h => nomatch h
  | succ n =>
    refine hlookup hrun fun hm => ?_
    obtain ⟨lang, tagName, s₁, hcase⟩ := materialize_qualifier_eq_ok hq hm
    obtain ⟨-, ⟨e', re, he', hre, hr⟩ | ⟨habs, -⟩⟩ := qualifiedTypeFromDwarf_eq_ok hcase
    · obtain rfl : e = e' := DwarfTypeRef.ref.inj (he.symm.trans he')
      exact ⟨re, _, typeFromDwarfInternalAux_up hre, hr⟩
    · exact nomatch he.symm.trans habs

/-- **A chain of qualifiers.** When resolving the head of a chain returns, from a cache that
answers qualifier DIEs as their cases would, the DIE the chain ends in resolves with the flag set
from the same cache, and the head's type is its type with the chain's bits added. -/
theorem typeFromDwarfInternalAux_chain {die target : DieKey} {bits : Qualifiers}
    (hchain : QualifierChain dw die target bits) (n : Nat) {f : Bool} {s s' : DwarfInfoCache}
    {r : QualifiedType × Option Bool} (hs : QualifiersAdd dw s)
    (hrun : typeFromDwarfInternalAux dw n die f s = .ok r s') :
    ∃ rt st, typeFromDwarfInternalAux dw n target true s = .ok rt st ∧
      r.1 = ⟨rt.1.type, rt.1.qualifiers ||| bits⟩ := by
  induction hchain generalizing f r s' with
  | last hq he => exact typeFromDwarfInternalAux_qualifier n hq he hs hrun
  | @cons _ _ _ q bits hq he _ ih =>
    obtain ⟨re, se, hre, hr⟩ := typeFromDwarfInternalAux_qualifier n hq he hs hrun
    obtain ⟨rt, st, hrt, hre1⟩ := ih hre
    refine ⟨rt, st, hrt, ?_⟩
    rw [hr, hre1, Nat.or_assoc, Nat.or_comm bits q]

/-- A qualifier DIE without `DW_AT_type` resolves to void with only its bit. -/
theorem typeFromDwarfInternalAux_void (n : Nat) {die : DieKey} {q : Qualifiers} {f : Bool}
    (hq : qualifierOfTag (dwarfTag dw.die die) = some q) (habs : dwarfType dw.die die = .absent)
    {s s' : DwarfInfoCache} {r : QualifiedType × Option Bool} (hs : QualifiersAdd dw s)
    (hrun : typeFromDwarfInternalAux dw n die f s = .ok r s') :
    r.1.qualifiers = q ∧ ∃ l, r.1.type = drgnVoidType l := by
  have hlookup : ∀ {miss : DrgnM (QualifiedType × Option Bool)},
      lookupMemo die f miss s = .ok r s' →
      (miss s = .ok r s' → r.1.qualifiers = q ∧ ∃ l, r.1.type = drgnVoidType l) →
      r.1.qualifiers = q ∧ ∃ l, r.1.type = drgnVoidType l := fun h hmiss => by
    obtain ⟨-, ⟨v, hv, rfl, -⟩ | ⟨-, hm⟩⟩ := lookupMemo_eq_ok h
    · exact (hs.searchMemo hq hv).ofAbsent habs
    · exact hmiss hm
  cases n with
  | zero => exact hlookup hrun fun h => nomatch h
  | succ n =>
    refine hlookup hrun fun hm => ?_
    obtain ⟨lang, tagName, s₁, hcase⟩ := materialize_qualifier_eq_ok hq hm
    obtain ⟨-, ⟨e, _, he, -⟩ | ⟨-, hr⟩⟩ := qualifiedTypeFromDwarf_eq_ok hcase
    · exact nomatch habs.symm.trans he
    · obtain ⟨l, hr⟩ := hr
      exact ⟨by rw [hr], l, by rw [hr]⟩

/-- **Qualifier DIEs only add bits.** From a reachable cache: when the head of a chain of
qualifier DIEs, resolved with either flag, and the DIE the chain ends in, resolved with
`can_be_incomplete_array = true`, both return, the head's type is the end's type with the OR of
the chain's bits added, whichever DIEs of the chain the maps already answer. A qualifier DIE
without `DW_AT_type` resolves to void with only its bit. -/
theorem qualifier_chain_adds_bits {s : DwarfInfoCache} (hs : Reachable dw s) :
    (∀ {die target : DieKey} {bits : Qualifiers} {f : Bool} {r rt : QualifiedType × Option Bool}
        {s₁ s₂ : DwarfInfoCache}, QualifierChain dw die target bits →
      drgnTypeFromDwarfInternal dw die f s = .ok r s₁ →
      drgnTypeFromDwarfInternal dw target true s = .ok rt s₂ →
      r.1 = ⟨rt.1.type, rt.1.qualifiers ||| bits⟩) ∧
    (∀ {die : DieKey} {q : Qualifiers} {f : Bool} {r : QualifiedType × Option Bool}
        {s₁ : DwarfInfoCache}, qualifierOfTag (dwarfTag dw.die die) = some q →
      dwarfType dw.die die = .absent → drgnTypeFromDwarfInternal dw die f s = .ok r s₁ →
      r.1.qualifiers = q ∧ ∃ l, r.1.type = drgnVoidType l) := by
  have hadd := hs.qualifiersAdd.2
  refine ⟨fun hchain hrun htarget => ?_, fun hq habs hrun =>
    typeFromDwarfInternalAux_void _ hq habs hadd hrun⟩
  obtain ⟨rt, st, hrt, hr⟩ := typeFromDwarfInternalAux_chain hchain _ hadd hrun
  obtain ⟨rfl, -⟩ := EStateM.Result.ok.inj (hrt.symm.trans htarget)
  exact hr

/-- `const volatile int` (DIEs 1 to 3) and `const void` (DIE 4). -/
def constVolatileDie : DieKey → Die
  | 1 => { tag := DwTag.constType, attributes := [⟨DwAt.type, .ref 2⟩] }
  | 2 => { tag := DwTag.volatileType, attributes := [⟨DwAt.type, .ref 3⟩] }
  | 3 => { tag := DwTag.baseType,
           attributes := [⟨DwAt.name, .string "int"⟩, ⟨DwAt.encoding, .data 5⟩,
             ⟨DwAt.byteSize, .data 4⟩] }
  | 4 => { tag := DwTag.constType }
  | _ => { tag := 0 }

/-- The program of `constVolatileDie`, with nothing indexed. -/
def constVolatileDwarf : DwarfInfo where
  die := constVolatileDie
  index := fun _ _ => ⟨[], false⟩
  dieMatchesFilename := fun _ _ => true
  wordSize := some 8
  objectSetCommon := fun _ => .error (otherError "no object layer")

/-- The cache after `volatile int` alone was resolved. -/
def constVolatileCache : DwarfInfoCache :=
  runCalls constVolatileDwarf [.typeFromDwarfInternal 2 true] (drgnDwarfInfoCacheCreate [])

/-- The law on `const volatile int` once `volatile int` is in the map: the `const` DIE is
materialized over a hit on the `volatile` one and comes out as `int` with both bits; `const void`
is void with the `const` bit. -/
theorem constVolatileInt_adds_bits :
    (∃ r rt s₁ s₂, drgnTypeFromDwarfInternal constVolatileDwarf 1 false constVolatileCache =
        .ok r s₁ ∧ drgnTypeFromDwarfInternal constVolatileDwarf 3 true constVolatileCache =
        .ok rt s₂ ∧
      r.1 = ⟨rt.1.type, rt.1.qualifiers ||| (Qualifier.const ||| Qualifier.volatile)⟩) ∧
      ∃ r s₁, drgnTypeFromDwarfInternal constVolatileDwarf 4 false constVolatileCache = .ok r s₁ ∧
        r.1.qualifiers = Qualifier.const ∧ ∃ l, r.1.type = drgnVoidType l :=
  have hs : Reachable constVolatileDwarf constVolatileCache := (Reachable.create []).runCalls _
  have hchain : QualifierChain constVolatileDwarf 1 3 (Qualifier.const ||| Qualifier.volatile) :=
    .cons rfl rfl (.last rfl rfl)
  have hvoid : qualifierOfTag (dwarfTag constVolatileDwarf.die 4) = some Qualifier.const := rfl
  ⟨⟨_, _, _, _, rfl, rfl, (qualifier_chain_adds_bits hs).1 (f := false) hchain rfl rfl⟩,
    _, _, rfl, (qualifier_chain_adds_bits hs).2 (f := false) hvoid rfl rfl⟩

end Chains

end Drgn
