import DrgnDwarf.Effects

/-!
# DrgnDwarf — the depth counter, reachable caches, and when recursion is refused

`drgn_type_from_dwarf_internal` counts its nesting in `dicache->depth` and refuses, with
`DRGN_ERROR_RECURSION`, to go 1000 deep. Members and parameters hold thunks, so only the DIEs a
materialization resolves at once (its `CallEdge`s) nest.

* **`lookupMemo_keeps`, `withDepth_keeps`, `materialize_keeps`** — the three steps of the
  recursion as `Keeps` rules; every invariant below is assembled from them and
  `typeFromDwarfSwitch_keeps`.
* **`typeFromDwarfInternalAux_depth`** — every call, returned or failed, leaves `depth` as it
  found it.
* **`typeFromDwarfInternalAux_fuel`** — the model's fuel never runs out: with `1000 - depth` of it
  the depth guard always fires first, so `drgnTypeFromDwarfInternal` is the unbounded recursion of
  the source.
* **`Reachable`** — the caches a client can see: created by `drgn_dwarf_info_cache_create`, then
  changed by any sequence of calls, failed ones included. All of them have depth 0.
* **`drgnTypeFromDwarfInternal_no_recursion`** — when no path of eager edges has more than 1000
  DIEs, no call from a reachable cache fails with `DRGN_ERROR_RECURSION`.
-/

namespace Drgn

/-! ## The steps of the recursion -/

section Recursion

variable {dw : DwarfInfo} {I I' : DwarfInfoCache → Prop} {E : Fault → Prop}

/-- The depth guard and the memo lookup keep what the miss path keeps below depth 1000; the
guard's error happens only 1000 deep. -/
theorem lookupMemo_keeps {die : DieKey} {f : Bool} {miss : DrgnM (QualifiedType × Option Bool)}
    (hmiss : ∀ s, I s → s.depth < 1000 → EndKeeps I E (miss s))
    (hdeep : ∀ s, I s → 1000 ≤ s.depth → E (.error recursionError)) :
    Keeps I E (lookupMemo die f miss) := by
  intro s hs
  unfold lookupMemo
  split
  · exact ⟨hdeep s hs ‹_›, hs⟩
  · split
    · exact hs
    · exact hmiss s hs (by omega)

/-- `depth++`, a computation that keeps `I'`, and `depth--` keep `I` when the two steps of the
counter lead from `I` to `I'` and back. -/
theorem withDepth_keeps {α : Type} {m : DrgnM α} (hm : Keeps I' E m)
    (hup : ∀ s, I s → I' { s with depth := s.depth + 1 })
    (hdown : ∀ s, I' s → I { s with depth := s.depth - 1 }) : Keeps I E (withDepth m) := by
  intro s hs
  have hrun := hm _ (hup s hs)
  unfold withDepth
  revert hrun
  cases m { s with depth := s.depth + 1 } with
  | ok a s' => exact hdown s'
  | error e s' => exact fun ⟨he, hs'⟩ => ⟨he, hdown s' hs'⟩

theorem insertMemo_failingAllocations (s : DwarfInfoCache) (l : List Bool) (f : Bool)
    (entry : DwarfTypeMapEntry) :
    insertMemo { s with failingAllocations := l } f entry =
      { insertMemo s f entry with failingAllocations := l } := by
  unfold insertMemo
  split <;> rfl

/-- A materialization keeps `I` when the switch, one level deeper, keeps `I'`, and inserting
what the switch returned keeps `I`. -/
theorem materialize_keeps_of {resolve : Resolver} {die : DieKey} {f : Bool} (h : Frame I E)
    (h' : Frame I' E) (hup : ∀ s, I s → I' { s with depth := s.depth + 1 })
    (hdown : ∀ s, I' s → I { s with depth := s.depth - 1 })
    (hres : ∀ e f', CallEdge dw die e → Keeps I' E (resolve e f'))
    (hins : ∀ s lang qt iia s', I s → I s' →
      withDepth (typeFromDwarfSwitch dw resolve die lang f) s = .ok (qt, iia) s' →
      I (insertMemo s' f ⟨die, qt.type, qt.qualifiers, iia⟩)) :
    Keeps I E (materialize dw resolve die f) := by
  intro s hs
  have hlang : EndKeeps I E (drgnLanguageFromDie dw die s) :=
    drgnLanguageFromDie_rel (.keeps h) die s hs
  unfold materialize
  cases hl : drgnLanguageFromDie dw die s with
  | error e s₁ => rw [bind_eq_error hl]; rw [hl] at hlang; exact hlang
  | ok lang s₁ =>
    obtain rfl : s = s₁ := (drgnLanguageFromDie_eq_ok hl).symm
    rw [bind_eq_of_ok hl]
    have hsw := withDepth_keeps (typeFromDwarfSwitch_keeps h' die lang f hres) hup hdown s hs
    cases hw : withDepth (typeFromDwarfSwitch dw resolve die lang f) s with
    | error e s₂ => rw [bind_eq_error hw]; rw [hw] at hsw; exact hsw
    | ok r s₂ =>
      obtain ⟨qt, iia⟩ := r
      rw [hw] at hsw
      have hins' := hins s lang qt iia s₂ hs hsw hw
      rw [bind_eq_of_ok hw]
      dsimp only
      cases hfa : s₂.failingAllocations with
      | nil =>
        rw [bind_eq_of_ok (show allocate s₂ = .ok true s₂ by simp [allocate, hfa])]
        exact hins'
      | cons fails rest =>
        rw [bind_eq_of_ok (show allocate s₂ = .ok (!fails) { s₂ with failingAllocations := rest }
          by simp [allocate, hfa])]
        cases fails
        · show I (insertMemo { s₂ with failingAllocations := rest } f _)
          rw [insertMemo_failingAllocations]
          exact h.ignoresAllocations _ rest hins'
        · exact ⟨h.allowsLocal _ ⟨nofun, nofun⟩, h.ignoresAllocations _ rest hsw⟩

/-- A materialization keeps `I` when the switch, one level deeper, keeps `I'`, and every
insertion keeps `I`. -/
theorem materialize_keeps {resolve : Resolver} {die : DieKey} {f : Bool} (h : Frame I E)
    (h' : Frame I' E) (hup : ∀ s, I s → I' { s with depth := s.depth + 1 })
    (hdown : ∀ s, I' s → I { s with depth := s.depth - 1 })
    (hins : ∀ s entry, I s → I (insertMemo s f entry))
    (hres : ∀ e f', CallEdge dw die e → Keeps I' E (resolve e f')) :
    Keeps I E (materialize dw resolve die f) :=
  materialize_keeps_of h h' hup hdown hres fun _ _ _ _ s _ hs _ => hins s _ hs

end Recursion

/-! ## The counter is restored, and the fuel suffices -/

section Counter

variable (dw : DwarfInfo)

/-- Holding `depth` at a value is a `Frame` invariant for every set of faults that allows the
local ones. -/
theorem depth_frame {E : Fault → Prop} (d : Nat) (hE : ∀ f, LocalFault f → E f) :
    Frame (fun s => s.depth = d) E :=
  ⟨fun _ _ hs => hs, hE⟩

theorem insertMemo_depth (s : DwarfInfoCache) (f : Bool) (entry : DwarfTypeMapEntry) :
    (insertMemo s f entry).depth = s.depth := by
  unfold insertMemo
  split <;> rfl

/-- **Every call restores the counter**, on every way out. -/
theorem typeFromDwarfInternalAux_depth (fuel d : Nat) (die : DieKey) (f : Bool) :
    Keeps (fun s => s.depth = d) (fun _ => True) (typeFromDwarfInternalAux dw fuel die f) := by
  induction fuel generalizing d die f with
  | zero => exact lookupMemo_keeps (fun s hs _ => Keeps.throw trivial s hs) fun _ _ _ => trivial
  | succ fuel ih =>
    have hmiss : Keeps (fun s => s.depth = d) (fun _ => True)
        (materialize dw (typeFromDwarfInternalAux dw fuel) die f) :=
      materialize_keeps (depth_frame d fun _ _ => trivial)
      (depth_frame (d + 1) fun _ _ => trivial) (fun s hs => by simp [hs])
      (fun s hs => by simp [hs]) (fun s _ hs => (insertMemo_depth s _ _).trans hs)
      fun e f' _ => ih (d + 1) e f'
    exact lookupMemo_keeps (fun s hs _ => hmiss s hs) fun _ _ _ => trivial

/-- **The model's fuel never runs out**: with `1000 - depth` of it, the depth guard refuses a
call before the fuel is spent. -/
theorem typeFromDwarfInternalAux_fuel (fuel d : Nat) (die : DieKey) (f : Bool)
    (hfuel : 1000 ≤ fuel + d) :
    Keeps (fun s => s.depth = d) (· ≠ .outOfFuel) (typeFromDwarfInternalAux dw fuel die f) := by
  induction fuel generalizing d die f with
  | zero => exact lookupMemo_keeps (fun s hs _ => by omega) fun _ _ _ => nofun
  | succ fuel ih =>
    have hmiss : Keeps (fun s => s.depth = d) (· ≠ .outOfFuel)
        (materialize dw (typeFromDwarfInternalAux dw fuel) die f) :=
      materialize_keeps (depth_frame d fun _ => LocalFault.ne_outOfFuel)
      (depth_frame (d + 1) fun _ => LocalFault.ne_outOfFuel) (fun s hs => by simp [hs])
      (fun s hs => by simp [hs]) (fun s _ hs => (insertMemo_depth s _ _).trans hs)
      fun e f' _ => ih (d + 1) e f' (by omega)
    exact lookupMemo_keeps (fun s hs _ => hmiss s hs) fun _ _ _ => nofun

end Counter

/-! ## Reachable caches

A client holds one cache for the life of a program and calls into it: it resolves a DIE (also by
evaluating a member or parameter thunk, which is `drgn_type_from_dwarf_internal` with the flag the
thunk carries), or it looks a type or an object up by name. Whatever such a call does, returned
or failed, is kept in the cache. -/

/-- The calls a client makes on a cache. -/
inductive CacheCall where
  | typeFromDwarfInternal (die : DieKey) (canBeIncompleteArray : Bool)
  | typeFind (kind : TypeKind) (name : String) (filename : Option String)
  | objectFind (name : String) (filename : Option String) (flags : Nat)

/-- A call, with its result thrown away. -/
def CacheCall.run (dw : DwarfInfo) : CacheCall → DrgnM Unit
  | .typeFromDwarfInternal die f => do let _ ← drgnTypeFromDwarfInternal dw die f
  | .typeFind kind name filename => do let _ ← drgnDwarfTypeFind dw kind name filename
  | .objectFind name filename flags => do let _ ← drgnDwarfObjectFind dw name filename flags

/-- A resolution leaves behind what `drgn_type_from_dwarf_internal` left. -/
theorem CacheCall.finalState_run {dw : DwarfInfo} {die : DieKey} {f : Bool}
    {s s' : DwarfInfoCache} {r : QualifiedType × Option Bool}
    (h : drgnTypeFromDwarfInternal dw die f s = .ok r s') :
    finalState ((CacheCall.typeFromDwarfInternal die f).run dw s) = s' := by
  show finalState (EStateM.map _ _ s) = s'
  simp [EStateM.map, h, finalState]

/-- The caches reachable from `drgn_dwarf_info_cache_create` by a sequence of calls, each of
which may have failed. The allocator's outcomes for the whole sequence are fixed at creation. -/
inductive Reachable (dw : DwarfInfo) : DwarfInfoCache → Prop
  | create (failingAllocations : List Bool) :
      Reachable dw (drgnDwarfInfoCacheCreate failingAllocations)
  | call {s : DwarfInfoCache} (c : CacheCall) :
      Reachable dw s → Reachable dw (finalState (c.run dw s))

/-- The cache after a sequence of calls. -/
def runCalls (dw : DwarfInfo) (calls : List CacheCall) (s : DwarfInfoCache) : DwarfInfoCache :=
  calls.foldl (fun s c => finalState (c.run dw s)) s

theorem Reachable.runCalls {dw : DwarfInfo} {s : DwarfInfoCache} (hs : Reachable dw s)
    (calls : List CacheCall) : Reachable dw (Drgn.runCalls dw calls s) := by
  induction calls generalizing s with
  | nil => exact hs
  | cons c calls ih => exact ih (.call c hs)

section Calls

variable {dw : DwarfInfo} {I : DwarfInfoCache → Prop}
  (hI : ∀ s l, I s → I { s with failingAllocations := l })
  (hint : ∀ die f, Keeps I (fun _ => True) (drgnTypeFromDwarfInternal dw die f))
include hI hint

omit hI in
theorem typeFindLoop_keeps (kind : TypeKind) (filename : Option String)
    (candidates : List (DieKey × UInt64)) (failed : Bool) :
    Keeps I (fun _ => True) (typeFindLoop dw kind filename candidates failed) := by
  induction candidates with
  | nil => exact .throw trivial
  | cons candidate rest ih =>
    unfold typeFindLoop
    refine .ite (fun _ => .bind (.bind (hint _ _) fun _ => .pure _) fun _ => ?_) fun _ => ih
    exact .ite (fun _ => .pure _) fun _ => ih

theorem objectFindLoop_keeps (name : String) (filename : Option String)
    (candidates : List (DieKey × UInt64)) (failed : Bool) :
    Keeps I (fun _ => True) (objectFindLoop dw name filename candidates failed) := by
  have h : Frame I fun _ => True := ⟨hI, fun _ _ => trivial⟩
  induction candidates with
  | nil => exact .throw trivial
  | cons candidate rest ih =>
    unfold objectFindLoop
    refine .ite (fun _ => ih) fun _ => .ite (fun _ => ?_) fun _ => .ite (fun _ => ?_) fun _ =>
      .ite (fun _ => ?_) fun _ => .throw trivial
    · unfold drgnObjectFromDwarfEnumerator drgnObjectSetSigned drgnObjectSetUnsigned objectSetValue
      refine .bind (.bind (hint _ _) fun _ => .pure _) fun _ => ?_
      repeat' split
      all_goals first
        | exact .pure _
        | exact .throw trivial
    · unfold drgnObjectFromDwarfSubprogram drgnObjectSetReference
      refine .bind (.bind (hint _ _) fun _ => .pure _) fun _ => ?_
      repeat' split
      all_goals first
        | exact .pure _
        | exact .throw trivial
    · unfold drgnObjectFromDwarfVariable drgnObjectFromDwarfConstant drgnObjectSetReference
      refine .bind (@drgnTypeFromDwarfChild_rel (RunRel.keeps h) _ _ (drgnTypeFromDwarfInternal dw)
        _ _ _ _ _ fun _ _ _ _ => hint _ _)
        fun ⟨_, _⟩ => ?_
      repeat' split
      all_goals first
        | exact .pure _
        | exact .throw trivial

/-- Every call a client makes keeps an invariant that allocations do not disturb and that
`drgn_type_from_dwarf_internal` keeps. -/
theorem CacheCall.run_keeps (c : CacheCall) : Keeps I (fun _ => True) (c.run dw) := by
  cases c with
  | typeFromDwarfInternal die f => exact .bind (hint die f) fun _ => .pure _
  | typeFind kind name filename =>
    refine .bind ?_ fun _ => .pure _
    unfold drgnDwarfTypeFind
    split
    · exact .throw trivial
    · exact typeFindLoop_keeps hint _ _ _ _
  | objectFind name filename flags =>
    exact .bind (objectFindLoop_keeps hI hint _ _ _ _) fun _ => .pure _

/-- **Reachable caches keep every invariant** that holds of a new cache, that allocations do
not disturb and that `drgn_type_from_dwarf_internal` keeps. -/
theorem Reachable.induction (hcreate : ∀ l, I (drgnDwarfInfoCacheCreate l)) {s : DwarfInfoCache}
    (hs : Reachable dw s) : I s := by
  induction hs with
  | create l => exact hcreate l
  | call c _ ih => exact (CacheCall.run_keeps hI hint c _ ih).finalState

end Calls

/-- **Every reachable cache is at depth 0.** -/
theorem Reachable.depth_eq_zero {dw : DwarfInfo} {s : DwarfInfoCache} (hs : Reachable dw s) :
    s.depth = 0 :=
  hs.induction (fun _ _ h => h)
    (fun die f s hs => typeFromDwarfInternalAux_depth dw (1000 - s.depth) 0 die f s hs) fun _ => rfl

/-! ## Eager paths

An edge `D → E` is eager when materializing `D` resolves `E` before it returns: the type of a
qualifier, typedef, pointer, array, enumeration or function DIE, the real type of a complex
float, the definition found for a declaration, and the type of a member whose bit field is laid
out from it. Every `CallEdge` is one. -/

section Eager

variable (dw : DwarfInfo)

/-- The tags whose `DW_AT_type` is resolved at once. -/
def eagerTypeTags : List Nat := childTypeTags ++ [DwTag.enumerationType]

/-- The eager edges of the DIE graph. -/
inductive EagerEdge (die : DieKey) : DieKey → Prop
  /-- The `DW_AT_type` of a qualifier, typedef, pointer, array, enumeration or function DIE. -/
  | typeAttr {attr : DwarfAttribute} {e : DieKey} :
      dwarfTag dw.die die ∈ eagerTypeTags →
      dwarfAttrIntegrate dw.die die DwAt.type = some attr → dwarfFormrefDie attr = some e →
      EagerEdge die e
  /-- The `DW_AT_type` of a complex-float base type. -/
  | complexReal {attr : DwarfAttribute} {e : DieKey} :
      dwarfTag dw.die die = DwTag.baseType →
      (dwarfAttrIntegrate dw.die die DwAt.encoding).bind dwarfFormudata = some DwAte.complexFloat →
      dwarfAttrIntegrate dw.die die DwAt.type = some attr → dwarfFormrefDie attr = some e →
      EagerEdge die e
  /-- The definition `drgn_dwarf_info_cache_find_complete` materializes for a DIE that the code
  treats as a declaration. -/
  | definition {name : String} {e : DieKey} {bias : UInt64} :
      dwarfTag dw.die die ∈ completableTags →
      dwarfFlag dw.die die DwAt.declaration = some true →
      (dwarfAttrIntegrate dw.die die DwAt.name).bind dwarfFormstring = some name →
      (dw.index name [dwarfTag dw.die die]).entries = [(e, bias)] →
      (dw.index name [dwarfTag dw.die die]).failed = false → EagerEdge die e
  /-- The `DW_AT_type` of a member with a `DW_AT_bit_offset` and no `DW_AT_byte_size` in a
  little-endian compound type. -/
  | memberType {m : DieKey} {attr : DwarfAttribute} {e : DieKey} :
      dwarfTag dw.die die ∈ compoundTags → m ∈ (dw.die die).children →
      dwarfTag dw.die m = DwTag.member →
      (dwarfAttrIntegrate dw.die m DwAt.bitOffset).isSome → (dw.die die).unit.littleEndian →
      dwarfAttrIntegrate dw.die m DwAt.byteSize = none →
      dwarfAttrIntegrate dw.die m DwAt.type = some attr → dwarfFormrefDie attr = some e →
      EagerEdge die e

/-- A path of eager edges, as the list of its DIEs. -/
def EagerPath : List DieKey → Prop
  | d :: e :: rest => EagerEdge dw d e ∧ EagerPath (e :: rest)
  | _ => True

variable {dw}

theorem dwarfType_eq_ref {die e : DieKey} (h : dwarfType dw.die die = .ref e) :
    ∃ attr, dwarfAttrIntegrate dw.die die DwAt.type = some attr ∧
      dwarfFormrefDie attr = some e := by
  unfold dwarfType at h
  split at h
  · cases h
  · split at h
    · cases h
      exact ⟨_, ‹_›, ‹_›⟩
    · cases h

/-- Every DIE a materialization resolves is an eager successor. -/
theorem CallEdge.eager {die e : DieKey} (h : CallEdge dw die e) : EagerEdge dw die e := by
  cases h with
  | child htag hattr he => exact .typeAttr (List.mem_append_left _ htag) hattr he
  | complexReal htag henc hty =>
    obtain ⟨attr, hattr, he⟩ := dwarfType_eq_ref hty
    exact .complexReal htag henc hattr he
  | definition htag hdecl hname hent hfail => exact .definition htag hdecl hname hent hfail
  | compatible htag _ hty =>
    obtain ⟨attr, hattr, he⟩ := dwarfType_eq_ref hty
    exact .typeAttr (by simp [eagerTypeTags, htag]) hattr he
  | memberType htag _ hm htagm hsized =>
    obtain ⟨_, hbo, hle, hbs, attr, hattr, he⟩ := hsized
    exact .memberType htag hm htagm hbo (by simpa using hle) hbs hattr he

/-- A ranking of the DIEs that every eager edge descends bounds the eager paths. -/
theorem EagerPath.length_le_of_rank (rank : DieKey → Nat)
    (hrank : ∀ d e, EagerEdge dw d e → rank e < rank d) :
    ∀ (die : DieKey) (p : List DieKey), EagerPath dw (die :: p) → p.length ≤ rank die
  | _, [], _ => Nat.zero_le _
  | die, e :: p, ⟨hedge, hpath⟩ => by
    have := EagerPath.length_le_of_rank rank hrank e p hpath
    have := hrank die e hedge
    simp only [List.length_cons]
    omega

end Eager

/-! ## No recursion error below 1000 eager levels -/

section NoRecursion

variable (dw : DwarfInfo)

/-- A call at depth `d` on a DIE whose eager paths leave it fewer than `1000 - d` levels
raises only local faults, and leaves the counter at `d`. -/
theorem typeFromDwarfInternalAux_local (fuel d : Nat) (die : DieKey) (f : Bool)
    (hfuel : 1000 ≤ fuel + d) (hpath : ∀ p, EagerPath dw (die :: p) → d + p.length < 1000) :
    Keeps (fun s => s.depth = d) LocalFault (typeFromDwarfInternalAux dw fuel die f) := by
  have hshallow : d < 1000 := hpath [] trivial
  induction fuel generalizing d die f with
  | zero => exact lookupMemo_keeps (fun s hs _ => by omega) fun s hs hd => by omega
  | succ fuel ih =>
    have hmiss : Keeps (fun s => s.depth = d) LocalFault
        (materialize dw (typeFromDwarfInternalAux dw fuel) die f) :=
      materialize_keeps (depth_frame d fun _ => id) (depth_frame (d + 1) fun _ => id)
        (fun s hs => by simp [hs]) (fun s hs => by simp [hs])
        (fun s _ hs => (insertMemo_depth s _ _).trans hs)
        fun e f' he => ih (d + 1) e f' (by omega) (fun p hp => by
          have := hpath (e :: p) ⟨he.eager, hp⟩
          simp only [List.length_cons] at this
          omega) (by have := hpath [e] ⟨he.eager, trivial⟩; simp at this; omega)
    exact lookupMemo_keeps (fun s hs _ => hmiss s hs) fun s hs hd => by omega

/-- **The thunks break every cycle.** When no path of eager edges has more than 1000 DIEs, no
call to `drgn_type_from_dwarf_internal` from a reachable cache, a thunk's evaluation included,
fails with `DRGN_ERROR_RECURSION`, whatever cycles pass through member and parameter types. -/
theorem drgnTypeFromDwarfInternal_no_recursion (hpath : ∀ p, EagerPath dw p → p.length ≤ 1000)
    {s : DwarfInfoCache} (hs : Reachable dw s) (die : DieKey) (f : Bool) {err : DrgnError}
    {s' : DwarfInfoCache} (hrun : drgnTypeFromDwarfInternal dw die f s = .error (.error err) s') :
    err.code ≠ .recursion := by
  have hdepth := hs.depth_eq_zero
  have hkeeps := typeFromDwarfInternalAux_local dw (1000 - s.depth) 0 die f (by omega)
    (fun p hp => by have := hpath _ hp; simp only [List.length_cons] at this; omega) s hdepth
  change typeFromDwarfInternalAux dw (1000 - s.depth) die f s = _ at hrun
  rw [hrun] at hkeeps
  exact hkeeps.1.1

/-- `struct node { struct node *next; };`: the structure (1), its member (2) and the pointer
type (3) that refers back to the structure. -/
def nodeDie : DieKey → Die
  | 1 => { tag := DwTag.structureType, children := [2],
           attributes := [⟨DwAt.name, .string "node"⟩, ⟨DwAt.byteSize, .data 8⟩] }
  | 2 => { tag := DwTag.member,
           attributes := [⟨DwAt.name, .string "next"⟩, ⟨DwAt.type, .ref 3⟩,
             ⟨DwAt.dataMemberLocation, .data 0⟩] }
  | 3 => { tag := DwTag.pointerType, attributes := [⟨DwAt.type, .ref 1⟩, ⟨DwAt.byteSize, .data 8⟩] }
  | _ => { tag := 0 }

/-- The program of `struct node`, with the structure indexed under its name. -/
def nodeDwarf : DwarfInfo where
  die := nodeDie
  index := fun name _ => if name = "node" then ⟨[(1, 0)], false⟩ else ⟨[], false⟩
  dieMatchesFilename := fun _ _ => true
  wordSize := some 8
  objectSetCommon := fun _ => .error (otherError "no object layer")

/-- The only eager edge of `struct node` is the pointer's `DW_AT_type`: the cycle runs through the
member's thunk. -/
theorem nodeDwarf_eagerEdge {d e : DieKey} (h : EagerEdge nodeDwarf d e) : d = 3 ∧ e = 1 := by
  -- only the structure and the pointer have a tag that can start an eager edge
  have htags : ∀ n, dwarfTag nodeDwarf.die n ∈ eagerTypeTags ++ DwTag.baseType :: completableTags →
      n = 1 ∨ n = 3
    | 0, hn | 2, hn => absurd hn (by decide)
    | 1, _ => .inl rfl
    | 3, _ => .inr rfl
    | n + 4, hn => absurd hn (by rw [show dwarfTag nodeDwarf.die (n + 4) = 0 from rfl]; decide)
  cases h with
  | typeAttr htag hattr he =>
    rcases htags d (List.mem_append_left _ htag) with rfl | rfl
    · exact absurd htag (by decide)
    · cases hattr; cases he; exact ⟨rfl, rfl⟩
  | complexReal htag =>
    rcases htags d (by simp [htag]) with rfl | rfl <;> exact absurd htag (by decide)
  | definition htag hdecl =>
    rcases htags d (by simp [htag]) with rfl | rfl
    · exact absurd hdecl (by decide)
    · exact absurd htag (by decide)
  | memberType htag hm _ hbo =>
    rcases htags d (List.mem_append_right _ (.tail _ (compoundTags_subset htag))) with rfl | rfl
    · obtain rfl : _ = 2 := List.mem_singleton.mp hm
      exact absurd hbo (by decide)
    · exact absurd htag (by decide)

/-- The theorem applies to the self-referential structure: its eager paths have at most two
DIEs, and no call from a new cache fails with `DRGN_ERROR_RECURSION`. -/
theorem nodeDwarf_no_recursion :
    (∀ p, EagerPath nodeDwarf p → p.length ≤ 1000) ∧
      Reachable nodeDwarf (drgnDwarfInfoCacheCreate []) ∧
      ∀ die f err s', drgnTypeFromDwarfInternal nodeDwarf die f (drgnDwarfInfoCacheCreate []) =
        .error (.error err) s' → err.code ≠ .recursion := by
  have hpath : ∀ p, EagerPath nodeDwarf p → p.length ≤ 1000
    | [], _ => by decide
    | die :: p, hp => by
      have := EagerPath.length_le_of_rank (fun n => if n = 3 then 1 else 0)
        (fun d e h => by obtain ⟨rfl, rfl⟩ := nodeDwarf_eagerEdge h; decide) die p hp
      dsimp only at this
      simp only [List.length_cons]
      split at this <;> omega
  exact ⟨hpath, .create [], fun die f _ _ hrun =>
    drgnTypeFromDwarfInternal_no_recursion nodeDwarf hpath (.create []) die f hrun⟩

end NoRecursion

end Drgn
