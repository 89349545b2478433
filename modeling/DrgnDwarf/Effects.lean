import DrgnDwarf.Find

/-!
# DrgnDwarf — what one dispatch can do to the cache

A kind dispatcher reads the DWARF image, allocates, and materializes other DIEs through the
`Resolver` it is handed; it never touches a memo map or the depth counter itself. Every run
invariant of the cache is derived from that one fact, stated here once:

* **`Keeps I E m`** — from a state satisfying `I`, the run of `m` ends in a state satisfying `I`,
  and a fault it ends with satisfies `E`. Its rules (`pure`, `throw`, `bind`) follow the shape of
  the monadic code.
* **`Frame I E`** — what an invariant must allow for a dispatcher to keep it: the allocator's
  outcomes may change, and every fault a dispatcher raises itself (a `LocalFault`: never
  `DRGN_ERROR_RECURSION`, never the model's fuel) is acceptable.
* **`CallEdge dw die e`** — the DIEs that materializing `die` may resolve before it returns, read
  off the dispatchers: a `DW_AT_type` child, the real type of a complex base type, the definition
  `drgn_dwarf_info_cache_find_complete` picks, the compatible type of an enumeration, and the type
  of a little-endian bit-field member whose size the offset needs.
* **`RunRel`** — a relation between two runs that the monadic code respects: it relates `pure`
  to `pure`, a raised local fault to itself, an allocation to itself, and binds whose parts it
  relates. Each dispatcher is proved once for every such relation (`typeFromDwarfSwitch_rel`),
  over two resolvers that it relates on the call edges of the DIE.
* **`typeFromDwarfSwitch_keeps`** — the switch keeps every `Frame` invariant that the resolver
  keeps on the call edges of the DIE: `Keeps` is a `RunRel` (`RunRel.keeps`). The depth counter
  and the memo invariants (`Depth.lean`, `Memo.lean`) are instances.
-/

namespace Drgn

/-! ## Invariants of a run -/

/-- The end of a run keeps `I`; a fault it ends with satisfies `E`. -/
def EndKeeps {α : Type} (I : DwarfInfoCache → Prop) (E : Fault → Prop) :
    EStateM.Result Fault DwarfInfoCache α → Prop
  | .ok _ s => I s
  | .error f s => E f ∧ I s

/-- The cache a run leaves behind, whether it returned or failed. -/
def finalState {α : Type} : EStateM.Result Fault DwarfInfoCache α → DwarfInfoCache
  | .ok _ s => s
  | .error _ s => s

theorem EndKeeps.finalState {α : Type} {I : DwarfInfoCache → Prop} {E : Fault → Prop}
    {r : EStateM.Result Fault DwarfInfoCache α} (h : EndKeeps I E r) : I (finalState r) := by
  cases r
  · exact h
  · exact h.2

/-- From a state satisfying `I`, the run of `m` ends in a state satisfying `I`, and a fault it
ends with satisfies `E`. -/
def Keeps {α : Type} (I : DwarfInfoCache → Prop) (E : Fault → Prop) (m : DrgnM α) : Prop :=
  ∀ s, I s → EndKeeps I E (m s)

namespace Keeps

variable {α β : Type} {I : DwarfInfoCache → Prop} {E : Fault → Prop}

theorem pure (a : α) : Keeps I E (Pure.pure a : DrgnM α) := fun _ h => h

theorem throw {f : Fault} (h : E f) : Keeps I E (MonadExcept.throw f : DrgnM α) :=
  fun _ hs => ⟨h, hs⟩

/-- `bind`, when what the first computation returns is known to satisfy `P`. -/
theorem bind_of {x : DrgnM α} {f : α → DrgnM β} {P : α → Prop} (hx : Keeps I E x)
    (hP : ∀ s a s', x s = .ok a s' → P a) (hf : ∀ a, P a → Keeps I E (f a)) :
    Keeps I E (x >>= f) := by
  intro s hs
  have h := hx s hs
  show EndKeeps I E (EStateM.bind x f s)
  unfold EStateM.bind
  revert h
  cases hx : x s with
  | ok a s' => exact hf a (hP s a s' hx) s'
  | error e s' => exact id

theorem bind {x : DrgnM α} {f : α → DrgnM β} (hx : Keeps I E x) (hf : ∀ a, Keeps I E (f a)) :
    Keeps I E (x >>= f) :=
  bind_of (P := fun _ => True) hx (fun _ _ _ _ => trivial) fun a _ => hf a

/-- A value that is returned at once is passed on. -/
theorem pure_bind (a : α) {f : α → DrgnM β} (hf : Keeps I E (f a)) :
    Keeps I E (Pure.pure a >>= f) :=
  hf

theorem throw_bind {f : Fault} {k : α → DrgnM β} (h : E f) :
    Keeps I E (MonadExcept.throw f >>= k) :=
  fun _ hs => ⟨h, hs⟩

theorem ite {c : Prop} [Decidable c] {a b : DrgnM α} (ha : c → Keeps I E a)
    (hb : ¬c → Keeps I E b) : Keeps I E (if c then a else b) := by
  split
  · exact ha ‹_›
  · exact hb ‹_›

theorem modify {g : DwarfInfoCache → DwarfInfoCache} (hg : ∀ s, I s → I (g s)) :
    Keeps I E (MonadStateOf.modifyGet fun s => ((), g s) : DrgnM Unit) :=
  hg

end Keeps

/-- A sequence that returned ran its first computation to a return. -/
theorem bind_eq_ok {α β : Type} {x : DrgnM α} {f : α → DrgnM β} {s s' : DwarfInfoCache} {b : β}
    (h : (x >>= f) s = .ok b s') : ∃ a s₁, x s = .ok a s₁ ∧ f a s₁ = .ok b s' := by
  revert h
  show EStateM.bind x f s = _ → _
  unfold EStateM.bind
  cases x s with
  | ok a s₁ => exact fun h => ⟨a, s₁, rfl, h⟩
  | error e s₁ => exact nofun

/-- A sequence whose first computation fails fails with it. -/
theorem bind_eq_error {α β : Type} {x : DrgnM α} {g : α → DrgnM β} {s s' : DwarfInfoCache}
    {f : Fault} (h : x s = .error f s') : (x >>= g) s = .error f s' := by
  show EStateM.bind x g s = _
  unfold EStateM.bind
  rw [h]

/-- A sequence whose first computation returns goes on from its value and state. -/
theorem bind_eq_of_ok {α β : Type} {x : DrgnM α} {g : α → DrgnM β} {s s' : DwarfInfoCache}
    {a : α} (h : x s = .ok a s') : (x >>= g) s = g a s' := by
  show EStateM.bind x g s = _
  unfold EStateM.bind
  rw [h]

/-- Every value `m` returns, from any state, satisfies `P`: the postcondition of a dispatcher,
whatever the cache and the allocator do. -/
def Returns {α : Type} (P : α → Prop) (m : DrgnM α) : Prop :=
  ∀ s a s', m s = .ok a s' → P a

namespace Returns

variable {α β : Type} {P : β → Prop}

theorem pure {b : β} (h : P b) : Returns P (Pure.pure b : DrgnM β) := by
  rintro _ _ _ ⟨⟩
  exact h

theorem throw {f : Fault} : Returns P (MonadExcept.throw f : DrgnM β) :=
  nofun

/-- The rule of sequence: what the first computation returned, and from which state, is known
to the rest. -/
theorem bind {x : DrgnM α} {f : α → DrgnM β}
    (hf : ∀ a s s', x s = .ok a s' → Returns P (f a)) : Returns P (x >>= f) := by
  intro s b s' hrun
  obtain ⟨a, s₁, hx, hrun⟩ := bind_eq_ok hrun
  exact hf a s s₁ hx _ _ _ hrun

theorem pure_bind {a : α} {f : α → DrgnM β} (h : Returns P (f a)) :
    Returns P (Pure.pure a >>= f) :=
  .bind fun _ _ _ hx => by cases hx; exact h

/-- Sequence with a postcondition of the first computation. -/
theorem bind_of {Q : α → Prop} {x : DrgnM α} {f : α → DrgnM β} (hx : Returns Q x)
    (hf : ∀ a, Q a → Returns P (f a)) : Returns P (x >>= f) :=
  .bind fun a s s' h => hf a (hx s a s' h)

/-- The rule of consequence: a postcondition may be weakened. -/
theorem mono {Q : β → Prop} {m : DrgnM β} (h : Returns Q m) (hQ : ∀ b, Q b → P b) :
    Returns P m :=
  fun s b s' hrun => hQ b (h s b s' hrun)

theorem ite {c : Prop} [Decidable c] {a b : DrgnM β} (ha : c → Returns P a)
    (hb : ¬c → Returns P b) : Returns P (if c then a else b) := by
  split
  · exact ha ‹_›
  · exact hb ‹_›

end Returns

/-- The faults a dispatcher ends with by itself: every error but `DRGN_ERROR_RECURSION` and
`DRGN_ERROR_STOP` (which `drgn_dwarf_info_cache_find_complete` returns only to a caller that
catches it), and the undefined behaviours; never the model's fuel. -/
def LocalFault : Fault → Prop
  | .error err => err.code ≠ .recursion ∧ err.code ≠ .stop
  | .outOfFuel => False
  | _ => True

theorem LocalFault.ne_outOfFuel {f : Fault} (h : LocalFault f) : f ≠ .outOfFuel := by
  rintro rfl
  exact h

/-- What an invariant must allow for the dispatchers to keep it: the allocator's outcomes are not
part of it, and every fault a dispatcher raises itself is acceptable. -/
structure Frame (I : DwarfInfoCache → Prop) (E : Fault → Prop) : Prop where
  ignoresAllocations : ∀ s l, I s → I { s with failingAllocations := l }
  allowsLocal : ∀ f, LocalFault f → E f

/-! ## The DIEs a materialization resolves -/

/-- The tags whose dispatcher resolves the DIE's `DW_AT_type` with `drgn_type_from_dwarf_child`. -/
def childTypeTags : List Nat :=
  [DwTag.constType, DwTag.restrictType, DwTag.volatileType, DwTag.atomicType, DwTag.typedef,
    DwTag.pointerType, DwTag.arrayType, DwTag.subroutineType, DwTag.subprogram]

/-- The tags whose dispatcher may call `drgn_dwarf_info_cache_find_complete`. -/
def completableTags : List Nat :=
  [DwTag.structureType, DwTag.unionType, DwTag.classType, DwTag.enumerationType]

/-- The tags of `drgn_compound_type_from_dwarf`. -/
def compoundTags : List Nat := [DwTag.structureType, DwTag.unionType, DwTag.classType]

theorem compoundTags_subset {t : Nat} (h : t ∈ compoundTags) : t ∈ completableTags :=
  List.mem_append_left _ h

/-- The member DIE `m` of a compound whose byte order is `littleEndian` has its offset in a
`DW_AT_bit_offset` that counts from the end of the type `e` of its `DW_AT_type`, which has no
`DW_AT_byte_size` of its own: `parse_member_offset` needs the size of `e`. -/
def SizedMemberType (dw : DwarfInfo) (littleEndian : Bool) (m e : DieKey) : Prop :=
  dwarfAttrIntegrate dw.die m DwAt.dataBitOffset = none ∧
    (dwarfAttrIntegrate dw.die m DwAt.bitOffset).isSome ∧ littleEndian = true ∧
    dwarfAttrIntegrate dw.die m DwAt.byteSize = none ∧
    ∃ attr, dwarfAttrIntegrate dw.die m DwAt.type = some attr ∧ dwarfFormrefDie attr = some e

/-- **The DIEs that materializing `die` may resolve before it returns.** Member and parameter
types are thunks, except the member types `parse_member_offset` evaluates. -/
inductive CallEdge (dw : DwarfInfo) (die : DieKey) : DieKey → Prop
  /-- The `DW_AT_type` of a qualifier, typedef, pointer, array or function DIE. -/
  | child {attr : DwarfAttribute} {e : DieKey} :
      dwarfTag dw.die die ∈ childTypeTags →
      dwarfAttrIntegrate dw.die die DwAt.type = some attr → dwarfFormrefDie attr = some e →
      CallEdge dw die e
  /-- The real type of a `DW_ATE_complex_float` base type. -/
  | complexReal {e : DieKey} :
      dwarfTag dw.die die = DwTag.baseType →
      (dwarfAttrIntegrate dw.die die DwAt.encoding).bind dwarfFormudata = some DwAte.complexFloat →
      dwarfType dw.die die = .ref e → CallEdge dw die e
  /-- The definition `drgn_dwarf_info_cache_find_complete` materializes for a declaration. -/
  | definition {name : String} {e : DieKey} {bias : UInt64} :
      dwarfTag dw.die die ∈ completableTags →
      dwarfFlag dw.die die DwAt.declaration = some true →
      (dwarfAttrIntegrate dw.die die DwAt.name).bind dwarfFormstring = some name →
      (dw.index name [dwarfTag dw.die die]).entries = [(e, bias)] →
      (dw.index name [dwarfTag dw.die die]).failed = false → CallEdge dw die e
  /-- The compatible type of an enumeration definition. -/
  | compatible {e : DieKey} :
      dwarfTag dw.die die = DwTag.enumerationType →
      dwarfFlag dw.die die DwAt.declaration = some false →
      dwarfType dw.die die = .ref e → CallEdge dw die e
  /-- The type of a member of a little-endian compound definition that `parse_member_offset`
  needs the size of. -/
  | memberType {m e : DieKey} :
      dwarfTag dw.die die ∈ compoundTags →
      dwarfFlag dw.die die DwAt.declaration = some false →
      m ∈ (dw.die die).children → dwarfTag dw.die m = DwTag.member →
      SizedMemberType dw (dw.die die).unit.littleEndian m e → CallEdge dw die e

/-! ## What the decoders return -/

section Decoders

variable {dw : DwarfInfo} {resolve : Resolver}

/-- An optional attribute returns the decoded attribute, present exactly when the attribute
is, and leaves the cache as it was. -/
theorem optionalAttr_eq_ok {α : Type} {die : DieKey} {name : Nat}
    {decode : DwarfAttribute → Option α} {message : String} {s s' : DwarfInfoCache}
    {a : Option α} (hrun : optionalAttr dw die name decode message s = .ok a s') :
    s' = s ∧ (dwarfAttrIntegrate dw.die die name).bind decode = a ∧
      (dwarfAttrIntegrate dw.die die name).isSome = a.isSome := by
  revert hrun
  unfold optionalAttr
  cases dwarfAttrIntegrate dw.die die name with
  | none => rintro ⟨⟩; exact ⟨rfl, rfl, rfl⟩
  | some attr =>
    dsimp only
    cases hdec : decode attr with
    | none => exact nofun
    | some v => rintro ⟨⟩; exact ⟨rfl, by simp [hdec], rfl⟩

/-- `drgn_lazy_type_from_dwarf` makes a thunk of the DIE's `DW_AT_type` under the flag it is
given. -/
theorem drgnLazyTypeFromDwarf_eq_thunk {die : DieKey} {canBeIncompleteArray : Bool}
    {tagName : String} {s s' : DwarfInfoCache} {lt : LazyType}
    (hrun : drgnLazyTypeFromDwarf dw die canBeIncompleteArray tagName s = .ok lt s') :
    ∃ attr e, dwarfAttrIntegrate dw.die die DwAt.type = some attr ∧
      dwarfFormrefDie attr = some e ∧ lt = .thunk e canBeIncompleteArray := by
  revert hrun
  unfold drgnLazyTypeFromDwarf
  cases hattr : dwarfAttrIntegrate dw.die die DwAt.type with
  | none => exact nofun
  | some attr =>
    dsimp only
    cases he : dwarfFormrefDie attr with
    | none => exact nofun
    | some e =>
      dsimp only
      intro hrun
      obtain ⟨ok, s₁, -, hrun⟩ := bind_eq_ok hrun
      cases ok
      · cases hrun
      · cases hrun
        exact ⟨attr, e, rfl, he, rfl⟩

/-- A type constructor returns the descriptor it was given. -/
theorem createType_eq_ok {t t' : DrgnType} {s s' : DwarfInfoCache}
    (hrun : createType t s = .ok t' s') : t' = t := by
  obtain ⟨ok, s₁, -, hrun⟩ := bind_eq_ok hrun
  cases ok <;> cases hrun
  rfl

/-- A builder append adds its element at the end. -/
theorem builderAdd_returns {α : Type} (builder : List α) (x : α) :
    Returns (· = builder ++ [x]) (builderAdd builder x) :=
  .bind fun ok _ _ _ => by
    cases ok
    · exact .throw
    · exact .pure rfl

theorem createType_returns {P : DrgnType → Prop} {t : DrgnType} (h : P t) :
    Returns P (createType t) :=
  fun _ _ _ hrun => createType_eq_ok hrun ▸ h

/-- `drgn_language_from_die` reads the unit and leaves the cache as it was. -/
theorem drgnLanguageFromDie_eq_ok {die : DieKey} {s s' : DwarfInfoCache} {l : Option Language}
    (hrun : drgnLanguageFromDie dw die s = .ok l s') : s' = s := by
  revert hrun
  unfold drgnLanguageFromDie
  cases (dw.die die).unit.cuDieUnreadable
  · rintro ⟨⟩; rfl
  · exact nofun

/-- `drgn_type_from_dwarf_child` resolves the DIE its `DW_AT_type` names, under the flag it is
given; or, without a `DW_AT_type` and where void is allowed, it returns void and leaves the cache
as it was. -/
theorem drgnTypeFromDwarfChild_eq_ok {die : DieKey} {lang : Option Language} {tagName : String}
    {canBeVoid f : Bool} {s s' : DwarfInfoCache} {r : QualifiedType × Option Bool}
    (hrun : drgnTypeFromDwarfChild dw resolve die lang tagName canBeVoid f s = .ok r s') :
    (∃ attr e, dwarfAttrIntegrate dw.die die DwAt.type = some attr ∧
      dwarfFormrefDie attr = some e ∧ resolve e f s = .ok r s') ∨
    (dwarfAttrIntegrate dw.die die DwAt.type = none ∧ canBeVoid = true ∧ s' = s ∧
      ∃ l, r = (⟨drgnVoidType l, 0⟩, none)) := by
  revert hrun
  unfold drgnTypeFromDwarfChild
  cases hattr : dwarfAttrIntegrate dw.die die DwAt.type with
  | none =>
    cases canBeVoid
    · exact nofun
    · intro hrun
      obtain ⟨l, s₁, hlang, hrun⟩ := bind_eq_ok hrun
      cases hrun
      refine .inr ⟨rfl, rfl, ?_, l, rfl⟩
      cases lang with
      | some _ => cases hlang; rfl
      | none => exact drgnLanguageFromDie_eq_ok hlang
  | some attr =>
    dsimp only
    cases he : dwarfFormrefDie attr with
    | none => exact nofun
    | some e => exact fun hrun => .inl ⟨attr, e, rfl, he, hrun⟩

/-- Without `DW_AT_endianity`, a DIE has its unit's byte order. -/
theorem dwarfDieIsLittleEndian_false (die : DieKey) :
    dwarfDieIsLittleEndian dw die false = .ok (dw.die die).unit.littleEndian :=
  rfl

/-- The member the loop holds back is the one it started with or a `DW_TAG_member` child. -/
theorem parseMembers_held {littleEndian : Bool} {member : Option DieKey} {children : List DieKey}
    {builder : List TypeMember} {s s' : DwarfInfoCache} {held : Option DieKey}
    {members : List TypeMember}
    (hrun : parseMembers dw resolve littleEndian member children builder s =
      .ok (held, members) s') :
    ∀ m, held = some m → member = some m ∨ m ∈ children ∧ dwarfTag dw.die m = DwTag.member := by
  induction children generalizing member builder s with
  | nil => cases hrun; exact fun m hm => .inl hm
  | cons child rest ih =>
    unfold parseMembers at hrun
    split at hrun
    · -- a member: the loop goes on holding `child`
      have hnext : ∃ b s₁, parseMembers dw resolve littleEndian (some child) rest b s₁ =
          .ok (held, members) s' := by
        cases member <;> obtain ⟨b, s₁, -, hrest⟩ := bind_eq_ok hrun <;> exact ⟨b, s₁, hrest⟩
      obtain ⟨b, s₁, hrest⟩ := hnext
      intro m hm
      rcases ih hrest m hm with hm | ⟨hm, htag⟩
      · cases hm; exact .inr ⟨List.mem_cons_self _ _, ‹_›⟩
      · exact .inr ⟨List.mem_cons_of_mem _ hm, htag⟩
    · exact fun m hm => (ih hrun m hm).imp_right fun ⟨hm, htag⟩ =>
        ⟨List.mem_cons_of_mem _ hm, htag⟩

/-- A definition looks for no other definition. -/
theorem findCompleteOfDeclaration_false (dwTag : Nat) (tag : Option String) :
    findCompleteOfDeclaration dw resolve false dwTag tag = pure none := by
  cases tag <;> rfl

/-- `subrange_length` fails with a malformed-DWARF error or an overflow. -/
theorem subrangeLength_error_code {die : DieKey} {err : DrgnError}
    (herr : subrangeLength dw die = .error err) : LocalFault (.error err) := by
  unfold subrangeLength at herr
  repeat' split at herr
  all_goals cases herr
  all_goals exact ⟨nofun, nofun⟩

end Decoders

/-! ## Relations the code respects

A dispatcher reaches the cache only through allocation and the `Resolver` it is handed. Each one
is proved below once, for every relation between two runs of its code that the code's building
blocks respect: run over `resolve` and over `resolve'`, a dispatcher is related when the two
resolvers are related on the DIEs it may resolve. A `Frame` invariant is such a relation, the one
that ignores the second run (`RunRel.keeps`). -/

/-- **A relation between two runs of the same code that its building blocks respect**: a value
returned at once, a sequence (knowing what its first step returns), a fault a dispatcher raises
itself, an allocation, and the declaration step, which turns the `DRGN_ERROR_STOP` of
`drgn_dwarf_info_cache_find_complete` into "no definition". -/
structure RunRel where
  /-- The relation between a computation and its counterpart. -/
  Rel : {α : Type} → DrgnM α → DrgnM α → Prop
  pure : ∀ {α : Type} (a : α), Rel (Pure.pure a) (Pure.pure a)
  bind_of : ∀ {α β : Type} {x x' : DrgnM α} {f f' : α → DrgnM β} {P : α → Prop},
    Rel x x' → Returns P x → (∀ a, P a → Rel (f a) (f' a)) → Rel (x >>= f) (x' >>= f')
  throw : ∀ {α : Type} {f : Fault}, LocalFault f →
    Rel (MonadExcept.throw f : DrgnM α) (MonadExcept.throw f)
  allocate : Rel allocate allocate
  findComplete : ∀ {dw : DwarfInfo} {resolve resolve' : Resolver} {dwTag : Nat} {name : String},
    (∀ e bias, (dw.index name [dwTag]).entries = [(e, bias)] →
      (dw.index name [dwTag]).failed = false → Rel (resolve e true) (resolve' e true)) →
    Rel (findCompleteOfDeclaration dw resolve true dwTag (some name))
      (findCompleteOfDeclaration dw resolve' true dwTag (some name))

namespace RunRel

variable (L : RunRel) {α β : Type}

theorem bind {x x' : DrgnM α} {f f' : α → DrgnM β} (hx : L.Rel x x')
    (hf : ∀ a, L.Rel (f a) (f' a)) : L.Rel (x >>= f) (x' >>= f') :=
  L.bind_of (P := fun _ => True) hx (fun _ _ _ _ => trivial) fun a _ => hf a

/-- A value that is returned at once is passed on. -/
theorem pure_bind (a : α) {f f' : α → DrgnM β} (hf : L.Rel (f a) (f' a)) :
    L.Rel (Pure.pure a >>= f) (Pure.pure a >>= f') :=
  L.bind_of (P := (· = a)) (L.pure a) (Returns.pure rfl) fun _ h => h ▸ hf

theorem ite {c : Prop} [Decidable c] {a a' b b' : DrgnM α} (ha : c → L.Rel a a')
    (hb : ¬c → L.Rel b b') : L.Rel (if c then a else b) (if c then a' else b') := by
  split
  · exact ha ‹_›
  · exact hb ‹_›

theorem throw_bind {f : Fault} {k k' : α → DrgnM β} (hf : LocalFault f) :
    L.Rel (MonadExcept.throw f >>= k) (MonadExcept.throw f >>= k') :=
  L.bind_of (P := fun _ => False) (L.throw hf) Returns.throw fun _ h => h.elim

theorem returnError_rel {err : DrgnError} (hc : LocalFault (.error err)) :
    L.Rel (returnError err : DrgnM α) (returnError err) :=
  L.throw hc

theorem otherError_rel (message : String) :
    L.Rel (returnError (otherError message) : DrgnM α) (returnError (otherError message)) :=
  L.throw ⟨nofun, nofun⟩

theorem createType_rel (t : DrgnType) : L.Rel (createType t) (createType t) :=
  L.bind L.allocate fun b => by
    split
    · exact L.pure _
    · exact L.returnError_rel ⟨nofun, nofun⟩

theorem builderAdd_rel (builder : List α) (x : α) :
    L.Rel (builderAdd builder x) (builderAdd builder x) :=
  L.bind L.allocate fun b => by
    split
    · exact L.pure _
    · exact L.returnError_rel ⟨nofun, nofun⟩

end RunRel

/-! ## One lemma per dispatcher

The hypotheses name the DIEs a dispatcher may resolve as it reaches them; the switch turns them
into `CallEdge`s. Code that resolves nothing is related to itself. -/

section Dispatchers

variable (L : RunRel) {dw : DwarfInfo} {resolve resolve' : Resolver}

theorem optionalAttr_rel {α : Type} (die : DieKey) (name : Nat)
    (decode : DwarfAttribute → Option α) (message : String) :
    L.Rel (optionalAttr dw die name decode message) (optionalAttr dw die name decode message) := by
  unfold optionalAttr
  split
  · exact L.pure _
  · split
    · exact L.pure _
    · exact L.otherError_rel _

/-- What follows an optional attribute may rely on whether the attribute is present. -/
theorem optionalAttr_bind_rel {α β : Type} {die : DieKey} {name : Nat}
    {decode : DwarfAttribute → Option α} {message : String} {f f' : Option α → DrgnM β}
    (hf : ∀ a, (dwarfAttrIntegrate dw.die die name).isSome = a.isSome → L.Rel (f a) (f' a)) :
    L.Rel (optionalAttr dw die name decode message >>= f)
      (optionalAttr dw die name decode message >>= f') :=
  L.bind_of (optionalAttr_rel L _ _ _ _) (fun _ _ _ hrun => (optionalAttr_eq_ok hrun).2.2) hf

theorem drgnLanguageFromDie_rel (die : DieKey) :
    L.Rel (drgnLanguageFromDie dw die) (drgnLanguageFromDie dw die) := by
  unfold drgnLanguageFromDie
  split
  · exact L.returnError_rel ⟨nofun, nofun⟩
  · exact L.pure _

theorem drgnLazyTypeFromDwarf_rel (die : DieKey) (canBeIncompleteArray : Bool)
    (tagName : String) :
    L.Rel (drgnLazyTypeFromDwarf dw die canBeIncompleteArray tagName)
      (drgnLazyTypeFromDwarf dw die canBeIncompleteArray tagName) := by
  unfold drgnLazyTypeFromDwarf
  split
  · exact L.otherError_rel _
  · split
    · exact L.otherError_rel _
    · exact L.bind L.allocate fun b => by
        split
        · exact L.pure _
        · exact L.returnError_rel ⟨nofun, nofun⟩

theorem drgnTypeFromDwarfChild_rel (die : DieKey) (lang : Option Language) (tagName : String)
    (canBeVoid f : Bool)
    (hres : ∀ attr e, dwarfAttrIntegrate dw.die die DwAt.type = some attr →
      dwarfFormrefDie attr = some e → L.Rel (resolve e f) (resolve' e f)) :
    L.Rel (drgnTypeFromDwarfChild dw resolve die lang tagName canBeVoid f)
      (drgnTypeFromDwarfChild dw resolve' die lang tagName canBeVoid f) := by
  unfold drgnTypeFromDwarfChild
  split
  · split
    · refine L.bind ?_ fun _ => L.pure _
      split
      · exact L.pure _
      · exact drgnLanguageFromDie_rel L die
    · exact L.otherError_rel _
  · rename_i attr hattr
    split
    · exact L.otherError_rel _
    · exact hres _ _ hattr ‹_›

theorem drgnTypeFromDwarf_rel (die : DieKey) (hres : L.Rel (resolve die true) (resolve' die true)) :
    L.Rel (drgnTypeFromDwarf resolve die) (drgnTypeFromDwarf resolve' die) :=
  L.bind hres fun _ => L.pure _

theorem drgnLazyTypeEvaluate_rel (lt : LazyType)
    (hres : ∀ e f, lt = .thunk e f → L.Rel (resolve e f) (resolve' e f)) :
    L.Rel (drgnLazyTypeEvaluate resolve lt) (drgnLazyTypeEvaluate resolve' lt) := by
  cases lt with
  | evaluated t q => exact L.pure _
  | thunk e f => exact L.bind (hres e f rfl) fun _ => L.pure _

theorem drgnBaseTypeFromDwarf_rel (die : DieKey) (lang : Option Language)
    (hres : ∀ e, (dwarfAttrIntegrate dw.die die DwAt.encoding).bind dwarfFormudata =
      some DwAte.complexFloat → dwarfType dw.die die = .ref e →
      L.Rel (resolve e true) (resolve' e true)) :
    L.Rel (drgnBaseTypeFromDwarf dw resolve die lang)
      (drgnBaseTypeFromDwarf dw resolve' die lang) := by
  unfold drgnBaseTypeFromDwarf
  split
  next =>
    split
    next encoding henc =>
      dsimp only
      refine L.ite (fun _ => L.otherError_rel _) fun _ => ?_
      refine L.ite (fun _ => L.createType_rel _) fun _ => ?_
      refine L.ite (fun _ => L.createType_rel _) fun _ => ?_
      refine L.ite (fun _ => L.createType_rel _) fun _ => ?_
      refine L.ite (fun _ => L.createType_rel _) fun _ => ?_
      refine L.ite (fun hcomplex => ?_) fun _ => L.otherError_rel _
      -- the complex case: its real type is the one call edge
      split
      next child hty =>
        refine L.bind (drgnTypeFromDwarf_rel L _ (hres _ (hcomplex ▸ henc) hty)) fun _ => ?_
        exact L.ite (fun _ => L.otherError_rel _) fun _ => L.createType_rel _
      next => exact L.otherError_rel _
    next => exact L.otherError_rel _
  next => exact L.otherError_rel _

theorem findCompleteOfDeclaration_rel (declaration : Bool) (dwTag : Nat) (tag : Option String)
    (hres : ∀ name e bias, declaration = true → tag = some name →
      (dw.index name [dwTag]).entries = [(e, bias)] → (dw.index name [dwTag]).failed = false →
      L.Rel (resolve e true) (resolve' e true)) :
    L.Rel (findCompleteOfDeclaration dw resolve declaration dwTag tag)
      (findCompleteOfDeclaration dw resolve' declaration dwTag tag) := by
  cases declaration <;> cases tag
  case true.some name => exact L.findComplete fun e bias => hres name e bias rfl rfl
  all_goals exact L.pure _

/-- `parse_member_offset` evaluates the member's type only for a little-endian
`DW_AT_bit_offset` with no `DW_AT_data_bit_offset` and no `DW_AT_byte_size`. -/
theorem parseMemberOffset_rel (die : DieKey) (memberType : LazyType) (bitFieldSize : UInt64)
    (littleEndian : Bool)
    (hres : dwarfAttrIntegrate dw.die die DwAt.dataBitOffset = none →
      (dwarfAttrIntegrate dw.die die DwAt.bitOffset).isSome → littleEndian = true →
      dwarfAttrIntegrate dw.die die DwAt.byteSize = none →
      ∀ e f, memberType = .thunk e f → L.Rel (resolve e f) (resolve' e f)) :
    L.Rel (parseMemberOffset dw resolve die memberType bitFieldSize littleEndian)
      (parseMemberOffset dw resolve' die memberType bitFieldSize littleEndian) := by
  unfold parseMemberOffset
  refine optionalAttr_bind_rel L fun dataBitOffset hdbo => ?_
  cases dataBitOffset with
  | some _ => exact L.pure _
  | none =>
    refine L.bind (optionalAttr_rel L _ _ _ _) fun _ => ?_
    refine optionalAttr_bind_rel L fun bitOffset hbo => ?_
    cases bitOffset with
    | none => exact L.pure _
    | some _ =>
      dsimp only
      split
      · refine optionalAttr_bind_rel L fun byteSize hbs => L.bind ?_ fun ⟨_, _⟩ => L.pure _
        cases byteSize with
        | some _ => exact L.pure _
        | none =>
          dsimp only
          refine L.bind (drgnLazyTypeEvaluate_rel L _ fun e f he => ?_) fun _ => ?_
          · exact hres (by simpa using hdbo) (by simpa using hbo) ‹_› (by simpa using hbs) e f he
          · split
            · exact L.pure _
            · exact L.otherError_rel _
      · exact L.pure _

theorem parseMember_rel (die : DieKey) (littleEndian f : Bool) (builder : List TypeMember)
    (hres : ∀ e, SizedMemberType dw littleEndian die e → L.Rel (resolve e f) (resolve' e f)) :
    L.Rel (parseMember dw resolve die littleEndian f builder)
      (parseMember dw resolve' die littleEndian f builder) := by
  unfold parseMember
  refine L.bind (optionalAttr_rel L _ _ _ _) fun _ =>
    L.bind (optionalAttr_rel L _ _ _ _) fun _ => ?_
  refine L.bind_of (drgnLazyTypeFromDwarf_rel L _ _ _)
    (fun _ _ _ hrun => drgnLazyTypeFromDwarf_eq_thunk hrun) fun memberType hthunk => ?_
  refine L.bind (parseMemberOffset_rel L _ _ _ _ fun hdbo hbo hle hbs e f' he => ?_)
    fun ⟨_, _⟩ => L.builderAdd_rel _ _
  obtain ⟨attr, e', hattr, he', rfl⟩ := hthunk
  cases he
  exact hres e ⟨hdbo, hbo, hle, hbs, attr, hattr, he'⟩

theorem parseMembers_rel (littleEndian : Bool) (member : Option DieKey) (children : List DieKey)
    (builder : List TypeMember)
    (hres : ∀ m e, member = some m ∨ m ∈ children ∧ dwarfTag dw.die m = DwTag.member →
      SizedMemberType dw littleEndian m e → L.Rel (resolve e false) (resolve' e false)) :
    L.Rel (parseMembers dw resolve littleEndian member children builder)
      (parseMembers dw resolve' littleEndian member children builder) := by
  induction children generalizing member builder with
  | nil => exact L.pure _
  | cons child rest ih =>
    unfold parseMembers
    split
    · -- a member: the one held back so far is parsed, and `child` is held
      have hnext : ∀ b, L.Rel (parseMembers dw resolve littleEndian (some child) rest b)
          (parseMembers dw resolve' littleEndian (some child) rest b) :=
        fun b => ih _ b fun m e hm => hres m e <| by
          rcases hm with hm | ⟨hm, htag⟩
          · cases hm; exact .inr ⟨List.mem_cons_self _ _, ‹_›⟩
          · exact .inr ⟨List.mem_cons_of_mem _ hm, htag⟩
      refine L.bind ?_ hnext
      cases member with
      | none => exact L.pure _
      | some m => exact parseMember_rel L _ _ _ _ fun e => hres m e (.inl rfl)
    · exact ih _ _ fun m e hm =>
        hres m e (hm.imp_right fun ⟨hm, htag⟩ => ⟨List.mem_cons_of_mem _ hm, htag⟩)

theorem drgnCompoundTypeFromDwarf_rel (die : DieKey) (lang : Option Language) (kind : TypeKind)
    (htag : typeFindTag kind = some (dwarfTag dw.die die))
    (hres : ∀ e f, CallEdge dw die e → L.Rel (resolve e f) (resolve' e f)) :
    L.Rel (drgnCompoundTypeFromDwarf dw resolve die lang kind)
      (drgnCompoundTypeFromDwarf dw resolve' die lang kind) := by
  unfold drgnCompoundTypeFromDwarf
  refine L.bind_of (P := fun t : String × Nat => t.2 = dwarfTag dw.die die ∧ t.2 ∈ compoundTags)
    ?_ ?_ fun ⟨dwTagStr, dwTag⟩ ⟨hdwTag, hcompound⟩ => ?_
  · cases kind <;> first | exact L.pure _ | exact L.throw trivial
  · cases kind <;> simp only [typeFindTag, Option.some.injEq] at htag <;>
      first | exact Returns.throw | exact Returns.pure ⟨htag, by decide⟩
  subst hdwTag
  have hcompletable := compoundTags_subset hcompound
  dsimp only
  refine L.bind_of (optionalAttr_rel L _ _ _ _) (fun _ _ _ hrun => (optionalAttr_eq_ok hrun).2.1)
    fun tag htagName => ?_
  split
  next declaration hdecl =>
    refine L.bind (findCompleteOfDeclaration_rel L _ _ _
      fun name e bias hd ht hent hfail => hres e true <| .definition hcompletable
        (hd ▸ hdecl) (ht ▸ htagName) hent hfail) fun r => ?_
    cases r with
    | some _ => exact L.pure _
    | none =>
      dsimp only
      split
      · exact L.createType_rel _
      have hdefinition : dwarfFlag dw.die die DwAt.declaration = some false := by
        rw [hdecl, Bool.eq_false_iff.mpr ‹¬declaration = true›]
      split
      · exact L.otherError_rel _
      simp only [dwarfDieIsLittleEndian_false]
      refine L.bind_of (parseMembers_rel L _ _ _ _ fun m e hm hsized => hres e false ?_)
        (fun _ _ _ hrun => parseMembers_held hrun) fun ⟨held, members⟩ hheld => ?_
      · obtain ⟨hm, htagm⟩ := hm.resolve_left nofun
        exact .memberType hcompound hdefinition hm htagm hsized
      split
      · exact L.otherError_rel _
      refine L.bind ?_ fun _ => L.createType_rel _
      cases held with
      | none => exact L.pure _
      | some m =>
        obtain ⟨hm, htagm⟩ := (hheld m rfl).resolve_left nofun
        exact parseMember_rel L _ _ _ _ fun e hsized =>
          hres e _ (.memberType hcompound hdefinition hm htagm hsized)
  next => exact L.otherError_rel _

theorem parseEnumerators_rel (children : List DieKey) (builder : List TypeEnumerator)
    (isSigned : Bool) :
    L.Rel (parseEnumerators dw children builder isSigned)
      (parseEnumerators dw children builder isSigned) := by
  induction children generalizing builder isSigned with
  | nil => exact L.pure _
  | cons child rest ih =>
    unfold parseEnumerators
    split
    · refine L.bind ?_ fun ⟨_, _⟩ => ih _ _
      unfold parseEnumerator
      repeat' split
      all_goals first
        | exact L.otherError_rel _
        | exact L.bind (L.builderAdd_rel _ _) fun _ => L.pure _
    · exact ih _ _

theorem drgnEnumTypeFromDwarf_rel (die : DieKey) (lang : Option Language)
    (htag : dwarfTag dw.die die = DwTag.enumerationType)
    (hres : ∀ e f, CallEdge dw die e → L.Rel (resolve e f) (resolve' e f)) :
    L.Rel (drgnEnumTypeFromDwarf dw resolve die lang)
      (drgnEnumTypeFromDwarf dw resolve' die lang) := by
  unfold drgnEnumTypeFromDwarf
  have hcompletable : dwarfTag dw.die die ∈ completableTags := by rw [htag]; decide
  refine L.bind_of (optionalAttr_rel L _ _ _ _) (fun _ _ _ hrun => (optionalAttr_eq_ok hrun).2.1)
    fun tag htagName => ?_
  split
  next declaration hdecl =>
    refine L.bind (findCompleteOfDeclaration_rel L _ _ _
      fun name e bias hd ht hent hfail => hres e true <| .definition hcompletable
        (hd ▸ hdecl) (ht ▸ htagName) (htag ▸ hent) (htag ▸ hfail)) fun r => ?_
    cases r with
    | some _ => exact L.pure _
    | none =>
      dsimp only
      split
      · exact L.createType_rel _
      have hdefinition : dwarfFlag dw.die die DwAt.declaration = some false := by
        rw [hdecl, Bool.eq_false_iff.mpr ‹¬declaration = true›]
      refine L.bind (parseEnumerators_rel L _ _ _) fun ⟨_, _⟩ => ?_
      split
      · exact L.otherError_rel _
      refine L.bind ?_ fun _ => L.createType_rel _
      split
      · exact L.otherError_rel _
      · unfold enumCompatibleTypeFallback
        dsimp only
        split
        · exact L.otherError_rel _
        · exact L.createType_rel _
      · refine L.bind (drgnTypeFromDwarf_rel L _ (hres _ _ (.compatible htag hdefinition ‹_›)))
          fun _ => ?_
        split
        · exact L.otherError_rel _
        · exact L.pure _
  next => exact L.otherError_rel _

theorem drgnTypedefTypeFromDwarf_rel (die : DieKey) (lang : Option Language) (f : Bool)
    (hres : ∀ attr e, dwarfAttrIntegrate dw.die die DwAt.type = some attr →
      dwarfFormrefDie attr = some e → L.Rel (resolve e f) (resolve' e f)) :
    L.Rel (drgnTypedefTypeFromDwarf dw resolve die lang f)
      (drgnTypedefTypeFromDwarf dw resolve' die lang f) := by
  unfold drgnTypedefTypeFromDwarf
  split
  · exact L.bind (drgnTypeFromDwarfChild_rel L _ _ _ _ _ hres) fun ⟨_, _⟩ =>
      L.bind (L.createType_rel _) fun _ => L.pure _
  · exact L.otherError_rel _

theorem drgnPointerTypeFromDwarf_rel (die : DieKey) (lang : Option Language)
    (hres : ∀ attr e, dwarfAttrIntegrate dw.die die DwAt.type = some attr →
      dwarfFormrefDie attr = some e → L.Rel (resolve e true) (resolve' e true)) :
    L.Rel (drgnPointerTypeFromDwarf dw resolve die lang)
      (drgnPointerTypeFromDwarf dw resolve' die lang) := by
  unfold drgnPointerTypeFromDwarf
  refine L.bind (drgnTypeFromDwarfChild_rel L _ _ _ _ _ hres) fun ⟨_, _⟩ => ?_
  refine L.bind (optionalAttr_rel L _ _ _ _) fun _ => L.bind ?_ fun _ => L.createType_rel _
  repeat' split
  all_goals first
    | exact L.pure _
    | exact L.returnError_rel ⟨nofun, nofun⟩

theorem arrayDimensions_rel (children : List DieKey) (dims : List ArrayDimension) :
    L.Rel (arrayDimensions dw children dims) (arrayDimensions dw children dims) := by
  induction children generalizing dims with
  | nil => exact L.pure _
  | cons child rest ih =>
    unfold arrayDimensions
    split
    · refine L.bind L.allocate fun ok => ?_
      repeat' split
      all_goals first
        | exact ih _
        | exact L.pure _
        | exact L.throw trivial
        | exact L.returnError_rel (subrangeLength_error_code ‹_›)
    · exact ih _

theorem arrayTypeLoop_rel (lang : Option Language) (f : Bool) (elementType : QualifiedType)
    (dim : ArrayDimension) (rest : List ArrayDimension) :
    L.Rel (arrayTypeLoop lang f elementType dim rest)
      (arrayTypeLoop lang f elementType dim rest) := by
  have hcreate :
      ∀ (elementType : QualifiedType) (dim : ArrayDimension) (rest : List ArrayDimension),
      L.Rel (if dim.isComplete then drgnArrayTypeCreate elementType dim.length lang
        else if !rest.isEmpty || !f then drgnArrayTypeCreate elementType 0 lang
        else drgnIncompleteArrayTypeCreate elementType lang)
        (if dim.isComplete then drgnArrayTypeCreate elementType dim.length lang
        else if !rest.isEmpty || !f then drgnArrayTypeCreate elementType 0 lang
        else drgnIncompleteArrayTypeCreate elementType lang) := by
    intro elementType dim rest
    repeat' split
    all_goals exact L.createType_rel _
  induction rest generalizing elementType dim with
  | nil => exact L.bind (hcreate _ _ _) fun _ => L.pure _
  | cons next rest ih => exact L.bind (hcreate _ _ _) fun _ => ih _ _

theorem drgnArrayTypeFromDwarf_rel (die : DieKey) (lang : Option Language) (f : Bool)
    (hres : ∀ attr e, dwarfAttrIntegrate dw.die die DwAt.type = some attr →
      dwarfFormrefDie attr = some e → L.Rel (resolve e false) (resolve' e false)) :
    L.Rel (drgnArrayTypeFromDwarf dw resolve die lang f)
      (drgnArrayTypeFromDwarf dw resolve' die lang f) := by
  unfold drgnArrayTypeFromDwarf
  refine L.bind (arrayDimensions_rel L _ _) fun dims => ?_
  cases dims with
  | none => exact L.pure _
  | some dims =>
    dsimp only
    split
    · exact L.otherError_rel _
    refine L.bind ?_ fun dims =>
      L.bind (drgnTypeFromDwarfChild_rel L _ _ _ _ _ hres) fun _ => ?_
    · repeat' split
      all_goals first
        | exact L.pure _
        | exact L.bind L.allocate fun _ => by
            split
            · exact L.pure _
            · exact L.throw trivial
    · split
      · exact L.bind (arrayTypeLoop_rel L _ _ _ _ _) fun _ => L.pure _
      · exact L.throw trivial

theorem parseParameters_rel (tagName : String) (children : List DieKey)
    (builder : List TypeParameter) (isVariadic : Bool) :
    L.Rel (parseParameters dw tagName children builder isVariadic)
      (parseParameters dw tagName children builder isVariadic) := by
  induction children generalizing builder isVariadic with
  | nil => exact L.pure _
  | cons child rest ih =>
    unfold parseParameters
    repeat' split
    all_goals first
      | exact L.otherError_rel _
      | exact ih _ _
      | skip
    unfold parseFormalParameter
    exact L.bind (L.bind (optionalAttr_rel L _ _ _ _) fun _ =>
      L.bind (drgnLazyTypeFromDwarf_rel L _ _ _) fun _ => L.builderAdd_rel _ _) fun _ => ih _ _

theorem drgnFunctionTypeFromDwarf_rel (die : DieKey) (lang : Option Language)
    (hres : ∀ attr e, dwarfAttrIntegrate dw.die die DwAt.type = some attr →
      dwarfFormrefDie attr = some e → L.Rel (resolve e true) (resolve' e true)) :
    L.Rel (drgnFunctionTypeFromDwarf dw resolve die lang)
      (drgnFunctionTypeFromDwarf dw resolve' die lang) := by
  unfold drgnFunctionTypeFromDwarf
  exact L.bind (parseParameters_rel L _ _ _ _) fun ⟨_, _⟩ => L.ite (fun _ => L.otherError_rel _)
    fun _ => L.bind (drgnTypeFromDwarfChild_rel L _ _ _ _ _ hres) fun ⟨_, _⟩ =>
      L.createType_rel _

theorem qualifiedTypeFromDwarf_rel (die : DieKey) (lang : Option Language) (tagName : String)
    (qualifier : Qualifiers)
    (hres : ∀ attr e, dwarfAttrIntegrate dw.die die DwAt.type = some attr →
      dwarfFormrefDie attr = some e → L.Rel (resolve e true) (resolve' e true)) :
    L.Rel (qualifiedTypeFromDwarf dw resolve die lang tagName qualifier)
      (qualifiedTypeFromDwarf dw resolve' die lang tagName qualifier) :=
  L.bind (drgnTypeFromDwarfChild_rel L _ _ _ _ _ hres) fun ⟨_, _⟩ => L.pure _

theorem unqualifiedTypeFromDwarf_rel {m m' : DrgnM DrgnType} (hm : L.Rel m m') :
    L.Rel (unqualifiedTypeFromDwarf m) (unqualifiedTypeFromDwarf m') :=
  L.bind hm fun _ => L.pure _

/-- **The switch is related when the resolvers are related on the DIE's call edges.** -/
theorem typeFromDwarfSwitch_rel (die : DieKey) (lang : Option Language) (f : Bool)
    (hres : ∀ e f, CallEdge dw die e → L.Rel (resolve e f) (resolve' e f)) :
    L.Rel (typeFromDwarfSwitch dw resolve die lang f)
      (typeFromDwarfSwitch dw resolve' die lang f) := by
  have hchild : dwarfTag dw.die die ∈ childTypeTags → ∀ f attr e,
      dwarfAttrIntegrate dw.die die DwAt.type = some attr → dwarfFormrefDie attr = some e →
      L.Rel (resolve e f) (resolve' e f) :=
    fun htag f _ _ hattr he => hres _ f (.child htag hattr he)
  have hcompound : ∀ kind, typeFindTag kind = some (dwarfTag dw.die die) →
      L.Rel (unqualifiedTypeFromDwarf (drgnCompoundTypeFromDwarf dw resolve die lang kind))
        (unqualifiedTypeFromDwarf (drgnCompoundTypeFromDwarf dw resolve' die lang kind)) :=
    fun kind htag =>
      unqualifiedTypeFromDwarf_rel L (drgnCompoundTypeFromDwarf_rel L _ _ _ htag hres)
  unfold typeFromDwarfSwitch
  refine L.ite (fun htag => qualifiedTypeFromDwarf_rel L _ _ _ _
    (hchild (by rw [htag]; decide) _)) fun _ => ?_
  refine L.ite (fun htag => qualifiedTypeFromDwarf_rel L _ _ _ _
    (hchild (by rw [htag]; decide) _)) fun _ => ?_
  refine L.ite (fun htag => qualifiedTypeFromDwarf_rel L _ _ _ _
    (hchild (by rw [htag]; decide) _)) fun _ => ?_
  refine L.ite (fun htag => qualifiedTypeFromDwarf_rel L _ _ _ _
    (hchild (by rw [htag]; decide) _)) fun _ => ?_
  refine L.ite (fun htag => unqualifiedTypeFromDwarf_rel L (drgnBaseTypeFromDwarf_rel L _ _
    fun e henc hty => hres e true (.complexReal htag henc hty))) fun _ => ?_
  refine L.ite (fun htag => hcompound .struct (by rw [htag]; rfl)) fun _ => ?_
  refine L.ite (fun htag => hcompound .union (by rw [htag]; rfl)) fun _ => ?_
  refine L.ite (fun htag => hcompound .«class» (by rw [htag]; rfl)) fun _ => ?_
  refine L.ite (fun htag => unqualifiedTypeFromDwarf_rel L
    (drgnEnumTypeFromDwarf_rel L _ _ htag hres)) fun _ => ?_
  refine L.ite (fun htag => L.bind (drgnTypedefTypeFromDwarf_rel L _ _ _
    (hchild (by rw [htag]; decide) _)) fun ⟨_, _⟩ => L.pure _) fun _ => ?_
  refine L.ite (fun htag => unqualifiedTypeFromDwarf_rel L (drgnPointerTypeFromDwarf_rel L _ _
    (hchild (by rw [htag]; decide) _))) fun _ => ?_
  refine L.ite (fun htag => L.bind (drgnArrayTypeFromDwarf_rel L _ _ _
    (hchild (by rw [htag]; decide) _)) fun r => ?_) fun _ => ?_
  · cases r with
    | some _ => exact L.pure _
    | none => exact L.throw trivial
  refine L.ite (fun htag => unqualifiedTypeFromDwarf_rel L (drgnFunctionTypeFromDwarf_rel L _ _
    (hchild (by rcases htag with htag | htag <;> rw [htag] <;> decide) _))) fun _ => ?_
  exact L.otherError_rel _

end Dispatchers

/-! ## Invariants of the cache -/

section Invariants

variable {dw : DwarfInfo} {resolve : Resolver} {I : DwarfInfoCache → Prop} {E : Fault → Prop}

theorem Keeps.mono {α : Type} {E' : Fault → Prop} {m : DrgnM α} (h : Keeps I E m)
    (hE : ∀ f, E f → E' f) : Keeps I E' m := fun s hs => by
  have h := h s hs
  revert h
  cases m s with
  | ok _ _ => exact id
  | error f _ => exact fun ⟨hf, hs'⟩ => ⟨hE f hf, hs'⟩

/-- `E`, and the `DRGN_ERROR_STOP` that `drgn_dwarf_info_cache_find_complete` returns to its
caller. -/
def OrStop (E : Fault → Prop) : Fault → Prop
  | .error err => E (.error err) ∨ err.code = .stop
  | f => E f

variable (h : Frame I E)
include h

namespace Frame

theorem allocate_keeps : Keeps I E allocate := by
  intro s hs
  unfold allocate
  split
  · exact hs
  · exact h.ignoresAllocations _ _ hs

theorem returnError_keeps {α : Type} {err : DrgnError} (hc : LocalFault (.error err)) :
    Keeps I E (returnError err : DrgnM α) :=
  .throw (h.allowsLocal _ hc)

theorem orStop : Frame I (OrStop E) :=
  ⟨h.ignoresAllocations, fun f hf => by
    cases f with
    | error err => exact .inl (h.allowsLocal _ hf)
    | _ => exact h.allowsLocal _ hf⟩

end Frame

/-- The lookup of a definition keeps what the resolver keeps, its own `DRGN_ERROR_STOP` apart. -/
theorem drgnDwarfInfoCacheFindComplete_keeps (tag : Nat) (name : String)
    (hres : ∀ e bias, (dw.index name [tag]).entries = [(e, bias)] →
      (dw.index name [tag]).failed = false → Keeps I E (resolve e true)) :
    Keeps I (OrStop E) (drgnDwarfInfoCacheFindComplete dw resolve tag name) := by
  have h' := h.orStop
  unfold drgnDwarfInfoCacheFindComplete
  dsimp only
  split
  next => exact .throw (by
    split <;> first | exact .inr rfl | exact .inl (h.allowsLocal _ ⟨nofun, nofun⟩))
  next e bias hentries =>
    split
    · exact h'.returnError_keeps ⟨nofun, nofun⟩
    · refine .bind (.bind ((hres e bias hentries (Bool.eq_false_iff.mpr ‹_›)).mono fun f hf => ?_)
        fun _ => .pure _) fun _ => .pure _
      cases f <;> first | exact .inl hf | exact hf
  next => exact .throw (.inr rfl)

/-- Turning `DRGN_ERROR_STOP` into "no definition" keeps what the lookup keeps. -/
theorem findCompleteOfDeclaration_keeps {dwTag : Nat} {name : String}
    (hres : ∀ e bias, (dw.index name [dwTag]).entries = [(e, bias)] →
      (dw.index name [dwTag]).failed = false → Keeps I E (resolve e true)) :
    Keeps I E (findCompleteOfDeclaration dw resolve true dwTag (some name)) := by
  intro s hs
  have hfind := drgnDwarfInfoCacheFindComplete_keeps h dwTag name hres s hs
  unfold findCompleteOfDeclaration
  dsimp only
  revert hfind
  cases drgnDwarfInfoCacheFindComplete dw resolve dwTag name s with
  | ok ty s' => exact id
  | error fault s' =>
    cases fault with
    | error err =>
      rintro ⟨hE, hs'⟩
      by_cases hstop : err.code = .stop
      · simpa [hstop, EndKeeps] using hs'
      · simpa [hstop, EndKeeps] using ⟨hE.resolve_right hstop, hs'⟩
    | _ => exact id

/-- **A `Frame` invariant is a `RunRel`**: the relation that ignores the second run. -/
def RunRel.keeps : RunRel where
  Rel m _ := Keeps I E m
  pure a := .pure a
  bind_of hx hP hf := .bind_of hx hP hf
  throw hf := .throw (h.allowsLocal _ hf)
  allocate := h.allocate_keeps
  findComplete hres := findCompleteOfDeclaration_keeps h hres

/-- **The switch keeps every `Frame` invariant the resolver keeps on the DIE's call edges.** -/
theorem typeFromDwarfSwitch_keeps (die : DieKey) (lang : Option Language) (f : Bool)
    (hres : ∀ e f, CallEdge dw die e → Keeps I E (resolve e f)) :
    Keeps I E (typeFromDwarfSwitch dw resolve die lang f) :=
  @typeFromDwarfSwitch_rel (RunRel.keeps h) _ _ resolve die lang f hres

end Invariants

end Drgn
