import DrgnDwarf.Kind

/-!
# DrgnDwarf — the object finder takes the first candidate the filename accepts

`drgn_dwarf_object_find` asks the name index for the tags its flags select and switches on the
tag of the first candidate `die_matches_filename` accepts: an enumeration (the index files an
enumerator under its enumeration type), a subprogram or a variable. Unlike the type finder it
materializes nothing before that candidate and never goes past it, even when its builder fails;
and its `default: UNREACHABLE()` is dead as long as the index keeps to the tags it was asked for.

* **`ObjectIndexTagged`** — what the index promises for the object tags.
* **`BuildsAccepted`** — the builder the switch runs for a candidate, of a kind the flags ask for.
* **`objectFindLoop_first`** — the candidate loop either finds no candidate the filename accepts
  and is the iterator's error or `&drgn_not_found`, leaving the cache alone, or it is the builder
  of the first accepted candidate, run from the cache it was given.
* **`objectSetValue_eq_ok`, `drgnObjectSetReference_eq_ok`** — a setter that returns passed the
  object layer's checks and set the object it was given.
* **`drgnDwarfObjectFind_kind`** — so a lookup of functions returns a reference of function type,
  and a lookup of constants an object of enumeration type.
-/

namespace Drgn

/-- The tag of the DIEs the name index files under the object tag `tag`: an enumerator's name is
filed under its enumeration type, the other names under their own DIEs. -/
def objectDieTag (tag : Nat) : Nat :=
  if tag = DwTag.enumerator then DwTag.enumerationType else tag

/-- **The name index yields, for the tags of a flag word, DIEs of one of those tags**, an
enumerator as its enumeration. -/
def ObjectIndexTagged (dw : DwarfInfo) : Prop :=
  ∀ name flags e bias, (e, bias) ∈ (dw.index name (objectFindTags flags)).entries →
    ∃ tag ∈ objectFindTags flags, dwarfTag dw.die e = objectDieTag tag

/-- The tags a flag word selects: `DW_TAG_enumerator` for constants, `DW_TAG_subprogram` for
functions, `DW_TAG_variable` for variables. -/
theorem mem_objectFindTags {flags tag : Nat} (h : tag ∈ objectFindTags flags) :
    (flags &&& FindObject.constant ≠ 0 ∧ tag = DwTag.enumerator) ∨
    (flags &&& FindObject.function ≠ 0 ∧ tag = DwTag.subprogram) ∨
    (flags &&& FindObject.var ≠ 0 ∧ tag = DwTag.var) := by
  unfold objectFindTags at h
  simp only [List.mem_append] at h
  rcases h with (h | h) | h <;> split at h <;> simp_all

/-- What the object finder runs for the accepted candidate `(die, bias)`: the builder of the
DIE's tag, for a kind the flags ask for. -/
def BuildsAccepted (dw : DwarfInfo) (name : String) (flags : Nat) (die : DieKey) (bias : UInt64)
    (m : DrgnM DrgnObject) : Prop :=
  (flags &&& FindObject.constant ≠ 0 ∧ dwarfTag dw.die die = DwTag.enumerationType ∧
      m = drgnObjectFromDwarfEnumerator dw die name) ∨
    (flags &&& FindObject.function ≠ 0 ∧ dwarfTag dw.die die = DwTag.subprogram ∧
      m = drgnObjectFromDwarfSubprogram dw die bias name) ∨
    (flags &&& FindObject.var ≠ 0 ∧ dwarfTag dw.die die = DwTag.var ∧
      m = drgnObjectFromDwarfVariable dw die bias name)

section Finder

variable {dw : DwarfInfo} {name : String} {filename : Option String} {flags : Nat}

/-- The switch on an accepted candidate filed under a tag of the flags runs that tag's builder. -/
theorem objectFindLoop_accepted {die : DieKey} {bias : UInt64} {tag : Nat}
    (htag : tag ∈ objectFindTags flags) (hdie : dwarfTag dw.die die = objectDieTag tag)
    (hmatch : dw.dieMatchesFilename die filename = true) (rest : List (DieKey × UInt64))
    (failed : Bool) :
    BuildsAccepted dw name flags die bias
      (objectFindLoop dw name filename ((die, bias) :: rest) failed) := by
  rcases mem_objectFindTags htag with ⟨hf, rfl⟩ | ⟨hf, rfl⟩ | ⟨hf, rfl⟩
  · exact .inl ⟨hf, hdie, by simp [objectFindLoop, hmatch, hdie, objectDieTag]⟩
  · refine .inr (.inl ⟨hf, hdie, ?_⟩)
    simp [objectFindLoop, hmatch, hdie, objectDieTag, DwTag.subprogram, DwTag.enumerator,
      DwTag.enumerationType]
  · refine .inr (.inr ⟨hf, hdie, ?_⟩)
    simp [objectFindLoop, hmatch, hdie, objectDieTag, DwTag.var, DwTag.subprogram,
      DwTag.enumerator, DwTag.enumerationType]

/-- The candidate loop: no candidate accepted, or the first accepted one decides. -/
theorem objectFindLoop_first (cands : List (DieKey × UInt64)) (failed : Bool)
    (hcands : ∀ c ∈ cands, ∃ tag ∈ objectFindTags flags, dwarfTag dw.die c.1 = objectDieTag tag) :
    (∀ c ∈ cands, dw.dieMatchesFilename c.1 filename = false) ∧
      objectFindLoop dw name filename cands failed =
        returnError (if failed then libdwError else drgnNotFound) ∨
    ∃ pre die bias post, cands = pre ++ (die, bias) :: post ∧
      (∀ c ∈ pre, dw.dieMatchesFilename c.1 filename = false) ∧
      dw.dieMatchesFilename die filename = true ∧
      BuildsAccepted dw name flags die bias (objectFindLoop dw name filename cands failed) := by
  induction cands with
  | nil => exact .inl ⟨nofun, rfl⟩
  | cons c rest ih =>
    obtain ⟨die, bias⟩ := c
    cases hmatch : dw.dieMatchesFilename die filename
    · have hskip : objectFindLoop dw name filename ((die, bias) :: rest) failed =
          objectFindLoop dw name filename rest failed := by
        simp [objectFindLoop, hmatch]
      rw [hskip]
      rcases ih fun c hc => hcands c (List.mem_cons_of_mem _ hc) with
        ⟨hall, hrun⟩ | ⟨pre, d, b, post, rfl, hpre, hd, hb⟩
      · exact .inl ⟨List.forall_mem_cons.mpr ⟨hmatch, hall⟩, hrun⟩
      · exact .inr ⟨(die, bias) :: pre, d, b, post, rfl,
          List.forall_mem_cons.mpr ⟨hmatch, hpre⟩, hd, hb⟩
    · obtain ⟨tag, htag, hdie⟩ := hcands _ (List.mem_cons_self _ _)
      exact .inr ⟨[], die, bias, rest, rfl, nofun, hmatch,
        objectFindLoop_accepted htag hdie hmatch rest failed⟩

end Finder

/-! ## Functions and constants have the types their DIEs name -/

/-- The type of an object (`obj->type`). -/
def DrgnObject.type : DrgnObject → QualifiedType
  | .reference t .. | .signed t _ | .unsigned t _ | .buffer t .. => t

section Kinds

variable {dw : DwarfInfo} {die : DieKey} {name : String} {s s' : DwarfInfoCache}
  {o : DrgnObject}

/-- **A value setter that returns sets the value it was given**, from an object layer that takes
the type and gives it the kind the setter sets, and leaves the cache alone. -/
theorem objectSetValue_eq_ok {kind : ObjectKind} {message : String} {qt : QualifiedType}
    {value : DrgnObject} (hrun : objectSetValue dw kind message qt value s = .ok o s') :
    s' = s ∧ o = value ∧ ∃ common, dw.objectSetCommon qt = .ok common ∧ common.kind = kind := by
  unfold objectSetValue at hrun
  cases hc : dw.objectSetCommon qt with
  | error err => simp only [hc] at hrun; cases hrun
  | ok common =>
    simp only [hc] at hrun
    split at hrun
    · cases hrun
      exact ⟨rfl, rfl, common, rfl, ‹_›⟩
    · cases hrun

/-- **A reference setter that returns sets the reference it was given**, from an object layer
that takes the type, and leaves the cache alone. -/
theorem drgnObjectSetReference_eq_ok {qt : QualifiedType} {address : UInt64}
    {byteOrder : ByteOrder} (hrun : drgnObjectSetReference dw qt address byteOrder s = .ok o s') :
    s' = s ∧ o = .reference qt address byteOrder ∧
      ∃ common, dw.objectSetCommon qt = .ok common := by
  unfold drgnObjectSetReference at hrun
  cases hc : dw.objectSetCommon qt with
  | error err => simp only [hc] at hrun; cases hrun
  | ok common =>
    simp only [hc] at hrun
    cases hrun
    exact ⟨rfl, rfl, common, rfl⟩

/-- A function object is a reference of the type its DIE materializes to. -/
theorem drgnObjectFromDwarfSubprogram_eq_ok {bias : UInt64}
    (hrun : drgnObjectFromDwarfSubprogram dw die bias name s = .ok o s') :
    ∃ qt address byteOrder, drgnTypeFromDwarf (drgnTypeFromDwarfInternal dw) die s = .ok qt s' ∧
      o = .reference qt address byteOrder := by
  obtain ⟨qt, s₁, hqt, hrun⟩ := bind_eq_ok hrun
  cases hlow : dwarfLowpc dw.die die with
  | none => simp only [hlow] at hrun; cases hrun
  | some lowPc =>
    cases hbo : dwarfDieByteOrder dw die false with
    | error e => simp only [hlow, hbo] at hrun; cases hrun
    | ok byteOrder =>
      simp only [hlow, hbo] at hrun
      obtain ⟨rfl, rfl, -⟩ := drgnObjectSetReference_eq_ok hrun
      exact ⟨qt, _, _, hqt, rfl⟩

/-- An enumerator constant has the type its enumeration DIE materializes to. -/
theorem drgnObjectFromDwarfEnumerator_eq_ok
    (hrun : drgnObjectFromDwarfEnumerator dw die name s = .ok o s') :
    ∃ qt, drgnTypeFromDwarf (drgnTypeFromDwarfInternal dw) die s = .ok qt s' ∧ o.type = qt := by
  obtain ⟨qt, s₁, hqt, hrun⟩ := bind_eq_ok hrun
  cases hfind : qt.type.enumerators.find? (·.name == name) with
  | none => simp only [hfind] at hrun; cases hrun
  | some e =>
    simp only [hfind] at hrun
    split at hrun <;> obtain ⟨rfl, rfl, -⟩ := objectSetValue_eq_ok hrun <;> exact ⟨qt, hqt, rfl⟩

variable (hidx : IndexTagged dw) (hobj : ObjectIndexTagged dw)
include hidx hobj

/-- **A function lookup returns a function, a constant lookup an enumeration constant.** With a
name index that keeps to the tags it is asked for, from every reachable cache, a
`drgn_dwarf_object_find` that asks only for functions and returns gives a reference object of
function type, and one that asks only for constants gives an object of enumeration type: the
switch takes the subprogram or the enumeration candidate, and the cache hands out for such a DIE
a type of the kind it names. -/
theorem drgnDwarfObjectFind_kind {filename : Option String} {flags : Nat}
    (hs : Reachable dw s) (hrun : drgnDwarfObjectFind dw name filename flags s = .ok o s') :
    (flags = FindObject.function →
      o.type.type.kind = .function ∧ ∃ address byteOrder, o = .reference o.type address byteOrder) ∧
    (flags = FindObject.constant → o.type.type.kind = .enum) := by
  have hkind := (drgnTypeFromDwarfInternal_obeys (switchTransfers_kind hidx) hs).2
  have htype : ∀ {die qt s'}, drgnTypeFromDwarf (drgnTypeFromDwarfInternal dw) die s = .ok qt s' →
      KindOK dw die qt.type := fun hqt => by
    obtain ⟨_, _, hint, hpure⟩ := bind_eq_ok hqt
    cases hpure
    exact hkind _ true _ _ hint
  rcases objectFindLoop_first _ _ fun c hc => hobj name flags c.1 c.2 hc with
    ⟨-, herr⟩ | ⟨-, die, bias, -, -, -, -, hb⟩
  · rw [drgnDwarfObjectFind, herr] at hrun
    cases hrun
  refine ⟨fun hf => ?_, fun hf => ?_⟩ <;> subst hf
  · rcases hb with ⟨hc, -⟩ | ⟨-, hdie, hm⟩ | ⟨hv, -⟩
    · exact absurd rfl hc
    · rw [drgnDwarfObjectFind, hm] at hrun
      obtain ⟨qt, address, byteOrder, hqt, rfl⟩ := drgnObjectFromDwarfSubprogram_eq_ok hrun
      exact ⟨htype hqt _ (by rw [dieKind, hdie]; rfl), address, byteOrder, rfl⟩
    · exact absurd rfl hv
  · rcases hb with ⟨-, hdie, hm⟩ | ⟨hfn, -⟩ | ⟨hv, -⟩
    · rw [drgnDwarfObjectFind, hm] at hrun
      obtain ⟨qt, hqt, rfl⟩ := drgnObjectFromDwarfEnumerator_eq_ok hrun
      exact htype hqt _ (by rw [dieKind, hdie]; rfl)
    · exact absurd rfl hfn
    · exact absurd rfl hv

end Kinds

/-! ## An enumeration, a function and a variable, indexed by tag -/

/-- The DIEs of the program: `enum E { A = 1 }`, `void f(void)` at `0x1000` and `int v` at
`0x2000`. -/
def objectDie : DieKey → Die
  | 1 => { tag := DwTag.enumerationType, children := [2],
           attributes := [⟨DwAt.name, .string "E"⟩, ⟨DwAt.byteSize, .data 4⟩] }
  | 2 => { tag := DwTag.enumerator,
           attributes := [⟨DwAt.name, .string "A"⟩, ⟨DwAt.constValue, .data 1⟩] }
  | 3 => { tag := DwTag.subprogram,
           attributes := [⟨DwAt.name, .string "f"⟩, ⟨DwAt.lowPc, .addr 0x1000⟩] }
  | 4 => { tag := DwTag.var,
           attributes := [⟨DwAt.name, .string "v"⟩, ⟨DwAt.type, .ref 5⟩,
             ⟨DwAt.location, .exprloc [⟨dwOpAddr, 0x2000⟩]⟩] }
  | 5 => { tag := DwTag.baseType,
           attributes := [⟨DwAt.name, .string "int"⟩, ⟨DwAt.encoding, .data 5⟩,
             ⟨DwAt.byteSize, .data 4⟩] }
  | _ => { tag := 0 }

/-- The names the index knows, each with the tag it is filed under and its DIE. -/
def objectIndexEntries : List (String × Nat × DieKey) :=
  [("A", DwTag.enumerator, 1), ("f", DwTag.subprogram, 3), ("v", DwTag.var, 4)]

/-- The program, its index filtering `objectIndexEntries` by name and tag, over the example
object layer. -/
def objectDwarf : DwarfInfo where
  die := objectDie
  index name tags :=
    ⟨(objectIndexEntries.filter fun x => x.1 = name ∧ x.2.1 ∈ tags).map fun x => (x.2.2, 0), false⟩
  dieMatchesFilename _ _ := true
  wordSize := some 8
  objectSetCommon qt := .ok (exampleObjectCommon qt.type)

theorem objectDwarf_indexTagged : ObjectIndexTagged objectDwarf := by
  intro name flags e bias h
  simp only [objectDwarf, List.mem_map, List.mem_filter, decide_eq_true_eq, Prod.mk.injEq] at h
  obtain ⟨⟨n, tag, d⟩, ⟨hmem, -, htag⟩, rfl, -⟩ := h
  refine ⟨tag, htag, ?_⟩
  simp only [objectIndexEntries, List.mem_cons, Prod.mk.injEq, List.not_mem_nil, or_false] at hmem
  rcases hmem with ⟨-, rfl, rfl⟩ | ⟨-, rfl, rfl⟩ | ⟨-, rfl, rfl⟩ <;> rfl

/-- No type tag is filed in `objectDwarf`. -/
theorem objectDwarf_typeIndexTagged : IndexTagged objectDwarf := by
  intro name tag e bias htag h
  simp only [objectDwarf, List.mem_map, List.mem_filter, decide_eq_true_eq,
    List.mem_singleton] at h
  obtain ⟨⟨n, t, d⟩, ⟨hmem, -, rfl⟩, -⟩ := h
  simp only [objectIndexEntries, List.mem_cons, Prod.mk.injEq, List.not_mem_nil, or_false] at hmem
  rcases hmem with ⟨-, rfl, -⟩ | ⟨-, rfl, -⟩ | ⟨-, rfl, -⟩ <;> simp only at htag <;>
    exact absurd htag (by decide)

/-- In `objectDwarf`, from a new cache, the lookup of the function `f` returns a function. -/
theorem objectDwarf_function_kind :
    ∃ o s', IndexTagged objectDwarf ∧ ObjectIndexTagged objectDwarf ∧
      Reachable objectDwarf (drgnDwarfInfoCacheCreate []) ∧
      drgnDwarfObjectFind objectDwarf "f" none FindObject.function (drgnDwarfInfoCacheCreate []) =
        .ok o s' ∧
      ((FindObject.function = FindObject.function → o.type.type.kind = .function ∧
          ∃ address byteOrder, o = .reference o.type address byteOrder) ∧
        (FindObject.function = FindObject.constant → o.type.type.kind = .enum)) := by
  obtain ⟨o, s', hrun⟩ : ∃ o s', drgnDwarfObjectFind objectDwarf "f" none FindObject.function
      (drgnDwarfInfoCacheCreate []) = .ok o s' := ⟨_, _, rfl⟩
  exact ⟨o, s', objectDwarf_typeIndexTagged, objectDwarf_indexTagged, .create [], hrun,
    drgnDwarfObjectFind_kind objectDwarf_typeIndexTagged objectDwarf_indexTagged (.create []) hrun⟩

end Drgn
