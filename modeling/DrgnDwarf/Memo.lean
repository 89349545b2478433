import DrgnDwarf.Depth

/-!
# DrgnDwarf — what the two memo maps answer, and where they go wrong

`drgn_type_from_dwarf_internal` answers a `(DIE, can_be_incomplete_array)` request from
`dicache->map`, or from `cant_be_incomplete_array_map` after a primary hit of an incomplete array
that the caller cannot take; on a miss it materializes and inserts.

* **`drgnTypeFromDwarfInternal_hit`** — a hit returns the stored type and qualifiers, leaves the
  cache unchanged, and writes nothing through `is_incomplete_array_ret`.
* **`Reaches.memoExtends`** — the maps only grow: every call appends entries and removes none. So
  an answer, once the maps give it, is given for good (`searchMemo_of_memoExtends`).
* **`materialize_eq_ok`** — a miss that returns ran the tag switch one level deeper and inserted
  its result under the DIE, into the map the flag and the result select.
* Against these, three runs of one program with a GCC zero-length array (`zeroLengthDwarf`): a
  typedef's result depends on what was resolved before (`typedef_result_depends_on_history`), a
  qualifier around a typedef of the array hands back an incomplete array to a caller that cannot
  take one (`const_typedef_member_incomplete`), and an entry that only the restricted map holds is
  never found, so the array is materialized and inserted again (`zeroLength_rematerialized`).
-/

namespace Drgn

/-! ## A hit -/

section Hit

variable (dw : DwarfInfo)

theorem typeFromDwarfInternalAux_hit (fuel : Nat) {s : DwarfInfoCache} {die : DieKey} {f : Bool}
    {v : DwarfTypeMapValue} (hdepth : s.depth < 1000) (hv : searchMemo s die f = some v) :
    typeFromDwarfInternalAux dw fuel die f s = .ok (⟨v.type, v.qualifiers⟩, none) s := by
  cases fuel <;> simp [typeFromDwarfInternalAux, lookupMemo, hv, Nat.not_le.mpr hdepth]

/-- **A hit returns the stored type and writes nothing.** Below depth 1000, a request the maps
answer returns the stored type and qualifiers, leaves the cache as it was, and writes nothing
through `is_incomplete_array_ret`. -/
theorem drgnTypeFromDwarfInternal_hit {s : DwarfInfoCache} {die : DieKey} {f : Bool}
    {v : DwarfTypeMapValue} (hdepth : s.depth < 1000) (hv : searchMemo s die f = some v) :
    drgnTypeFromDwarfInternal dw die f s = .ok (⟨v.type, v.qualifiers⟩, none) s :=
  typeFromDwarfInternalAux_hit dw _ hdepth hv

end Hit

/-! ## The maps only grow -/

/-- The maps of `t` are those of `s` with entries appended. -/
def MemoExtends (s t : DwarfInfoCache) : Prop :=
  s.map.entries <+: t.map.entries ∧
    s.cantBeIncompleteArrayMap.entries <+: t.cantBeIncompleteArrayMap.entries

theorem DwarfTypeMap.search_of_prefix {m m' : DwarfTypeMap} (h : m.entries <+: m'.entries)
    {key : DieKey} {v : DwarfTypeMapValue} (hv : m.search key = some v) :
    m'.search key = some v := by
  obtain ⟨l, hl⟩ := h
  unfold DwarfTypeMap.search at hv ⊢
  rw [← hl, List.find?_append]
  cases hfind : m.entries.find? (·.key == key) with
  | none => simp [hfind] at hv
  | some e => simpa [hfind] using hv

/-- An answer of the maps stays their answer. -/
theorem searchMemo_of_memoExtends {s t : DwarfInfoCache} (h : MemoExtends s t) {die : DieKey}
    {f : Bool} {v : DwarfTypeMapValue} (hv : searchMemo s die f = some v) :
    searchMemo t die f = some v := by
  unfold searchMemo at hv ⊢
  cases hs : s.map.search die with
  | none => simp [hs] at hv
  | some v₀ =>
    simp only [hs] at hv
    simp only [DwarfTypeMap.search_of_prefix h.1 hs]
    split at hv
    · rw [if_pos ‹_›]
      exact DwarfTypeMap.search_of_prefix h.2 hv
    · rwa [if_neg ‹_›]

theorem memoExtends_insertMemo {s₀ s : DwarfInfoCache} (h : MemoExtends s₀ s) (f : Bool)
    (entry : DwarfTypeMapEntry) : MemoExtends s₀ (insertMemo s f entry) := by
  unfold insertMemo
  split
  · exact ⟨h.1, h.2.trans (List.prefix_append _ _)⟩
  · exact ⟨h.1.trans (List.prefix_append _ _), h.2⟩

/-- Every call only appends to the maps. -/
theorem typeFromDwarfInternalAux_memoExtends (dw : DwarfInfo) (s₀ : DwarfInfoCache) (fuel : Nat)
    (die : DieKey) (f : Bool) :
    Keeps (MemoExtends s₀) (fun _ => True) (typeFromDwarfInternalAux dw fuel die f) := by
  have h : Frame (MemoExtends s₀) fun _ => True := ⟨fun _ _ hs => hs, fun _ _ => trivial⟩
  induction fuel generalizing die f with
  | zero => exact lookupMemo_keeps (fun s hs _ => Keeps.throw trivial s hs) fun _ _ _ => trivial
  | succ fuel ih =>
    have hmiss : Keeps (MemoExtends s₀) (fun _ => True)
        (materialize dw (typeFromDwarfInternalAux dw fuel) die f) :=
      materialize_keeps h h (fun _ hs => hs) (fun _ hs => hs)
        (fun _ _ hs => memoExtends_insertMemo hs _ _) fun e f' _ => ih e f'
    exact lookupMemo_keeps (fun s hs _ => hmiss s hs) fun _ _ _ => trivial

/-- The caches a sequence of calls leads to from `s`. -/
inductive Reaches (dw : DwarfInfo) (s : DwarfInfoCache) : DwarfInfoCache → Prop
  | refl : Reaches dw s s
  | call {t : DwarfInfoCache} (c : CacheCall) :
      Reaches dw s t → Reaches dw s (finalState (c.run dw t))

/-- **The maps only grow** along every sequence of calls. -/
theorem Reaches.memoExtends {dw : DwarfInfo} {s t : DwarfInfoCache} (h : Reaches dw s t) :
    MemoExtends s t := by
  induction h with
  | refl => exact ⟨List.prefix_refl _, List.prefix_refl _⟩
  | call c _ ih =>
    exact (CacheCall.run_keeps (fun _ _ hs => hs)
      (fun die f t ht => typeFromDwarfInternalAux_memoExtends dw s (1000 - t.depth) die f t ht)
      c _ ih).finalState

theorem Reachable.reaches {dw : DwarfInfo} {s t : DwarfInfoCache} (hs : Reachable dw s)
    (h : Reaches dw s t) : Reachable dw t := by
  induction h with
  | refl => exact hs
  | call c _ ih => exact .call c ih

/-! ## What a miss does -/

section Materialize

variable {dw : DwarfInfo}

/-- An allocation changes only the allocator's outcomes. -/
theorem allocate_eq_ok {s s' : DwarfInfoCache} {b : Bool} (h : allocate s = .ok b s') :
    s' = { s with failingAllocations := s'.failingAllocations } := by
  revert h
  unfold allocate
  cases s.failingAllocations <;> rintro ⟨⟩ <;> rfl

/-- A materialization that returns ran the switch one level deeper from the cache it was given,
inserted the switch's result under the DIE, into the map the flag and the result's
`is_incomplete_array` select, and reports that `is_incomplete_array`. -/
theorem materialize_eq_ok {resolve : Resolver} {die : DieKey} {f : Bool} {s s' : DwarfInfoCache}
    {r : QualifiedType × Option Bool} (hrun : materialize dw resolve die f s = .ok r s') :
    ∃ lang qt iia s₁ l,
      withDepth (typeFromDwarfSwitch dw resolve die lang f) s = .ok (qt, iia) s₁ ∧
      s' = insertMemo { s₁ with failingAllocations := l } f ⟨die, qt.type, qt.qualifiers, iia⟩ ∧
      r = (qt, some iia) := by
  unfold materialize at hrun
  obtain ⟨lang, s₀, hl, hsw⟩ := bind_eq_ok hrun
  obtain rfl : s₀ = s := drgnLanguageFromDie_eq_ok hl
  obtain ⟨⟨qt, iia⟩, s₁, hw, hins⟩ := bind_eq_ok hsw
  obtain ⟨ok, s₂, halloc, hins⟩ := bind_eq_ok hins
  cases ok
  · cases hins
  · obtain ⟨_, s₃, hmodify, hins⟩ := bind_eq_ok hins
    cases hmodify
    cases hins
    exact ⟨lang, qt, iia, s₁, _, hw, by rw [← allocate_eq_ok halloc], rfl⟩

end Materialize

/-! ## An object layer for the example programs -/

/-- The object kind and bit size that `drgn_object_set_common` (object.c) derives from a type, for
the example programs: integers, booleans, pointers and enumerations hold integers of their size,
signed as the type (or the enumeration's compatible type) is; floating-point types hold floats;
complex, compound and array types hold a buffer; a typedef holds what its aliased type holds; void,
functions and incomplete types hold no value. -/
def exampleObjectCommon : DrgnType → ObjectCommon
  | .int _ size isSigned _ => ⟨if isSigned then .signed else .unsigned, 8 * size⟩
  | .bool _ size _ | .pointer _ _ size _ => ⟨.unsigned, 8 * size⟩
  | .float _ size _ => ⟨.float, 8 * size⟩
  | .complex _ size .. | .compound _ _ size .. => ⟨.buffer, 8 * size⟩
  | .array elementType _ length _ => ⟨.buffer, length * (exampleObjectCommon elementType).bitSize⟩
  | .enum _ compatibleType .. | .typedef _ compatibleType .. => exampleObjectCommon compatibleType
  | _ => ⟨.incomplete, 0⟩

/-! ## A program with a zero-length array

`typedef int T[0]; union U { T a; }; struct S { const T a; int b; }; int (*p)[0];` as GCC before
9.0 describes it: the array type's subrange has no bound, as an incomplete array's would. Its
length is 0 wherever C allows no incomplete array: in a union member, in a structure member other
than the last, in an array element. -/

/-- The DIEs of the program. -/
def zeroLengthDie : DieKey → Die
  | 1 => { tag := DwTag.baseType,
           attributes := [⟨DwAt.name, .string "int"⟩, ⟨DwAt.encoding, .data 5⟩,
             ⟨DwAt.byteSize, .data 4⟩] }
  | 2 => { tag := DwTag.arrayType, attributes := [⟨DwAt.type, .ref 1⟩], children := [3] }
  | 3 => { tag := DwTag.subrangeType }
  | 4 => { tag := DwTag.typedef, attributes := [⟨DwAt.name, .string "T"⟩, ⟨DwAt.type, .ref 2⟩] }
  | 5 => { tag := DwTag.unionType, children := [6],
           attributes := [⟨DwAt.name, .string "U"⟩, ⟨DwAt.byteSize, .data 0⟩] }
  | 6 => { tag := DwTag.member,
           attributes := [⟨DwAt.name, .string "a"⟩, ⟨DwAt.type, .ref 4⟩,
             ⟨DwAt.dataMemberLocation, .data 0⟩] }
  | 7 => { tag := DwTag.structureType, children := [8, 10],
           attributes := [⟨DwAt.name, .string "S"⟩, ⟨DwAt.byteSize, .data 4⟩] }
  | 8 => { tag := DwTag.member,
           attributes := [⟨DwAt.name, .string "a"⟩, ⟨DwAt.type, .ref 9⟩,
             ⟨DwAt.dataMemberLocation, .data 0⟩] }
  | 9 => { tag := DwTag.constType, attributes := [⟨DwAt.type, .ref 4⟩] }
  | 10 => { tag := DwTag.member,
            attributes := [⟨DwAt.name, .string "b"⟩, ⟨DwAt.type, .ref 1⟩,
              ⟨DwAt.dataMemberLocation, .data 0⟩] }
  | 11 => { tag := DwTag.pointerType,
            attributes := [⟨DwAt.type, .ref 2⟩, ⟨DwAt.byteSize, .data 8⟩] }
  | 12 => { tag := DwTag.var,
            attributes := [⟨DwAt.name, .string "p"⟩, ⟨DwAt.type, .ref 11⟩,
              ⟨DwAt.location, .exprloc [⟨dwOpAddr, 0x1000⟩]⟩] }
  | _ => { tag := 0 }

/-- The program, with its four names indexed, over the example object layer. -/
def zeroLengthDwarf : DwarfInfo where
  die := zeroLengthDie
  index name _ :=
    if name = "T" then ⟨[(4, 0)], false⟩ else if name = "U" then ⟨[(5, 0)], false⟩
    else if name = "S" then ⟨[(7, 0)], false⟩ else if name = "p" then ⟨[(12, 0)], false⟩
    else ⟨[], false⟩
  dieMatchesFilename _ _ := true
  wordSize := some 8
  objectSetCommon qt := .ok (exampleObjectCommon qt.type)

/-- `int`, as the program's base type materializes. -/
def zeroLengthInt : DrgnType := .int "int" 4 true (some .c)

/-- The typedef `T` of the program, as it materializes over `aliased`. -/
def typedefT (aliased : DrgnType) : DrgnType :=
  DrgnType.typedef "T" aliased 0 (some .c)

/-- **The result for a typedef depends on what was resolved before.** The member `a` of `union U`
is the thunk `(T, false)`. Evaluated after `p` was looked up, the thunk gives `T` as a typedef of
an incomplete array: resolving `p` cached the array as incomplete, and the later lookup of `T`
hit it, was told nothing about `is_incomplete_array`, and stored `T` as no incomplete array, where
the restricted map is never asked. Without the lookup of `p`, and in the memo-free evaluation,
the thunk gives a typedef of an array of length 0. -/
theorem typedef_result_depends_on_history :
    let withPointer := runCalls zeroLengthDwarf [.objectFind "p" none FindObject.var,
      .typeFind TypeKind.typedef "T" none, .typeFind .union "U" none] (drgnDwarfInfoCacheCreate [])
    let withoutPointer := runCalls zeroLengthDwarf [.typeFind TypeKind.typedef "T" none,
      .typeFind .union "U" none] (drgnDwarfInfoCacheCreate [])
    Reachable zeroLengthDwarf withPointer ∧ Reachable zeroLengthDwarf withoutPointer ∧
    (∃ s', drgnDwarfTypeFind zeroLengthDwarf .union "U" none (drgnDwarfInfoCacheCreate []) =
      .ok ⟨.compound .union (some "U") 0 [.mk (.thunk 4 false) (some "a") 0 0] (some .c), 0⟩ s') ∧
    (∃ s', drgnTypeFromDwarfInternal zeroLengthDwarf 4 false withPointer =
      .ok (⟨typedefT (.incompleteArray zeroLengthInt 0 (some .c)), 0⟩, none) s') ∧
    (∃ s', drgnTypeFromDwarfInternal zeroLengthDwarf 4 false withoutPointer =
      .ok (⟨typedefT (.array zeroLengthInt 0 0 (some .c)), 0⟩, some true) s') ∧
    ∀ n, ∃ s', typeFromDwarfMemoFree zeroLengthDwarf (n + 3) 4 false withPointer =
      .ok (⟨typedefT (.array zeroLengthInt 0 0 (some .c)), 0⟩, some true) s' :=
  ⟨.runCalls (.create []) _, .runCalls (.create []) _, ⟨_, rfl⟩, ⟨_, rfl⟩, ⟨_, rfl⟩,
    fun _ => ⟨_, rfl⟩⟩

/-- **A qualifier around a typedef of the array hands back an incomplete array.** The member `a`
of `struct S` is not the last, so its thunk is `(const T, false)`; yet its evaluation, memoized or
not, is a `const` typedef of an incomplete array: the `const` case resolves its `DW_AT_type` with
`can_be_incomplete_array = true`, where the typedef case passes the flag on. -/
theorem const_typedef_member_incomplete :
    let afterS :=
      runCalls zeroLengthDwarf [.typeFind .struct "S" none] (drgnDwarfInfoCacheCreate [])
    Reachable zeroLengthDwarf afterS ∧
    (∃ s', drgnDwarfTypeFind zeroLengthDwarf .struct "S" none (drgnDwarfInfoCacheCreate []) =
      .ok ⟨.compound .struct (some "S") 4 [.mk (.thunk 9 false) (some "a") 0 0,
        .mk (.thunk 1 true) (some "b") 0 0] (some .c), 0⟩ s') ∧
    (∃ s', drgnTypeFromDwarfInternal zeroLengthDwarf 9 false afterS =
      .ok (⟨typedefT (.incompleteArray zeroLengthInt 0 (some .c)),
        Qualifier.const⟩, some false) s') ∧
    ∀ n, ∃ s', typeFromDwarfMemoFree zeroLengthDwarf (n + 4) 9 false afterS =
      .ok (⟨typedefT (.incompleteArray zeroLengthInt 0 (some .c)),
        Qualifier.const⟩, some false) s' :=
  ⟨.runCalls (.create []) _, ⟨_, rfl⟩, ⟨_, rfl⟩, fun _ => ⟨_, rfl⟩⟩

/-- **An entry only the restricted map holds is never found.** Resolving the array with
`can_be_incomplete_array = false` stores its length-0 version in `cant_be_incomplete_array_map`
only; `dicache->map` has no entry for it, so the same request is a miss again at depth 0: it
materializes the array anew and inserts the key the restricted map already holds. -/
theorem zeroLength_rematerialized :
    let once :=
      runCalls zeroLengthDwarf [.typeFromDwarfInternal 2 false] (drgnDwarfInfoCacheCreate [])
    Reachable zeroLengthDwarf once ∧
    (∃ r, drgnTypeFromDwarfInternal zeroLengthDwarf 2 false (drgnDwarfInfoCacheCreate []) =
      .ok r once) ∧
    once.cantBeIncompleteArrayMap.entries.map (·.key) = [2] ∧ once.depth = 0 ∧
    (searchMemo once 2 false).isNone ∧
    ∃ r twice, drgnTypeFromDwarfInternal zeroLengthDwarf 2 false once = .ok r twice ∧
      twice.cantBeIncompleteArrayMap.entries.map (·.key) = [2, 2] :=
  ⟨.runCalls (.create []) _, ⟨_, rfl⟩, rfl, rfl, rfl, _, _, rfl, rfl⟩

end Drgn
