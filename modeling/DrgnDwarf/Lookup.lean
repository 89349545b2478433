import DrgnDwarf.Declaration

/-!
# DrgnDwarf — the candidate loop of the type finder

`drgn_dwarf_type_find` asks the name index for the DIEs of one name and tag and takes them in
index order. It skips those `die_matches_filename` rejects, materializes the others, and returns
the first one of the requested kind. A base type can be an `int`, a `bool` or a `float`, so it
checks the kind of every base type it finds.

* **`PassedOver`** — a stretch of the loop in which no candidate is taken: every candidate that
  the filename accepts materializes, each from the cache the one before left, to a type of
  another kind.
* **`drgnDwarfTypeFind_first`** — the outcome of a lookup, in both directions. It returns a type
  exactly when it passes over some first candidates and reaches one that materializes to the
  requested kind; it then returns that type. It fails exactly when, after such a stretch, a
  candidate fails to materialize (that error), or when it passes over every candidate (the
  iterator's error, or `&drgn_not_found`).
-/

namespace Drgn

section Lookup

variable {dw : DwarfInfo} {kind : TypeKind} {filename : Option String}

/-- A stretch of the candidate loop over `cands`, from the cache `s` to `s'`, in which no
candidate is taken: each candidate that the filename accepts materializes, from the cache the one
before it left, to a type of another kind than `kind`. -/
inductive PassedOver (dw : DwarfInfo) (kind : TypeKind) (filename : Option String) :
    List (DieKey × UInt64) → DwarfInfoCache → DwarfInfoCache → Prop
  | nil (s : DwarfInfoCache) : PassedOver dw kind filename [] s s
  /-- A candidate of another file. -/
  | skip {die : DieKey} {bias : UInt64} {rest : List (DieKey × UInt64)}
      {s s' : DwarfInfoCache} :
      dw.dieMatchesFilename die filename = false → PassedOver dw kind filename rest s s' →
      PassedOver dw kind filename ((die, bias) :: rest) s s'
  /-- A candidate that materializes to a type of another kind. -/
  | other {die : DieKey} {bias : UInt64} {rest : List (DieKey × UInt64)}
      {s s₁ s' : DwarfInfoCache} {qt : QualifiedType} :
      dw.dieMatchesFilename die filename = true →
      drgnTypeFromDwarf (drgnTypeFromDwarfInternal dw) die s = .ok qt s₁ → qt.type.kind ≠ kind →
      PassedOver dw kind filename rest s₁ s' →
      PassedOver dw kind filename ((die, bias) :: rest) s s'

/-- The loop goes through a stretch it passes over and goes on after it. -/
theorem typeFindLoop_passedOver {pre rest : List (DieKey × UInt64)} {failed : Bool}
    {s s₁ : DwarfInfoCache} (h : PassedOver dw kind filename pre s s₁) :
    typeFindLoop dw kind filename (pre ++ rest) failed s =
      typeFindLoop dw kind filename rest failed s₁ := by
  induction h with
  | nil => rfl
  | skip hmatch _ ih =>
    simp only [List.cons_append, typeFindLoop, hmatch, Bool.false_eq_true, ↓reduceIte]
    exact ih
  | other hmatch hqt hkind _ ih =>
    simp only [List.cons_append, typeFindLoop, hmatch, ↓reduceIte]
    rw [bind_eq_of_ok hqt]
    simp only [hkind, ↓reduceIte]
    exact ih

/-- A loop that returned passed over some first candidates and took the next one. -/
theorem typeFindLoop_eq_ok {cands : List (DieKey × UInt64)} {failed : Bool}
    {s s' : DwarfInfoCache} {qt : QualifiedType}
    (hrun : typeFindLoop dw kind filename cands failed s = .ok qt s') :
    ∃ pre die bias post s₁, cands = pre ++ (die, bias) :: post ∧
      PassedOver dw kind filename pre s s₁ ∧ dw.dieMatchesFilename die filename = true ∧
      drgnTypeFromDwarf (drgnTypeFromDwarfInternal dw) die s₁ = .ok qt s' ∧
      qt.type.kind = kind := by
  induction cands generalizing s with
  | nil => cases hrun
  | cons cand rest ih =>
    obtain ⟨die, bias⟩ := cand
    unfold typeFindLoop at hrun
    cases hmatch : dw.dieMatchesFilename die filename
    · simp only [hmatch, Bool.false_eq_true, ↓reduceIte] at hrun
      obtain ⟨pre, d, b, post, s₁, rfl, hpre, hrest⟩ := ih hrun
      exact ⟨(die, bias) :: pre, d, b, post, s₁, rfl, .skip hmatch hpre, hrest⟩
    · simp only [hmatch, ↓reduceIte] at hrun
      obtain ⟨qt₁, s₁, hqt, hrun⟩ := bind_eq_ok hrun
      by_cases hkind : qt₁.type.kind = kind
      · simp only [hkind, ↓reduceIte] at hrun
        cases hrun
        exact ⟨[], die, bias, rest, s, rfl, .nil s, hmatch, hqt, hkind⟩
      · simp only [hkind, ↓reduceIte] at hrun
        obtain ⟨pre, d, b, post, s₂, rfl, hpre, hrest⟩ := ih hrun
        exact ⟨(die, bias) :: pre, d, b, post, s₂, rfl, .other hmatch hqt hkind hpre, hrest⟩

/-- A loop that failed passed over some first candidates and then failed to materialize one, or
passed over them all. -/
theorem typeFindLoop_eq_error {cands : List (DieKey × UInt64)} {failed : Bool}
    {s s' : DwarfInfoCache} {f : Fault}
    (hrun : typeFindLoop dw kind filename cands failed s = .error f s') :
    (∃ pre die bias post s₁, cands = pre ++ (die, bias) :: post ∧
      PassedOver dw kind filename pre s s₁ ∧ dw.dieMatchesFilename die filename = true ∧
      drgnTypeFromDwarf (drgnTypeFromDwarfInternal dw) die s₁ = .error f s') ∨
    (PassedOver dw kind filename cands s s' ∧
      f = .error (if failed then libdwError else drgnNotFound)) := by
  induction cands generalizing s with
  | nil => cases hrun; exact .inr ⟨.nil _, rfl⟩
  | cons cand rest ih =>
    obtain ⟨die, bias⟩ := cand
    unfold typeFindLoop at hrun
    cases hmatch : dw.dieMatchesFilename die filename
    · simp only [hmatch, Bool.false_eq_true, ↓reduceIte] at hrun
      rcases ih hrun with ⟨pre, d, b, post, s₁, rfl, hpre, hrest⟩ | ⟨hall, hf⟩
      · exact .inl ⟨(die, bias) :: pre, d, b, post, s₁, rfl, .skip hmatch hpre, hrest⟩
      · exact .inr ⟨.skip hmatch hall, hf⟩
    · simp only [hmatch, ↓reduceIte] at hrun
      cases hqt : drgnTypeFromDwarf (drgnTypeFromDwarfInternal dw) die s with
      | error f₁ s₁ =>
        rw [bind_eq_error hqt] at hrun
        cases hrun
        exact .inl ⟨[], die, bias, rest, s, rfl, .nil s, hmatch, hqt⟩
      | ok qt₁ s₁ =>
        rw [bind_eq_of_ok hqt] at hrun
        by_cases hkind : qt₁.type.kind = kind
        · simp only [hkind, ↓reduceIte] at hrun
          cases hrun
        · simp only [hkind, ↓reduceIte] at hrun
          rcases ih hrun with ⟨pre, d, b, post, s₂, rfl, hpre, hrest⟩ | ⟨hall, hf⟩
          · exact .inl ⟨(die, bias) :: pre, d, b, post, s₂, rfl, .other hmatch hqt hkind hpre,
              hrest⟩
          · exact .inr ⟨.other hmatch hqt hkind hall, hf⟩

/-- **A type lookup returns the first candidate of the requested kind.** For a kind the finder
knows, with the candidates the index yields for its name and tag: a lookup returns a type exactly
when it passes over some first candidates and reaches one the filename accepts that materializes
to a type of the requested kind, and it returns that type; it fails exactly when, after such a
stretch, a candidate the filename accepts fails to materialize, with that error, or when it
passes over every candidate, with the iterator's error or `&drgn_not_found`. -/
theorem drgnDwarfTypeFind_first {name : String} {tag : Nat} (htag : typeFindTag kind = some tag)
    (s s' : DwarfInfoCache) (qt : QualifiedType) (f : Fault) :
    (drgnDwarfTypeFind dw kind name filename s = .ok qt s' ↔
      ∃ pre die bias post s₁, (dw.index name [tag]).entries = pre ++ (die, bias) :: post ∧
        PassedOver dw kind filename pre s s₁ ∧ dw.dieMatchesFilename die filename = true ∧
        drgnTypeFromDwarf (drgnTypeFromDwarfInternal dw) die s₁ = .ok qt s' ∧
        qt.type.kind = kind) ∧
    (drgnDwarfTypeFind dw kind name filename s = .error f s' ↔
      (∃ pre die bias post s₁, (dw.index name [tag]).entries = pre ++ (die, bias) :: post ∧
        PassedOver dw kind filename pre s s₁ ∧ dw.dieMatchesFilename die filename = true ∧
        drgnTypeFromDwarf (drgnTypeFromDwarfInternal dw) die s₁ = .error f s') ∨
      (PassedOver dw kind filename (dw.index name [tag]).entries s s' ∧
        f = .error (if (dw.index name [tag]).failed then libdwError else drgnNotFound))) := by
  simp only [drgnDwarfTypeFind, htag]
  refine ⟨⟨typeFindLoop_eq_ok, ?_⟩, ⟨typeFindLoop_eq_error, ?_⟩⟩
  · rintro ⟨pre, die, bias, post, s₁, hcands, hpre, hmatch, hqt, hkind⟩
    rw [hcands, typeFindLoop_passedOver hpre]
    simp only [typeFindLoop, hmatch, ↓reduceIte]
    rw [bind_eq_of_ok hqt]
    simp only [hkind, ↓reduceIte]
    rfl
  · rintro (⟨pre, die, bias, post, s₁, hcands, hpre, hmatch, hqt⟩ | ⟨hall, rfl⟩)
    · rw [hcands, typeFindLoop_passedOver hpre]
      simp only [typeFindLoop, hmatch, ↓reduceIte]
      exact bind_eq_error hqt
    · rw [← List.append_nil (dw.index name [tag]).entries, typeFindLoop_passedOver hall]
      rfl

/-- The typedef `T` of `zeroLengthDwarf` is found, and is a typedef. -/
theorem zeroLength_typedef_lookup :
    typeFindTag TypeKind.typedef = some DwTag.typedef ∧
    ∃ qt s', drgnDwarfTypeFind zeroLengthDwarf TypeKind.typedef "T" none
      (drgnDwarfInfoCacheCreate []) = .ok qt s' ∧ qt.type.kind = TypeKind.typedef := by
  obtain ⟨qt, s', hrun⟩ : ∃ qt s', drgnDwarfTypeFind zeroLengthDwarf TypeKind.typedef "T" none
      (drgnDwarfInfoCacheCreate []) = .ok qt s' := ⟨_, _, rfl⟩
  obtain ⟨-, -, -, -, -, -, -, -, -, hkind⟩ :=
    (drgnDwarfTypeFind_first (rfl : typeFindTag TypeKind.typedef = some DwTag.typedef) _ s' qt
      .unreachable).1.mp hrun
  exact ⟨rfl, qt, s', hrun, hkind⟩

end Lookup

end Drgn
