import DocLinks.Proofs.Convert.Binding
import Mathlib.Data.Finset.Card

/-! Registering reflections for symbol ids, one registration after the other. A registration under
a sentinel id is refused first, then one under an id that is already taken, naming the reflection
that holds it; every other one is taken. A refused registration leaves the table as it was, so
after any sequence of registrations from an empty table the table maps each id that is not a
sentinel to the reflection of the first registration carrying it and holds nothing else, one entry
per id, in strictly increasing order of id. What the table holds for an id stays there through any
later registrations, and the frozen table answers what the table held. -/

namespace DocLinks

namespace SymbolTable

/-- The table after registering reflections for symbol ids one after the other; a refused
registration leaves the table as it was. -/
def registerAll (t : SymbolTable) : List (Int × Entry) → SymbolTable
  | [] => t
  | (s, e) :: calls =>
    match t.register s e with
    | .ok t' => t'.registerAll calls
    | .error _ => t.registerAll calls

end SymbolTable

/-- The reflection of the first registration for a symbol id among a sequence of registrations,
unless the id is a sentinel. -/
def firstRegistration (calls : List (Int × Entry)) (s : Int) : Option Entry :=
  if 0 ≤ s then calls.lookup s else none

theorem firstRegistration_cons (s₀ : Int) (e₀ : Entry) (calls : List (Int × Entry)) (s : Int) :
    firstRegistration ((s₀, e₀) :: calls) s =
      if s₀ = s ∧ 0 ≤ s then some e₀ else firstRegistration calls s := by
  by_cases hs : 0 ≤ s
  · by_cases h : s₀ = s
    · subst h
      simp [firstRegistration, hs]
    · simp [firstRegistration, hs, h, lookup_cons_of_ne (Ne.symm h)]
  · simp [firstRegistration, hs]

theorem isSome_lookup_iff {β : Type} {l : List (Int × β)} {s : Int} :
    (l.lookup s).isSome ↔ s ∈ l.map Prod.fst := by
  rw [List.lookup_isSome_iff, List.mem_map]
  exact ⟨fun ⟨p, hp, h⟩ => ⟨p, hp, (beq_iff_eq.mp h).symm⟩,
    fun ⟨p, hp, h⟩ => ⟨p, hp, beq_iff_eq.mpr h.symm⟩⟩

/-- A symbol id has a first registration exactly when it is no sentinel and some registration
carries it. -/
theorem isSome_firstRegistration {calls : List (Int × Entry)} {s : Int} :
    (firstRegistration calls s).isSome ↔ 0 ≤ s ∧ s ∈ calls.map Prod.fst := by
  by_cases hs : 0 ≤ s
  · rw [firstRegistration, if_pos hs, isSome_lookup_iff]
    exact ⟨fun h => ⟨hs, h⟩, And.right⟩
  · simp [firstRegistration, hs]

namespace SymbolTable

variable {t : SymbolTable} {s : Int} {e : Entry}

/-- A registration is refused as a sentinel exactly when its id is negative. -/
theorem register_eq_sentinel_iff : t.register s e = .error (.sentinelSymbol e.target.id) ↔ s < 0 := by
  by_cases hs : s < 0
  · simp [register, isSentinel, hs]
  · have hsentinel : isSentinel s = false := by simpa [isSentinel] using hs
    cases hget : t.get s <;> simp [register, hsentinel, hget, hs]

/-- A registration is refused as a duplicate exactly when its id is no sentinel and the table
already holds a reflection for it; the refusal names that reflection. -/
theorem register_eq_duplicate_iff {s' : Int} {x : Nat} :
    t.register s e = .error (.duplicateSymbol s' x) ↔
      0 ≤ s ∧ s' = s ∧ (t.get s).map (·.target.id) = some x := by
  by_cases hs : s < 0
  · simp [register, isSentinel, hs]
  · have hsentinel : isSentinel s = false := by simpa [isSentinel] using hs
    cases hget : t.get s with
    | none => simp [register, hsentinel, hget]
    | some y =>
        simp only [register, hsentinel, hget, Bool.false_eq_true, if_false, Except.error.injEq,
          Error.duplicateSymbol.injEq, Option.map_some, Option.some.injEq]
        omega

/-- A registration is taken exactly when its id is no sentinel and not yet taken. -/
theorem register_isOk_iff : (∃ t', t.register s e = .ok t') ↔ 0 ≤ s ∧ t.get s = none := by
  constructor
  · rintro ⟨t', h⟩
    exact ⟨(register_eq_ok h).1, (register_eq_ok h).2.1⟩
  · rintro ⟨hs, hget⟩
    have hsentinel : isSentinel s = false := by simpa [isSentinel] using hs
    exact ⟨{ entries := insertBySymbol s e t.entries }, by simp [register, hsentinel, hget]⟩

/-- Registering and keeping the table on a refusal is offering the symbol. -/
theorem register_or_keep (t : SymbolTable) (s : Int) (e : Entry) :
    (match t.register s e with
      | .ok t' => t'
      | .error _ => t) = t.offer (some s) e := by
  cases h : t.register s e with
  | ok t' =>
      obtain ⟨hs, hget, rfl⟩ := register_eq_ok h
      simp [offer, hs, hget]
  | error err =>
      simp [offer, not_free_of_register_eq_error h]

theorem registerAll_eq_foldl (t : SymbolTable) (calls : List (Int × Entry)) :
    t.registerAll calls = calls.foldl (fun t c => t.offer (some c.1) c.2) t := by
  induction calls generalizing t with
  | nil => rfl
  | cons c calls ih =>
      obtain ⟨s, e⟩ := c
      rw [List.foldl_cons, ← ih, ← register_or_keep, registerAll]
      cases t.register s e <;> rfl

theorem registerAll_append (t : SymbolTable) (calls more : List (Int × Entry)) :
    t.registerAll (calls ++ more) = (t.registerAll calls).registerAll more := by
  simp only [registerAll_eq_foldl, List.foldl_append]

/-- A refused registration leaves the table as it was. -/
theorem registerAll_of_register_eq_error {err : Error} (calls : List (Int × Entry))
    (h : (({} : SymbolTable).registerAll calls).register s e = .error err) :
    ({} : SymbolTable).registerAll (calls ++ [(s, e)]) = ({} : SymbolTable).registerAll calls := by
  rw [registerAll_append, registerAll, h]
  rfl

/-- What a table holds for an id after registrations: what it held before, or else the first
registration carrying the id. -/
theorem get_registerAll (t : SymbolTable) (calls : List (Int × Entry)) (s : Int) :
    (t.registerAll calls).get s = (t.get s).or (firstRegistration calls s) := by
  induction calls generalizing t with
  | nil => simp [registerAll, firstRegistration]
  | cons c calls ih =>
      obtain ⟨s₀, e₀⟩ := c
      have hstep : (match t.register s₀ e₀ with
          | .ok t' => t'.registerAll calls
          | .error _ => t.registerAll calls) =
          (t.offer (some s₀) e₀).registerAll calls := by
        rw [← register_or_keep]
        cases t.register s₀ e₀ <;> rfl
      rw [registerAll, hstep, ih, get_offer, firstRegistration_cons]
      by_cases h : s₀ = s
      · subst h
        cases t.get s₀ <;> by_cases hs : 0 ≤ s₀ <;> simp [hs]
      · simp [h]

/-- Registrations keep a table's entries in strictly increasing order of id. -/
theorem ascending_registerAll (calls : List (Int × Entry))
    (ht : t.entries.Pairwise (·.1 < ·.1)) : (t.registerAll calls).entries.Pairwise (·.1 < ·.1) := by
  induction calls generalizing t with
  | nil => exact ht
  | cons c calls ih =>
      rw [registerAll_eq_foldl, List.foldl_cons, ← registerAll_eq_foldl]
      exact ih (ascending_offer _ _ ht)

end SymbolTable

section Registration

variable (calls : List (Int × Entry))

theorem get_registerAll_empty (s : Int) :
    (({} : SymbolTable).registerAll calls).get s = firstRegistration calls s := by
  rw [SymbolTable.get_registerAll]
  rfl

theorem ascending_registerAll_empty :
    (({} : SymbolTable).registerAll calls).entries.Pairwise (·.1 < ·.1) :=
  SymbolTable.ascending_registerAll calls List.Pairwise.nil

/-- The ids the table holds are those that are no sentinel and that some registration carries. -/
theorem mem_ids_registerAll_iff {s : Int} :
    s ∈ (({} : SymbolTable).registerAll calls).entries.map Prod.fst ↔
      0 ≤ s ∧ s ∈ calls.map Prod.fst := by
  rw [← isSome_lookup_iff, ← SymbolTable.get, get_registerAll_empty, isSome_firstRegistration]

/-- The table has one entry per distinct id that is no sentinel and that some registration
carries. -/
theorem size_registerAll :
    (({} : SymbolTable).registerAll calls).size = ((calls.map Prod.fst).toFinset.filter (0 ≤ ·)).card := by
  set ids := (({} : SymbolTable).registerAll calls).entries.map Prod.fst
  have hnodup : ids.Nodup :=
    (List.pairwise_map.mpr (ascending_registerAll_empty calls)).imp Int.ne_of_lt
  have hids : ids.toFinset = (calls.map Prod.fst).toFinset.filter (0 ≤ ·) := by
    ext s
    rw [List.mem_toFinset, mem_ids_registerAll_iff, Finset.mem_filter, List.mem_toFinset, and_comm]
  rw [SymbolTable.size, ← List.length_map (f := Prod.fst), ← List.toFinset_card_of_nodup hnodup, hids]

end Registration

/-- Registering reflections for symbol ids one after the other, from an empty table. The next
registration is refused as a sentinel exactly when its id is negative, refused as a duplicate,
naming the first reflection registered for the id, exactly when the id was taken before, and
taken otherwise; a refused one leaves the table as it was. The table maps each id to the
reflection of its first registration, holds no negative id and one entry per distinct
non-negative id registered, and keeps what it holds through any later registrations. The frozen
table answers what the table holds, and its mapping lists exactly the table's ids in strictly
increasing order, each with its reflection's id. -/
theorem registration_keeps_first (calls : List (Int × Entry)) :
    let t := ({} : SymbolTable).registerAll calls
    (∀ s e, (t.register s e = .error (.sentinelSymbol e.target.id) ↔ s < 0) ∧
      (∀ x, t.register s e = .error (.duplicateSymbol s x) ↔
        0 ≤ s ∧ (firstRegistration calls s).map (·.target.id) = some x) ∧
      ((∃ t', t.register s e = .ok t') ↔ 0 ≤ s ∧ firstRegistration calls s = none) ∧
      ∀ err, t.register s e = .error err → ({} : SymbolTable).registerAll (calls ++ [(s, e)]) = t) ∧
    (∀ s, t.get s = firstRegistration calls s) ∧
    (∀ p ∈ t.entries, 0 ≤ p.1) ∧
    t.size = ((calls.map Prod.fst).toFinset.filter (0 ≤ ·)).card ∧
    (∀ more s e, t.get s = some e → (({} : SymbolTable).registerAll (calls ++ more)).get s = some e) ∧
    (∀ s, t.freeze.lookup s = t.get s) ∧
    t.freeze.mapping.Pairwise (·.1 < ·.1) ∧
    (∀ s x, (s, x) ∈ t.freeze.mapping ↔ ∃ e, t.get s = some e ∧ e.target.id = x) := by
  intro t
  have hget := get_registerAll_empty calls
  refine ⟨fun s e => ⟨SymbolTable.register_eq_sentinel_iff, fun x => ?_, ?_,
      fun err h => SymbolTable.registerAll_of_register_eq_error calls h⟩,
    hget, fun p hp => ?_, size_registerAll calls, fun more s e h => ?_, fun s => rfl, ?_, ?_⟩
  · rw [SymbolTable.register_eq_duplicate_iff, hget]
    simp
  · rw [SymbolTable.register_isOk_iff, hget]
  · exact ((mem_ids_registerAll_iff calls).mp (List.mem_map_of_mem hp)).1
  · rw [SymbolTable.registerAll_append, SymbolTable.get_registerAll, h, Option.some_or]
  · simpa [SymbolTable.freeze, SymbolMap.mapping, List.pairwise_map]
      using ascending_registerAll_empty calls
  · intro s x
    simp only [SymbolTable.freeze, SymbolMap.mapping, List.mem_map, Prod.mk.injEq]
    constructor
    · rintro ⟨⟨s', e⟩, he, rfl, rfl⟩
      exact ⟨e, (mem_iff_lookup (ascending_registerAll_empty calls)).mp he, rfl⟩
    · rintro ⟨e, he, rfl⟩
      exact ⟨(s, e), (mem_iff_lookup (ascending_registerAll_empty calls)).mpr he, rfl, rfl⟩

end DocLinks
