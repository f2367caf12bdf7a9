import DocLinks.Proofs.Session.Slots

/-! Resolving every reference of a session's list, once and again. An attempt against the frozen
table sees one of four situations: a reference bound to a live reflection, or one whose slot names
a reflection that is gone while the table holds its symbol, is already resolved; a sentinel symbol
is no symbol; a symbol the table holds binds an empty slot; and a symbol it lacks leaves the
reference unresolved. Only a binding changes a slot. The table keeps its reflections alive, so a
second pass finds every reference the first one bound already resolved, changes nothing, and
counts the same from then on. -/

namespace DocLinks

/-- What a second pass sees where the first one saw an outcome: a binding is now already
resolved, and every other outcome is seen again. -/
def Outcome.again : Outcome → Outcome
  | .resolved => .alreadyResolved
  | o => o

theorem Outcome.again_of_ne {o : Outcome} (h : o ≠ .resolved) : o.again = o := by
  cases o <;> simp_all [Outcome.again]

namespace Reference

variable (symbols : SymbolMap) (live : Targets) (r : Reference)

theorem attemptOutcome_eq :
    r.attemptOutcome symbols live =
      if r.isResolved live then .alreadyResolved
      else if r.symbol < 0 then .noSymbol
      else if (symbols.lookup r.symbol).isSome then
        (if r.slot.isSome then .alreadyResolved else .resolved)
      else .unresolved := by
  unfold attemptOutcome attempt
  by_cases hres : r.isResolved live = true
  · simp [hres]
  · by_cases hs : r.symbol < 0
    · simp [hres, hs, isSentinel]
    · cases symbols.lookup r.symbol <;> cases r.slot <;> simp [hres, hs, isSentinel]

/-- The four outcomes of an attempt, each by the situation that gives it. -/
theorem attemptOutcome_iff :
    (r.attemptOutcome symbols live = .alreadyResolved ↔ r.isResolved live = true ∨
      (r.isResolved live = false ∧ r.slot.isSome ∧ 0 ≤ r.symbol ∧ (symbols.lookup r.symbol).isSome)) ∧
    (r.attemptOutcome symbols live = .noSymbol ↔ r.isResolved live = false ∧ r.symbol < 0) ∧
    (r.attemptOutcome symbols live = .resolved ↔
      r.slot = none ∧ 0 ≤ r.symbol ∧ (symbols.lookup r.symbol).isSome) ∧
    (r.attemptOutcome symbols live = .unresolved ↔
      r.isResolved live = false ∧ 0 ≤ r.symbol ∧ symbols.lookup r.symbol = none) := by
  have hempty : r.slot = none → r.isResolved live = false := fun h => by
    simp [isResolved, target, h]
  rw [attemptOutcome_eq]
  by_cases hres : r.isResolved live = true
  · have hslot : r.slot ≠ none := fun h => by simp [hempty h] at hres
    simp [hres, hslot]
  · have hres' : r.isResolved live = false := by simpa using hres
    by_cases hs : r.symbol < 0
    · have hs' : ¬0 ≤ r.symbol := by omega
      simp [hres', hs, hs']
    · have hs' : 0 ≤ r.symbol := by omega
      cases hl : symbols.lookup r.symbol <;> cases hslot : r.slot <;> simp [hres', hs, hs']

/-- An attempt writes a slot exactly when it binds, with what the table holds for the symbol. -/
theorem attemptSlot_eq :
    r.attemptSlot symbols live =
      if r.attemptOutcome symbols live = .resolved then (symbols.lookup r.symbol).map (·.link)
      else r.slot := by
  unfold attemptSlot attemptOutcome attempt
  by_cases hres : r.isResolved live = true
  · simp [hres]
  · by_cases hs : isSentinel r.symbol = true
    · simp [hres, hs]
    · cases symbols.lookup r.symbol <;> cases r.slot <;> simp [hres, hs]

/-- A second attempt after a binding finds the reference resolved when the table's reflection
lives; after any other outcome it sees what the first one saw. Neither writes the slot. -/
theorem attempt_again (hlive : ∀ e, symbols.lookup r.symbol = some e → (live e.cell).isSome) :
    let r₁ : Reference := { r with slot := r.attemptSlot symbols live }
    r₁.attemptOutcome symbols live = (r.attemptOutcome symbols live).again ∧
      r₁.attemptSlot symbols live = r₁.slot := by
  intro r₁
  by_cases hres : r.attemptOutcome symbols live = .resolved
  · obtain ⟨-, -, hl⟩ := (attemptOutcome_iff symbols live r).2.2.1.mp hres
    obtain ⟨e, he⟩ := Option.isSome_iff_exists.mp hl
    have hslot : r₁.slot = some e.link := by
      simp only [r₁, attemptSlot_eq, hres, if_true, he, Option.map_some]
    have hresolved : r₁.isResolved live = true := by
      simpa [Reference.isResolved, Reference.target, hslot, Entry.link] using hlive e he
    rw [hres, Outcome.again]
    exact ⟨(attempt_of_isResolved symbols live hresolved).2, (attempt_of_isResolved symbols live hresolved).1⟩
  · have hsame : r₁ = r := by
      simp only [r₁, attemptSlot_eq, if_neg hres]
    rw [hsame, Outcome.again_of_ne hres, attemptSlot_eq, if_neg hres]
    exact ⟨rfl, rfl⟩

end Reference

/-- Counting the outcomes a second pass sees: nothing is bound, and what the first pass bound
counts as already resolved. -/
theorem Stats.ofOutcomes_map_again (os : List Outcome) :
    Stats.ofOutcomes (os.map Outcome.again) =
      { resolved := 0,
        alreadyResolved := (Stats.ofOutcomes os).resolved + (Stats.ofOutcomes os).alreadyResolved,
        unresolved := (Stats.ofOutcomes os).unresolved, noSymbol := (Stats.ofOutcomes os).noSymbol } := by
  simp only [Stats.ofOutcomes_eq_count, Stats.mk.injEq]
  induction os with
  | nil => simp
  | cons o os ih =>
      obtain ⟨h₁, h₂, h₃, h₄⟩ := ih
      cases o <;> simp [Outcome.again, h₁, h₂, h₃, h₄] <;> omega

theorem getElem?_filterMap_of_isSome {α β : Type} {f : α → Option β} :
    ∀ {l : List α}, (∀ x ∈ l, (f x).isSome) → ∀ i : Nat, (l.filterMap f)[i]? = l[i]?.bind f
  | [], _, _ => by simp
  | x :: l, h, i => by
      obtain ⟨y, hy⟩ := Option.isSome_iff_exists.mp (h x (by simp))
      have hl : ∀ z ∈ l, (f z).isSome := fun z hz => h z (by simp [hz])
      rw [List.filterMap_cons, hy]
      cases i with
      | zero => simp [hy]
      | succ i => simp [getElem?_filterMap_of_isSome hl i]

namespace Session

variable {s : Session}

/-- The references of a session's list, in order. -/
def referenceList (s : Session) : List Reference := s.references.toList.filterMap TypeExpr.asReference

theorem Wf.isSome_asReference (hs : s.Wf) : ∀ t ∈ s.references.toList, t.asReference.isSome := by
  intro t ht
  obtain ⟨j, hj⟩ := List.mem_iff_getElem?.mp ht
  obtain ⟨r, hr, -⟩ := hs.reference j t (by rwa [Array.getElem?_toList] at hj)
  simp [hr]

theorem Wf.getElem?_referenceList (hs : s.Wf) (i : Nat) : s.referenceList[i]? = s.referenceAt i := by
  rw [referenceList, getElem?_filterMap_of_isSome hs.isSome_asReference, Array.getElem?_toList]
  rfl

theorem Wf.length_referenceList (hs : s.Wf) : s.referenceList.length = s.references.size := by
  rw [referenceList, List.length_filterMap_eq_countP, List.countP_eq_length.mpr hs.isSome_asReference,
    Array.length_toList]

/-- The table keeps its reflections alive. -/
theorem Wf.lookup_live (hs : s.Wf) {sym : Int} {e : Entry} (h : s.table.freeze.lookup sym = some e) :
    (s.targets e.cell).isSome := by
  change s.table.entries.lookup sym = some e at h
  obtain ⟨l₁, l₂, hentries, -⟩ := List.lookup_eq_some_iff.mp h
  have hmem : (sym, e) ∈ s.table.entries := by simp [hentries]
  simp [targets, holds_of_entry hmem, hs.entry _ hmem]

theorem passProgress_stats (symbols : SymbolMap) (live : Targets) (ts : List TypeExpr) :
    (passProgress symbols live ts).stats =
      Stats.ofOutcomes ((ts.filterMap TypeExpr.asReference).map (Reference.attemptOutcome symbols live)) := by
  simp [passProgress, Progress.stats, outcomes_foldl_step]

theorem asReference_passSlot (symbols : SymbolMap) (live : Targets) (t : TypeExpr) :
    (passSlot symbols live t).asReference =
      t.asReference.map fun r => { r with slot := r.attemptSlot symbols live } := by
  unfold passSlot
  cases ht : t.asReference with
  | none => simp [ht]
  | some r =>
      have hcases := Reference.attemptSlot_cases symbols live r
      rw [Reference.attemptSlot] at hcases
      obtain ⟨n, sym, args, slot⟩ := r
      dsimp only
      cases ha : (Reference.attempt symbols live ⟨n, sym, args, slot⟩).slot with
      | none =>
          have hslot : slot = none := by
            rcases hcases with h | ⟨h, -⟩ <;> simp_all
          subst hslot
          simp [ht, Reference.attemptSlot, ha]
      | some l =>
          have hl : slot.getD l = l := by
            rcases hcases with h | ⟨h, -⟩ <;> simp_all
          simp [asReference_bindSlot, ht, Reference.attemptSlot, ha, hl]

theorem passSlot_eq_self {symbols : SymbolMap} {live : Targets} {t : TypeExpr}
    (h : ∀ r, t.asReference = some r → r.attemptSlot symbols live = r.slot) :
    passSlot symbols live t = t := by
  unfold passSlot
  cases ht : t.asReference with
  | none => rfl
  | some r =>
      have hsame := h r ht
      rw [Reference.attemptSlot] at hsame
      dsimp only
      rw [hsame]
      cases hslot : r.slot with
      | none => rfl
      | some l =>
          cases t <;> simp only [TypeExpr.asReference, reduceCtorEq, Option.some.injEq] at ht
          subst ht
          simp only at hslot
          subst hslot
          rfl

theorem run_replicate_of_step_eq {st : Step} (h : (s.step st).1 = s) (n : Nat) :
    s.run (List.replicate n st) = s := by
  induction n with
  | zero => rfl
  | succ n ih =>
      rw [List.replicate_succ]
      change (s.step st).1.run _ = s
      rw [h, ih]

theorem counted_resolveAll (h : s.frozen = true) :
    (s.step .resolveAll).2.1 =
      .counted (Stats.ofOutcomes (s.referenceList.map (Reference.attemptOutcome s.table.freeze s.targets))) := by
  rw [step_resolveAll h, passProgress_stats]
  rfl

/-- A pass attempts every reference once, in place. -/
theorem referenceAt_resolveAll (h : s.frozen = true) (i : Nat) :
    (s.step .resolveAll).1.referenceAt i =
      (s.referenceAt i).map fun r => { r with slot := r.attemptSlot s.table.freeze s.targets } := by
  rw [step_resolveAll h]
  simp only [referenceAt, List.getElem?_toArray, List.getElem?_map, Array.getElem?_toList]
  cases s.references[i]? <;> simp [asReference_passSlot]

theorem referenceList_resolveAll (h : s.frozen = true) :
    (s.step .resolveAll).1.referenceList =
      s.referenceList.map fun r => { r with slot := r.attemptSlot s.table.freeze s.targets } := by
  rw [step_resolveAll h]
  simp only [referenceList, List.filterMap_map, List.map_filterMap]
  congr 1
  funext t
  exact asReference_passSlot _ _ t

/-- With the table's reflections alive, a second attempt leaves an expression as the first one
left it. -/
theorem passSlot_passSlot {symbols : SymbolMap} {live : Targets}
    (hlive : ∀ sym e, symbols.lookup sym = some e → (live e.cell).isSome) (t : TypeExpr) :
    passSlot symbols live (passSlot symbols live t) = passSlot symbols live t := by
  apply passSlot_eq_self
  intro r hr
  rw [asReference_passSlot] at hr
  obtain ⟨r₀, -, rfl⟩ := Option.map_eq_some_iff.mp hr
  exact (Reference.attempt_again symbols live r₀ (hlive r₀.symbol)).2

/-- A second pass over a well-formed session finds what the first one bound already resolved,
sees everything else as the first one did, and writes no slot. -/
theorem Wf.resolveAll_again (hs : s.Wf) (h : s.frozen = true) :
    let s₁ := (s.step .resolveAll).1
    (s₁.step .resolveAll).1 = s₁ ∧
      (s₁.step .resolveAll).2.1 = .counted (Stats.ofOutcomes
        ((s.referenceList.map (Reference.attemptOutcome s.table.freeze s.targets)).map Outcome.again)) := by
  intro s₁
  have hs₁ : s₁ = { s with references := (s.references.toList.map (passSlot s.table.freeze s.targets)).toArray } := by
    simp only [s₁, step_resolveAll h]
  have h₁ : s₁.frozen = true := by rw [hs₁]; exact h
  have hlive : ∀ sym e, s.table.freeze.lookup sym = some e → (s.targets e.cell).isSome :=
    fun _ _ he => hs.lookup_live he
  constructor
  · have hfix : ∀ t ∈ s₁.references.toList, passSlot s₁.table.freeze s₁.targets t = t := by
      intro t ht
      rw [hs₁, List.toList_toArray] at ht
      obtain ⟨t₀, -, rfl⟩ := List.mem_map.mp ht
      rw [hs₁]
      exact passSlot_passSlot hlive t₀
    rw [step_resolveAll h₁]
    have hmap := List.map_congr_left hfix
    rw [List.map_id'] at hmap
    rw [hmap]
  · rw [counted_resolveAll h₁, referenceList_resolveAll h, List.map_map, List.map_map]
    rw [hs₁]
    congr 2
    apply List.map_congr_left
    intro r _
    exact (Reference.attempt_again _ _ r (hlive r.symbol)).1

end Session

/-- A pass over the references of a session with a frozen table classifies each reference by its
situation: already resolved when it is bound to a live reflection, or when its slot names one that
is gone while the table holds its symbol; no symbol for a sentinel; resolved, and bound to the
table's reflection, when its slot is empty and the table holds the symbol; unresolved when the
table lacks it. Only a binding writes a slot, the counters add up to the number of references,
and every later pass, with nothing done in between, binds nothing, counts the first pass's
bindings as already resolved and leaves the session as it is. -/
theorem resolveAll_classifies_and_repeats (pre : List Step)
    (hfrozen : (Session.run {} pre).frozen = true) :
    let s := Session.run {} pre
    let first := s.step .resolveAll
    ∃ outcomes : List Outcome,
      first.2.1 = .counted (Stats.ofOutcomes outcomes) ∧
      (Stats.ofOutcomes outcomes).total = s.references.size ∧
      (Stats.ofOutcomes outcomes).dangling =
        (Stats.ofOutcomes outcomes).unresolved + (Stats.ofOutcomes outcomes).noSymbol ∧
      first.1.references.size = s.references.size ∧
      (∀ i r, s.referenceAt i = some r → ∃ o, outcomes[i]? = some o ∧
        (o = .alreadyResolved ↔ r.isResolved s.targets = true ∨
          (r.isResolved s.targets = false ∧ r.slot.isSome ∧ 0 ≤ r.symbol ∧
            (s.table.freeze.lookup r.symbol).isSome)) ∧
        (o = .noSymbol ↔ r.isResolved s.targets = false ∧ r.symbol < 0) ∧
        (o = .resolved ↔ r.slot = none ∧ 0 ≤ r.symbol ∧ (s.table.freeze.lookup r.symbol).isSome) ∧
        (o = .unresolved ↔ r.isResolved s.targets = false ∧ 0 ≤ r.symbol ∧
          s.table.freeze.lookup r.symbol = none) ∧
        first.1.referenceAt i = some { r with slot :=
          if o = .resolved then (s.table.freeze.lookup r.symbol).map (·.link) else r.slot }) ∧
      ∀ n, let later := (first.1.run (List.replicate n .resolveAll)).step .resolveAll
        later.1 = first.1 ∧
        later.2.1 = .counted
          { resolved := 0,
            alreadyResolved := (Stats.ofOutcomes outcomes).resolved + (Stats.ofOutcomes outcomes).alreadyResolved,
            unresolved := (Stats.ofOutcomes outcomes).unresolved,
            noSymbol := (Stats.ofOutcomes outcomes).noSymbol } := by
  intro s first
  have hs : s.Wf := Session.wf_run pre
  refine ⟨s.referenceList.map (Reference.attemptOutcome s.table.freeze s.targets),
    Session.counted_resolveAll hfrozen, ?_, rfl, ?_, ?_, ?_⟩
  · rw [Stats.total_ofOutcomes, List.length_map, hs.length_referenceList]
  · show (s.step .resolveAll).1.references.size = _
    rw [Session.step_resolveAll hfrozen]
    simp only [List.size_toArray, List.length_map, Array.length_toList]
    rfl
  · intro i r hr
    have hi := Reference.attemptOutcome_iff s.table.freeze s.targets r
    refine ⟨_, by rw [List.getElem?_map, hs.getElem?_referenceList, hr]; rfl,
      hi.1, hi.2.1, hi.2.2.1, hi.2.2.2, ?_⟩
    rw [Session.referenceAt_resolveAll hfrozen, hr, Option.map_some, Reference.attemptSlot_eq]
  · intro n
    obtain ⟨hfix, hcount⟩ := hs.resolveAll_again hfrozen
    have hrun : first.1.run (List.replicate n .resolveAll) = first.1 :=
      Session.run_replicate_of_step_eq hfix n
    rw [hrun]
    exact ⟨hfix, by rw [hcount, Stats.ofOutcomes_map_again]⟩

/-- A frozen table with one symbol and five references: bound by the pass, unknown, sentinel,
bound to a reflection dropped since, and bound to a live one. -/
def mixedPassSteps : List Step :=
  [.reflection 0 "Foo" .class, .reflection 1 "Gone" .class, .register 7 0,
    .reference "A" 7 none false (.ok []), .reference "B" 9 none false (.ok []),
    .reference "C" (-1) none false (.ok []), .reference "D" 7 (some 1) false (.ok []),
    .reference "E" 5 (some 0) false (.ok []), .drop 1, .finish]

theorem mixed_pass_classifies_and_repeats :
    (Session.run {} mixedPassSteps).frozen = true ∧
    let s := Session.run {} mixedPassSteps
    let first := s.step .resolveAll
    ∃ outcomes : List Outcome,
      first.2.1 = .counted (Stats.ofOutcomes outcomes) ∧
      (Stats.ofOutcomes outcomes).total = s.references.size ∧
      (Stats.ofOutcomes outcomes).dangling =
        (Stats.ofOutcomes outcomes).unresolved + (Stats.ofOutcomes outcomes).noSymbol ∧
      first.1.references.size = s.references.size ∧
      (∀ i r, s.referenceAt i = some r → ∃ o, outcomes[i]? = some o ∧
        (o = .alreadyResolved ↔ r.isResolved s.targets = true ∨
          (r.isResolved s.targets = false ∧ r.slot.isSome ∧ 0 ≤ r.symbol ∧
            (s.table.freeze.lookup r.symbol).isSome)) ∧
        (o = .noSymbol ↔ r.isResolved s.targets = false ∧ r.symbol < 0) ∧
        (o = .resolved ↔ r.slot = none ∧ 0 ≤ r.symbol ∧ (s.table.freeze.lookup r.symbol).isSome) ∧
        (o = .unresolved ↔ r.isResolved s.targets = false ∧ 0 ≤ r.symbol ∧
          s.table.freeze.lookup r.symbol = none) ∧
        first.1.referenceAt i = some { r with slot :=
          if o = .resolved then (s.table.freeze.lookup r.symbol).map (·.link) else r.slot }) ∧
      ∀ n, let later := (first.1.run (List.replicate n .resolveAll)).step .resolveAll
        later.1 = first.1 ∧
        later.2.1 = .counted
          { resolved := 0,
            alreadyResolved := (Stats.ofOutcomes outcomes).resolved + (Stats.ofOutcomes outcomes).alreadyResolved,
            unresolved := (Stats.ofOutcomes outcomes).unresolved,
            noSymbol := (Stats.ofOutcomes outcomes).noSymbol } :=
  have h : (Session.run {} mixedPassSteps).frozen = true := rfl
  ⟨h, resolveAll_classifies_and_repeats mixedPassSteps h⟩

example :
    ((Session.run {} mixedPassSteps).step .resolveAll).2.1 =
      .counted { resolved := 1, alreadyResolved := 2, unresolved := 1, noSymbol := 1 } := by
  rfl

end DocLinks
