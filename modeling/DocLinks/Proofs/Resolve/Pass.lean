import DocLinks.Project
import DocLinks.Proofs.Types.Walk
import Mathlib.Data.List.Perm.Basic

/-! The resolving pass as a map. Counting outcomes one at a time from zero gives, for each
outcome, the number of times it occurs, so counters add up over concatenation, do not depend on
the order of the outcomes, and come out the same however the list is split in parts. A pass
over a project makes one attempt per reference in walk order: the project it answers is the
project with every slot rewritten by its attempt, and its counters count the attempts' outcomes.
The parallel pass answers the same project and the same counters. -/

namespace DocLinks

namespace Stats

/-- Counting outcomes from given counters adds, for each outcome, its number of occurrences. -/
theorem foldl_record (s : Stats) (os : List Outcome) :
    os.foldl record s =
      { resolved := s.resolved + os.count .resolved,
        alreadyResolved := s.alreadyResolved + os.count .alreadyResolved,
        unresolved := s.unresolved + os.count .unresolved,
        noSymbol := s.noSymbol + os.count .noSymbol } := by
  induction os generalizing s with
  | nil => rfl
  | cons o os ih =>
      rw [List.foldl_cons, ih]
      cases o <;> simp [record] <;> omega

theorem ofOutcomes_eq_count (os : List Outcome) :
    ofOutcomes os =
      { resolved := os.count .resolved, alreadyResolved := os.count .alreadyResolved,
        unresolved := os.count .unresolved, noSymbol := os.count .noSymbol } := by
  rw [ofOutcomes, foldl_record]
  simp

@[simp] theorem resolved_ofOutcomes (os : List Outcome) :
    (ofOutcomes os).resolved = os.count .resolved := by
  rw [ofOutcomes_eq_count]

@[simp] theorem alreadyResolved_ofOutcomes (os : List Outcome) :
    (ofOutcomes os).alreadyResolved = os.count .alreadyResolved := by
  rw [ofOutcomes_eq_count]

@[simp] theorem unresolved_ofOutcomes (os : List Outcome) :
    (ofOutcomes os).unresolved = os.count .unresolved := by
  rw [ofOutcomes_eq_count]

@[simp] theorem noSymbol_ofOutcomes (os : List Outcome) :
    (ofOutcomes os).noSymbol = os.count .noSymbol := by
  rw [ofOutcomes_eq_count]

theorem ofOutcomes_append (os os' : List Outcome) :
    ofOutcomes (os ++ os') = (ofOutcomes os).merge (ofOutcomes os') := by
  simp only [ofOutcomes_eq_count, List.count_append, merge]

/-- Counters do not depend on the order in which the outcomes come. -/
theorem ofOutcomes_perm {os os' : List Outcome} (h : os.Perm os') : ofOutcomes os = ofOutcomes os' := by
  simp only [ofOutcomes_eq_count, h.count_eq]

/-- Every visited reference is counted once. -/
theorem total_ofOutcomes (os : List Outcome) : (ofOutcomes os).total = os.length := by
  induction os with
  | nil => rfl
  | cons o os ih =>
      rw [total, ofOutcomes_eq_count] at ih ⊢
      cases o <;> simp at ih ⊢ <;> omega

/-- Counting part by part and merging gives the counters of the whole list. -/
theorem ofParts_eq (fuel : Nat) (os : List Outcome) : ofParts fuel os = ofOutcomes os := by
  induction fuel generalizing os with
  | zero => rfl
  | succ fuel ih =>
      rw [ofParts]
      split
      · rfl
      · dsimp only
        rw [ih, ih, ← ofOutcomes_append, List.take_append_drop]

end Stats

/-- The slot an attempt against a table leaves in a reference. -/
def Reference.attemptSlot (symbols : SymbolMap) (live : Targets) (r : Reference) : Option Link :=
  (r.attempt symbols live).slot

/-- The outcome of an attempt against a table. -/
def Reference.attemptOutcome (symbols : SymbolMap) (live : Targets) (r : Reference) : Outcome :=
  (r.attempt symbols live).outcome

namespace Reference

variable (symbols : SymbolMap) (live : Targets) {r : Reference}

/-- A reference bound to a live reflection keeps its slot and counts as already resolved. -/
theorem attempt_of_isResolved (h : r.isResolved live = true) :
    r.attemptSlot symbols live = r.slot ∧ r.attemptOutcome symbols live = .alreadyResolved := by
  simp [attemptSlot, attemptOutcome, attempt, h]

/-- A reference with an empty slot is bound to what the table holds for its symbol, unless the
symbol is a sentinel, and counts as resolved exactly when the table holds something. -/
theorem attempt_of_slot_none (h : r.slot = none) :
    r.attemptSlot symbols live =
        (if isSentinel r.symbol then none else symbols.lookup r.symbol).map (·.link) ∧
      r.attemptOutcome symbols live =
        if isSentinel r.symbol then .noSymbol
        else if (symbols.lookup r.symbol).isSome then .resolved else .unresolved := by
  have hunbound : r.isResolved live = false := by simp [isResolved, target, h]
  by_cases hs : isSentinel r.symbol = true
  · simp [attemptSlot, attemptOutcome, attempt, hunbound, hs, h]
  · cases hl : symbols.lookup r.symbol <;>
      simp [attemptSlot, attemptOutcome, attempt, hunbound, hs, hl, h]

end Reference

section Pass

variable (symbols : SymbolMap) (live : Targets)

/-- The progress of a pass after attempting some references, one after the other. -/
theorem outcomes_foldl_step (rs : List Reference) (p : Progress) :
    (rs.foldl (fun p r => (Progress.step symbols live p r).1) p).outcomes =
      p.outcomes ++ rs.map (Reference.attemptOutcome symbols live) := by
  induction rs generalizing p with
  | nil => simp
  | cons r rs ih =>
      rw [List.foldl_cons, ih]
      simp [Progress.step, Reference.attemptOutcome]

theorem TypeExpr.resolve_eq (p : Progress) (t : TypeExpr) :
    t.resolve symbols live p =
      (t.references.foldl (fun p r => (Progress.step symbols live p r).1) p,
        t.mapSlots (Reference.attemptSlot symbols live)) :=
  TypeExpr.visit_eq (Progress.step symbols live) (Reference.attemptSlot symbols live)
    (fun _ _ => rfl) p t

theorem TypeExpr.resolveAll_eq (p : Progress) (ts : List TypeExpr) :
    TypeExpr.resolveAll symbols live p ts =
      ((TypeExpr.referencesAll ts).foldl (fun p r => (Progress.step symbols live p r).1) p,
        TypeExpr.mapSlotsAll (Reference.attemptSlot symbols live) ts) :=
  TypeExpr.visitAll_eq (Progress.step symbols live) (Reference.attemptSlot symbols live)
    (fun _ _ => rfl) p ts

end Pass

namespace Reflection

/-- The reflection with the slots of all its types rewritten by `h`. -/
def mapSlots (h : Reference → Option Link) (r : Reflection) : Reflection :=
  { r with type := r.type.map (·.mapSlots h), extended := TypeExpr.mapSlotsAll h r.extended }

@[simp] theorem target_mapSlots (h : Reference → Option Link) (r : Reflection) :
    (r.mapSlots h).target = r.target := rfl

theorem references_eq_flatMap (r : Reflection) : r.references = r.types.flatMap TypeExpr.references :=
  TypeExpr.referencesAll_eq_flatMap _

theorem types_mapSlots (h : Reference → Option Link) (r : Reflection) :
    (r.mapSlots h).types = TypeExpr.mapSlotsAll h r.types := by
  cases hty : r.type <;> simp [types, mapSlots, hty, TypeExpr.mapSlotsAll_eq_map]

theorem references_mapSlots (h : Reference → Option Link) (r : Reflection) :
    (r.mapSlots h).references = r.references.map (Reference.restamp h) := by
  rw [references, references, types_mapSlots, TypeExpr.referencesAll_mapSlotsAll]

variable (symbols : SymbolMap) (live : Targets)

theorem resolve_eq (p : Progress) (r : Reflection) :
    r.resolve symbols live p =
      (r.references.foldl (fun p r => (Progress.step symbols live p r).1) p,
        r.mapSlots (Reference.attemptSlot symbols live)) := by
  rw [references_eq_flatMap, types]
  cases hty : r.type with
  | none =>
      simp [Reflection.resolve, hty, TypeExpr.resolveAll_eq, mapSlots,
        TypeExpr.referencesAll_eq_flatMap]
  | some t =>
      simp [Reflection.resolve, hty, TypeExpr.resolve_eq, TypeExpr.resolveAll_eq, mapSlots,
        TypeExpr.referencesAll_eq_flatMap, List.foldl_append]

theorem resolveAll_eq (p : Progress) (rs : List Reflection) :
    Reflection.resolveAll symbols live p rs =
      ((rs.flatMap references).foldl (fun p r => (Progress.step symbols live p r).1) p,
        rs.map (mapSlots (Reference.attemptSlot symbols live))) := by
  induction rs generalizing p with
  | nil => rfl
  | cons r rs ih => simp [Reflection.resolveAll, resolve_eq, ih, List.foldl_append]

end Reflection

namespace Project

/-- The project with the slots of all its reflections rewritten by `h`. -/
def mapSlots (h : Reference → Option Link) (p : Project) : Project :=
  { p with reflections := p.reflections.map (Reflection.mapSlots h) }

variable (h : Reference → Option Link) (p : Project)

@[simp] theorem symbols_mapSlots : (p.mapSlots h).symbols = p.symbols := rfl

@[simp] theorem size_mapSlots : (p.mapSlots h).reflections.size = p.reflections.size := by
  simp [mapSlots]

/-- Rewriting slots keeps every reflection, so it keeps what links see. -/
@[simp] theorem targets_mapSlots : (p.mapSlots h).targets = p.targets := by
  funext cell
  simp [targets, mapSlots, Function.comp_def]

theorem references_mapSlots : (p.mapSlots h).references = p.references.map (Reference.restamp h) := by
  simp only [references, mapSlots, Array.toList_map, List.flatMap_map,
    Reflection.references_mapSlots, List.map_flatMap]

/-- The attempts of a pass: every reference once, in walk order, each against the table and the
reflections as they were before the pass. -/
theorem attempts_eq :
    p.attempts = (p.references.foldl (fun q r => (Progress.step p.symbols p.targets q r).1) {},
      p.mapSlots (Reference.attemptSlot p.symbols p.targets)) := by
  simp only [attempts, Reflection.resolveAll_eq, references, mapSlots, ← Array.toList_map,
    Array.toArray_toList]

/-- The pass rewrites every slot with what its attempt leaves. -/
theorem resolve_project : p.resolve.project = p.mapSlots (Reference.attemptSlot p.symbols p.targets) := by
  simp [resolve, attempts_eq]

/-- The pass counts the outcomes of its attempts. -/
theorem resolve_stats :
    p.resolve.stats = Stats.ofOutcomes (p.references.map (Reference.attemptOutcome p.symbols p.targets)) := by
  have houtcomes :
      p.attempts.1.outcomes = p.references.map (Reference.attemptOutcome p.symbols p.targets) := by
    rw [attempts_eq, outcomes_foldl_step]
    rfl
  simp only [resolve, Progress.stats, houtcomes]

theorem resolveParallel_project : p.resolveParallel.project = p.resolve.project := rfl

theorem resolveParallel_stats : p.resolveParallel.stats = p.resolve.stats := by
  simp only [resolveParallel, resolve, Stats.ofParts_eq, Progress.stats]

end Project

end DocLinks
