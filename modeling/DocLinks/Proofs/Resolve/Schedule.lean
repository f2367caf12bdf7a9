import DocLinks.Proofs.Resolve.Pass

/-! Resolving in any order. A parallel pass makes the attempts of the work list in whatever order
its workers reach them, each reference once, and counts their outcomes in chunks that it merges
two at a time in some tree. An attempt reads only the table, the reflections and the slot of its
own reference, and writes only that slot, so each attempt sees the slot as the pass found it:
every reference ends with the slot the sequential pass leaves, and each outcome is the one the
sequential pass sees. Counters merge by adding, so however the chunks are cut and merged the
counts are the sequential ones. -/

namespace DocLinks

/-- How the outcomes of a pass are shared out for counting: chunks of positions of the work list,
each counted from zero, merged two at a time in some tree. -/
inductive Split where
  | chunk (positions : List Nat)
  | merge (left right : Split)

namespace Split

/-- The positions a split counts, chunk by chunk from left to right. -/
def positions : Split → List Nat
  | .chunk ps => ps
  | .merge l r => l.positions ++ r.positions

/-- The counters of a split, given the outcome found at each position. -/
def stats (outcome : Nat → Option Outcome) : Split → Stats
  | .chunk ps => (ps.filterMap outcome).foldl Stats.record {}
  | .merge l r => (l.stats outcome).merge (r.stats outcome)

/-- A split counts the outcomes at all its positions, whatever its shape. -/
theorem stats_eq (outcome : Nat → Option Outcome) :
    ∀ split : Split, split.stats outcome = Stats.ofOutcomes (split.positions.filterMap outcome)
  | .chunk _ => rfl
  | .merge l r => by
      rw [stats, positions, List.filterMap_append, Stats.ofOutcomes_append, stats_eq outcome l,
        stats_eq outcome r]

end Split

/-- Makes attempts on the references at the given positions of a work list, in that order, each
attempt seeing the slots the earlier ones left; answers the work list afterwards and the position
and outcome of each attempt, in the order they were made. -/
def resolveInOrder (symbols : SymbolMap) (live : Targets) :
    List Reference → List Nat → List Reference × List (Nat × Outcome)
  | rs, [] => (rs, [])
  | rs, j :: js =>
    match rs[j]? with
    | none => resolveInOrder symbols live rs js
    | some r =>
      let a := r.attempt symbols live
      let rest := resolveInOrder symbols live (rs.set j { r with slot := a.slot }) js
      (rest.1, (j, a.outcome) :: rest.2)

section Order

variable (symbols : SymbolMap) (live : Targets)

/-- Attempting positions that are all different: each attempt sees the reference as it was at the
start, and the work list ends with exactly the attempted positions rewritten. -/
theorem resolveInOrder_eq (rs : List Reference) (js : List Nat) (hjs : js.Nodup) :
    (resolveInOrder symbols live rs js).2 =
        js.filterMap (fun j => rs[j]?.map fun r => (j, r.attemptOutcome symbols live)) ∧
      ∀ i, (resolveInOrder symbols live rs js).1[i]? =
        rs[i]?.map fun r => if i ∈ js then { r with slot := r.attemptSlot symbols live } else r := by
  induction js generalizing rs with
  | nil => simp [resolveInOrder]
  | cons j js ih =>
      obtain ⟨hj, hjs⟩ := List.nodup_cons.mp hjs
      cases hr : rs[j]? with
      | none =>
          obtain ⟨hdone, hslots⟩ := ih rs hjs
          refine ⟨by simp [resolveInOrder, hr, hdone], fun i => ?_⟩
          rw [resolveInOrder, hr]
          simp only [hslots i, List.mem_cons]
          by_cases hij : i = j
          · simp [hij, hr]
          · simp [hij]
      | some r =>
          obtain ⟨hdone, hslots⟩ := ih (rs.set j { r with slot := r.attemptSlot symbols live }) hjs
          have hframe : ∀ k ∈ js,
              (rs.set j { r with slot := r.attemptSlot symbols live })[k]? = rs[k]? := by
            intro k hk
            exact List.getElem?_set_ne (by rintro rfl; exact hj hk)
          refine ⟨?_, fun i => ?_⟩
          · simp only [resolveInOrder, hr, List.filterMap_cons, Option.map_some]
            rw [← Reference.attemptSlot, ← Reference.attemptOutcome, hdone]
            exact congrArg _ (List.filterMap_congr fun k hk => by rw [hframe k hk])
          · simp only [resolveInOrder, hr]
            rw [← Reference.attemptSlot, hslots i]
            by_cases hij : i = j
            · subst hij
              have hlt : i < rs.length := (List.getElem?_eq_some_iff.mp hr).1
              simp [hj, hr, List.getElem?_set_self hlt]
            · simp [hij, List.getElem?_set_ne (Ne.symm hij)]
end Order

theorem filterMap_range_getElem? {α β : Type} (f : α → β) :
    ∀ xs : List α, (List.range xs.length).filterMap (fun j => xs[j]?.map f) = xs.map f
  | [] => rfl
  | x :: xs => by
      rw [List.length_cons, List.range_succ_eq_map, List.filterMap_cons, List.filterMap_map]
      simp [filterMap_range_getElem? f xs]

theorem lookup_filterMap_getElem? {α β : Type} (xs : List α) (f : α → β) (i : Nat) :
    ∀ js : List Nat, (js.filterMap fun j => xs[j]?.map fun x => (j, f x)).lookup i =
      if i ∈ js then xs[i]?.map f else none
  | [] => rfl
  | j :: js => by
      cases hx : xs[j]? with
      | none =>
          rw [List.filterMap_cons, hx, Option.map_none, lookup_filterMap_getElem? xs f i js]
          by_cases hij : i = j
          · subst hij
            simp [hx]
          · simp [hij]
      | some x =>
          rw [List.filterMap_cons, hx, Option.map_some, List.lookup_cons,
            lookup_filterMap_getElem? xs f i js]
          by_cases hij : i = j
          · subst hij
            simp [hx]
          · have hne : (i == j) = false := by simp [hij]
            simp [hne, hij]

/-- A parallel pass answers what the sequential pass answers. More generally, making the attempts
in any order that visits every reference once, and counting their outcomes in any chunks that
cover every position once, merged in any tree, gives the sequential counters and leaves every
reference with the slot the sequential pass leaves. -/
theorem resolve_any_order_any_split (p : Project) :
    p.resolveParallel.stats = p.resolve.stats ∧ p.resolveParallel.project = p.resolve.project ∧
    ∀ (order : List Nat) (split : Split),
      order.Perm (List.range p.references.length) →
      split.positions.Perm (List.range p.references.length) →
      split.stats (fun j => (resolveInOrder p.symbols p.targets p.references order).2.lookup j) =
        p.resolve.stats ∧
      (resolveInOrder p.symbols p.targets p.references order).1.map (·.slot) =
        p.resolve.project.references.map (·.slot) := by
  refine ⟨p.resolveParallel_stats, p.resolveParallel_project, fun order split horder hsplit => ?_⟩
  set rs := p.references
  obtain ⟨hdone, hslots⟩ :=
    resolveInOrder_eq p.symbols p.targets rs order (horder.nodup_iff.mpr List.nodup_range)
  have hmem : ∀ i, i ∈ order ↔ i < rs.length := fun i => by
    rw [horder.mem_iff, List.mem_range]
  refine ⟨?_, ?_⟩
  · have houtcome : (fun j => (resolveInOrder p.symbols p.targets rs order).2.lookup j) =
        fun j => rs[j]?.map (Reference.attemptOutcome p.symbols p.targets) := by
      funext j
      rw [hdone, lookup_filterMap_getElem?]
      by_cases hj : j < rs.length
      · simp [(hmem j).mpr hj]
      · simp [(hmem j).not.mpr hj, List.getElem?_eq_none (Nat.le_of_not_lt hj)]
    rw [houtcome, Split.stats_eq, Stats.ofOutcomes_perm (hsplit.filterMap _),
      filterMap_range_getElem?, Project.resolve_stats]
  · rw [Project.resolve_project, Project.references_mapSlots, List.map_map]
    apply List.ext_getElem?
    intro i
    rw [List.getElem?_map, hslots i, List.getElem?_map]
    cases hi : rs[i]? with
    | none => rfl
    | some r =>
        have hlt : i < rs.length := (List.getElem?_eq_some_iff.mp hi).1
        simp [(hmem i).mpr hlt]

end DocLinks
