import DocLinks.Session
import DocLinks.Proofs.Resolve.Pass
import DocLinks.Proofs.Convert.Binding

/-! The slots of a session's references over any run of steps. A step only adds reflections,
lets go of them, adds references, or writes an empty slot, so a written slot keeps its link for
good: the same reflection and the same id, whatever steps come, and a reference whose slot is
written does not change at all. A reflection that nothing holds any more is never held again, not
even when a new reflection with its id is made, so a reference bound to it reads as unbound and
shows its written name from then on. In every session reached by steps, a link names the id of the
reflection in its cell: a resolved reference writes the id in its slot as the target of its
record. Binding answers whether it wrote the slot. Letting go of the table lets go of what only
the table held, so a reference a resolve bound to such a reflection reads as unbound from then
on, however later tables map its symbol. -/

namespace DocLinks

/-- An attempt leaves a slot as it is, or writes an empty one with the link of what the table
holds for the reference's symbol. -/
theorem Reference.attemptSlot_cases (symbols : SymbolMap) (live : Targets) (r : Reference) :
    r.attemptSlot symbols live = r.slot ∨
      r.slot = none ∧ ∃ e, symbols.lookup r.symbol = some e ∧ r.attemptSlot symbols live = some e.link := by
  by_cases hres : r.isResolved live = true
  · exact .inl (Reference.attempt_of_isResolved symbols live hres).1
  · unfold Reference.attemptSlot Reference.attempt
    by_cases hs : isSentinel r.symbol = true
    · simp [hres, hs]
    · cases symbols.lookup r.symbol with
      | none => simp [hres, hs]
      | some e => cases r.slot <;> simp [hres, hs]

namespace Reference

variable {r : Reference} {live : Targets}

/-- A reference is resolved exactly when its slot is written and the reflection it names lives. -/
theorem isResolved_iff : r.isResolved live = true ↔ ∃ l t, r.slot = some l ∧ live l.cell = some t := by
  simp only [isResolved, target, Option.isSome_iff_exists, Option.bind_eq_some_iff]
  constructor
  · rintro ⟨t, l, hl, ht⟩
    exact ⟨l, t, hl, ht⟩
  · rintro ⟨l, t, hl, ht⟩
    exact ⟨t, l, hl, ht⟩

theorem displayName_of_isResolved (h : r.isResolved live = true) :
    ∃ t, r.target live = some t ∧ r.displayName live = t.name := by
  obtain ⟨t, ht⟩ := Option.isSome_iff_exists.mp h
  exact ⟨t, ht, by simp [displayName, ht]⟩

theorem displayName_of_not_isResolved (h : r.isResolved live = false) : r.displayName live = r.name := by
  simp only [isResolved, Option.isSome_eq_false_iff, Option.isNone_iff_eq_none] at h
  simp [displayName, h]

end Reference

namespace Session

/-- Runs steps one after the other. -/
def run (s : Session) (steps : List Step) : Session := steps.foldl (fun s st => (s.step st).1) s

/-- The reference at a position of the session's list. -/
def referenceAt (s : Session) (i : Nat) : Option Reference := s.references[i]?.bind TypeExpr.asReference

/-- A link names the id of the reflection made in its cell. -/
def LinkOk (s : Session) (l : Link) : Prop := (s.cells[l.cell]?).map (·.id) = some l.id

/-- An expression of a session's list is a reference whose link, if any, is sound. -/
def Sound (s : Session) (t : TypeExpr) : Prop := ∃ r, t.asReference = some r ∧ ∀ l ∈ r.slot, s.LinkOk l

/-- An expression after a step: the same, or with its empty slot written. -/
def Fills (t t' : TypeExpr) : Prop := t' = t ∨ ∃ l, t' = bindSlot l t

/-- What an attempt leaves of an expression of a session's list: a reference gets the slot its
attempt leaves. -/
def passSlot (symbols : SymbolMap) (live : Targets) (t : TypeExpr) : TypeExpr :=
  match t.asReference with
  | none => t
  | some r =>
    match (r.attempt symbols live).slot with
    | some l => bindSlot l t
    | none => t

section Expressions

variable {t t' t'' : TypeExpr}

theorem bindSlot_bindSlot (l l' : Link) (t : TypeExpr) : bindSlot l' (bindSlot l t) = bindSlot l t := by
  cases t with
  | reference a n s args slot => cases slot <;> rfl
  | _ => rfl

theorem asReference_bindSlot (l : Link) (t : TypeExpr) :
    (bindSlot l t).asReference = t.asReference.map fun r => { r with slot := r.slot.or (some l) } := by
  cases t with
  | reference a n s args slot => cases slot <;> rfl
  | _ => rfl

theorem Fills.refl (t : TypeExpr) : Fills t t := .inl rfl

theorem Fills.trans : Fills t t' → Fills t' t'' → Fills t t''
  | .inl h, h' => h ▸ h'
  | .inr ⟨l, h⟩, .inl h' => .inr ⟨l, h' ▸ h⟩
  | .inr ⟨l, h⟩, .inr ⟨l', h'⟩ => .inr ⟨l, by rw [h', h, bindSlot_bindSlot]⟩

/-- A reference keeps everything through a step but an empty slot, which may get written. -/
theorem Fills.asReference (h : Fills t t') :
    ∃ o, t'.asReference = t.asReference.map fun r => { r with slot := r.slot.or o } := by
  rcases h with h | ⟨l, rfl⟩
  · rw [h]
    exact ⟨none, by cases t.asReference <;> simp⟩
  · exact ⟨some l, asReference_bindSlot l t⟩

theorem fills_passSlot (symbols : SymbolMap) (live : Targets) (t : TypeExpr) :
    Fills t (passSlot symbols live t) := by
  unfold passSlot
  split
  · exact .refl t
  · split
    · exact .inr ⟨_, rfl⟩
    · exact .refl t

end Expressions

variable {s s' s'' : Session}

theorem poolEntry_eq_some {id : Nat} {e : Entry} :
    s.poolEntry id = some e ↔ s.pool.lookup id = some e.cell ∧ s.cells[e.cell]? = some e.target := by
  obtain ⟨cell, target⟩ := e
  simp only [poolEntry, poolCell, Option.bind_eq_bind, Option.bind_eq_some_iff, Option.pure_def,
    Option.some.injEq, Entry.mk.injEq]
  constructor
  · rintro ⟨c, hc, t, ht, rfl, rfl⟩
    exact ⟨hc, ht⟩
  · rintro ⟨hc, ht⟩
    exact ⟨cell, hc, target, ht, rfl, rfl⟩

theorem holds_iff {c : Nat} :
    s.holds c = true ↔ (∃ p ∈ s.pool, p.2 = c) ∨ ∃ x ∈ s.table.entries, x.2.cell = c := by
  simp [holds, List.any_eq_true]

theorem holds_of_poolEntry {id : Nat} {e : Entry} (h : s.poolEntry id = some e) : s.holds e.cell = true := by
  obtain ⟨l₁, l₂, hpool, -⟩ := List.lookup_eq_some_iff.mp (poolEntry_eq_some.mp h).1
  exact holds_iff.mpr (.inl ⟨(id, e.cell), by simp [hpool], rfl⟩)

theorem holds_of_entry {x : Int × Entry} (h : x ∈ s.table.entries) : s.holds x.2.cell = true :=
  holds_iff.mpr (.inr ⟨x, h, rfl⟩)

/-- The link a bound pool reflection gives is sound. -/
theorem linkOk_of_poolEntry {id : Nat} {e : Entry} (h : s.poolEntry id = some e) : s.LinkOk e.link := by
  simp [LinkOk, Entry.link, (poolEntry_eq_some.mp h).2]

/-- A fold that threads a state and appends one item per element. -/
theorem foldl_append_each {α σ : Type} (f : σ × List α → α → σ × List α) (g : σ → α → σ)
    (k : α → α) (hf : ∀ p acc x, f (p, acc) x = (g p x, acc ++ [k x])) :
    ∀ (xs : List α) (p : σ) (acc : List α), xs.foldl f (p, acc) = (xs.foldl g p, acc ++ xs.map k)
  | [], _, _ => by simp
  | x :: xs, p, acc => by
      rw [List.foldl_cons, hf, foldl_append_each f g k hf xs, List.map_cons, List.append_assoc,
        List.singleton_append, List.foldl_cons]

/-- The progress of attempting the references among expressions, one after the other. -/
def passProgress (symbols : SymbolMap) (live : Targets) (ts : List TypeExpr) : Progress :=
  (ts.filterMap TypeExpr.asReference).foldl (fun p r => (p.step symbols live r).1) {}

theorem foldl_step_asReference (symbols : SymbolMap) (live : Targets) :
    ∀ (ts : List TypeExpr) (p : Progress),
      ts.foldl (fun p t => match t.asReference with
        | none => p
        | some r => (p.step symbols live r).1) p =
      (ts.filterMap TypeExpr.asReference).foldl (fun p r => (p.step symbols live r).1) p
  | [], _ => rfl
  | t :: ts, p => by
      cases ht : t.asReference <;> simp [ht, foldl_step_asReference symbols live ts]

/-- Resolving every reference of a frozen session: each expression of the list gets what its
attempt leaves, and the counters count the attempts' outcomes. -/
theorem step_resolveAll (h : s.frozen = true) :
    s.step .resolveAll =
      ({ s with references := (s.references.toList.map (passSlot s.table.freeze s.targets)).toArray },
        .counted (passProgress s.table.freeze s.targets s.references.toList).stats,
        (passProgress s.table.freeze s.targets s.references.toList).notes) := by
  simp only [step, h, Bool.not_true, Bool.false_eq_true, if_false]
  rw [foldl_append_each _ (fun p t => match t.asReference with
      | none => p
      | some r => (p.step s.table.freeze s.targets r).1) (passSlot s.table.freeze s.targets)]
  · simp only [List.nil_append, foldl_step_asReference, passProgress]
  · intro p acc t
    cases ht : t.asReference with
    | none => simp [passSlot, ht]
    | some r =>
        cases hslot : (r.attempt s.table.freeze s.targets).slot <;>
          simp only [passSlot, ht, Progress.step, hslot]

/-- What a session reached by steps satisfies: every table entry sees the reflection made in its
cell, and every expression of its list is a reference whose link is sound. -/
structure Wf (s : Session) : Prop where
  entry : ∀ x ∈ s.table.entries, s.cells[x.2.cell]? = some x.2.target
  reference : ∀ (i : Nat) (t : TypeExpr), s.references[i]? = some t → s.Sound t

/-- How a session may change over steps: reflections are only added, a cell that nothing holds is
never held again, and every expression of the list stays, with at most its empty slot written. -/
structure Grows (s s' : Session) : Prop where
  size : s.cells.size ≤ s'.cells.size
  cells : ∀ (c : Nat) (t : Target), s.cells[c]? = some t → s'.cells[c]? = some t
  holds : ∀ c, s'.holds c = true → s.holds c = true ∨ s.cells.size ≤ c
  references : ∀ (i : Nat) (t : TypeExpr), s.references[i]? = some t →
    ∃ t', s'.references[i]? = some t' ∧ Fills t t'

theorem Grows.refl (s : Session) : s.Grows s :=
  ⟨Nat.le_refl _, fun _ _ h => h, fun _ h => .inl h, fun _ t h => ⟨t, h, .refl t⟩⟩

theorem Grows.trans (h : s.Grows s') (h' : s'.Grows s'') : s.Grows s'' where
  size := Nat.le_trans h.size h'.size
  cells c t hc := h'.cells c t (h.cells c t hc)
  holds c hc := by
    rcases h'.holds c hc with hc' | hc'
    · exact h.holds c hc'
    · exact .inr (Nat.le_trans h.size hc')
  references i t hi := by
    obtain ⟨t', hi', hf⟩ := h.references i t hi
    obtain ⟨t'', hi'', hf'⟩ := h'.references i t' hi'
    exact ⟨t'', hi'', hf.trans hf'⟩

theorem LinkOk.grow {l : Link} (h : s.Grows s') (hl : s.LinkOk l) : s'.LinkOk l := by
  unfold LinkOk at hl ⊢
  cases hc : s.cells[l.cell]? with
  | none => simp [hc] at hl
  | some t => rw [h.cells _ _ hc]; rwa [hc] at hl

theorem Sound.grow {t : TypeExpr} (h : s.Grows s') (ht : s.Sound t) : s'.Sound t := by
  obtain ⟨r, hr, hl⟩ := ht
  exact ⟨r, hr, fun l hmem => (hl l hmem).grow h⟩

theorem Sound.bindSlot {t : TypeExpr} {l : Link} (ht : s.Sound t) (hl : s.LinkOk l) :
    s.Sound (bindSlot l t) := by
  obtain ⟨r, hr, hslot⟩ := ht
  refine ⟨{ r with slot := r.slot.or (some l) }, by rw [asReference_bindSlot, hr]; rfl,
    fun l' hl' => ?_⟩
  cases hs : r.slot with
  | none =>
      rw [hs] at hl'
      simp only [Option.none_or, Option.mem_def, Option.some.injEq] at hl'
      exact hl' ▸ hl
  | some l₀ =>
      rw [hs] at hl'
      simp only [Option.some_or, Option.mem_def, Option.some.injEq] at hl'
      exact hl' ▸ hslot l₀ hs

/-- What the table holds for a symbol is a sound link. -/
theorem Wf.linkOk_lookup (hs : s.Wf) {sym : Int} {e : Entry} (h : s.table.freeze.lookup sym = some e) :
    s.LinkOk e.link := by
  change s.table.entries.lookup sym = some e at h
  obtain ⟨l₁, l₂, hentries, -⟩ := List.lookup_eq_some_iff.mp h
  have hmem : (sym, e) ∈ s.table.entries := by simp [hentries]
  simp [LinkOk, Entry.link, hs.entry _ hmem]

theorem Wf.sound_passSlot (hs : s.Wf) (live : Targets) {t : TypeExpr} (ht : s.Sound t) :
    s.Sound (passSlot s.table.freeze live t) := by
  obtain ⟨r, hr, hslot⟩ := ht
  unfold passSlot
  rw [hr]
  dsimp only
  cases ha : (r.attempt s.table.freeze live).slot with
  | none => exact ⟨r, hr, hslot⟩
  | some l =>
      have hl : s.LinkOk l := by
        rcases Reference.attemptSlot_cases s.table.freeze live r with hsame | ⟨-, e, he, hwrite⟩
        · exact hslot l (by rw [← hsame]; simp [Reference.attemptSlot, ha])
        · rw [Reference.attemptSlot, ha, Option.some.injEq] at hwrite
          exact hwrite ▸ hs.linkOk_lookup he
      exact Sound.bindSlot ⟨r, hr, hslot⟩ hl

section Updates

variable {i : Nat} {t t' x : TypeExpr}

/-- A step that only rewrites the list, keeping every expression with at most its empty slot
written. -/
theorem grows_references {refs : Array TypeExpr}
    (h : ∀ (i : Nat) (t : TypeExpr), s.references[i]? = some t → ∃ t', refs[i]? = some t' ∧ Fills t t') :
    s.Grows { s with references := refs } :=
  ⟨Nat.le_refl _, fun _ _ hc => hc, fun _ hc => .inl hc, h⟩

theorem grows_push (x : TypeExpr) : s.Grows { s with references := s.references.push x } :=
  grows_references fun i t hi => ⟨t, by
    have hlt : i < s.references.size := (Array.getElem?_eq_some_iff.mp hi).1
    rw [Array.getElem?_push, if_neg (Nat.ne_of_lt hlt), hi], .refl t⟩

theorem grows_setIfInBounds (hi : s.references[i]? = some t) (hf : Fills t t') :
    s.Grows { s with references := s.references.setIfInBounds i t' } :=
  grows_references fun j u hj => by
    rw [Array.getElem?_setIfInBounds]
    by_cases hij : i = j
    · subst hij
      rw [hi] at hj
      cases hj
      exact ⟨t', by simp [(Array.getElem?_eq_some_iff.mp hi).1], hf⟩
    · exact ⟨u, by simp [hij, hj], .refl u⟩

theorem Wf.push (hs : s.Wf) (hx : s.Sound x) : { s with references := s.references.push x }.Wf := by
  refine ⟨hs.entry, fun j u hj => ?_⟩
  rw [Array.getElem?_push] at hj
  split at hj
  · cases hj
    exact hx
  · exact hs.reference j u hj

theorem Wf.setIfInBounds (hs : s.Wf) (ht' : s.Sound t') :
    { s with references := s.references.setIfInBounds i t' }.Wf := by
  refine ⟨hs.entry, fun j u hj => ?_⟩
  rw [Array.getElem?_setIfInBounds] at hj
  split at hj
  · split at hj
    · cases hj
      exact ht'
    · cases hj
  · exact hs.reference j u hj

theorem grows_passSlot (live : Targets) :
    s.Grows { s with references := (s.references.toList.map (passSlot s.table.freeze live)).toArray } :=
  grows_references fun i t hi =>
    ⟨_, by simp [Array.getElem?_toList, hi], fills_passSlot s.table.freeze live t⟩

theorem Wf.passAll (hs : s.Wf) (live : Targets) :
    { s with references := (s.references.toList.map (passSlot s.table.freeze live)).toArray }.Wf := by
  refine ⟨hs.entry, fun j u hj => ?_⟩
  simp only [List.getElem?_toArray, List.getElem?_map, Array.getElem?_toList, Option.map_eq_some_iff] at hj
  obtain ⟨t, ht, rfl⟩ := hj
  exact hs.sound_passSlot live (hs.reference j t ht)

theorem Wf.grow (hs : s.Wf) (h : s.Grows s') (htable : s'.table = s.table)
    (hrefs : s'.references = s.references) : s'.Wf where
  entry x hx := h.cells _ _ (hs.entry x (htable ▸ hx))
  reference i t hi := (hs.reference i t (hrefs ▸ hi)).grow h

/-- Making a reflection puts it in a new cell, which only the pool holds. -/
theorem grows_reflection (x : Target) (id : Nat) :
    s.Grows { s with cells := s.cells.push x, pool := (id, s.cells.size) :: s.pool.filter (·.1 != id) } where
  size := by simp
  cells c t hc := by
    have hlt : c < s.cells.size := (Array.getElem?_eq_some_iff.mp hc).1
    rw [Array.getElem?_push, if_neg (Nat.ne_of_lt hlt), hc]
  holds c hc := by
    rcases holds_iff.mp hc with ⟨p, hp, rfl⟩ | hentry
    · rcases List.mem_cons.mp hp with rfl | hp
      · exact .inr (Nat.le_refl _)
      · exact .inl (holds_iff.mpr (.inl ⟨p, (List.mem_filter.mp hp).1, rfl⟩))
    · exact .inl (holds_iff.mpr (.inr hentry))
  references i t hi := ⟨t, hi, .refl t⟩

/-- Taking reflections out of the pool makes nothing held that was not. -/
theorem grows_filterPool (f : Nat × Nat → Bool) : s.Grows { s with pool := s.pool.filter f } where
  size := Nat.le_refl _
  cells _ _ hc := hc
  holds c hc := by
    rcases holds_iff.mp hc with ⟨p, hp, rfl⟩ | hentry
    · exact .inl (holds_iff.mpr (.inl ⟨p, (List.mem_filter.mp hp).1, rfl⟩))
    · exact .inl (holds_iff.mpr (.inr hentry))
  references i t hi := ⟨t, hi, .refl t⟩

/-- Registering a pool reflection makes the table hold a cell the pool holds. -/
theorem grows_register {id : Nat} {sym : Int} {e : Entry} (he : s.poolEntry id = some e) :
    s.Grows { s with table := { entries := insertBySymbol sym e s.table.entries } } where
  size := Nat.le_refl _
  cells _ _ hc := hc
  holds c hc := by
    rcases holds_iff.mp hc with hpool | ⟨x, hx, rfl⟩
    · exact .inl (holds_iff.mpr (.inl hpool))
    · rcases mem_insertBySymbol.mp hx with rfl | hx
      · exact .inl (holds_of_poolEntry he)
      · exact .inl (holds_of_entry hx)
  references i t hi := ⟨t, hi, .refl t⟩

/-- Letting go of the table makes nothing held that was not. -/
theorem grows_release : s.Grows { s with table := {}, frozen := false } where
  size := Nat.le_refl _
  cells _ _ hc := hc
  holds c hc := by
    rcases holds_iff.mp hc with hpool | ⟨x, hx, -⟩
    · exact .inl (holds_iff.mpr (.inl hpool))
    · exact absurd hx List.not_mem_nil
  references i t hi := ⟨t, hi, .refl t⟩

theorem Wf.release (hs : s.Wf) : { s with table := {}, frozen := false }.Wf where
  entry _ hx := absurd hx List.not_mem_nil
  reference := hs.reference

theorem Wf.register (hs : s.Wf) {id : Nat} {sym : Int} {e : Entry} (he : s.poolEntry id = some e) :
    { s with table := { entries := insertBySymbol sym e s.table.entries } }.Wf where
  entry x hx := by
    rcases mem_insertBySymbol.mp hx with rfl | hx
    · exact (poolEntry_eq_some.mp he).2
    · exact hs.entry x hx
  reference := hs.reference

end Updates

/-- Every step keeps a session well formed, and changes it only as `Grows` allows. -/
theorem Wf.step (hs : s.Wf) (st : Step) : s.Grows (s.step st).1 ∧ (s.step st).1.Wf := by
  cases st with
  | reflection id name kind =>
      have h := grows_reflection (s := s) { id, name, kind } id
      exact ⟨h, hs.grow h rfl rfl⟩
  | drop id =>
      have h := grows_filterPool (s := s) (·.1 != id)
      exact ⟨h, hs.grow h rfl rfl⟩
  | register sym id =>
      cases he : s.poolEntry id with
      | none => simp only [Session.step, he]; exact ⟨.refl s, hs⟩
      | some e =>
          simp only [Session.step, he]
          split
          · exact ⟨.refl s, hs⟩
          · split
            · rename_i t hr
              obtain ⟨-, -, rfl⟩ := SymbolTable.register_eq_ok hr
              exact ⟨grows_register he, hs.register he⟩
            · exact ⟨.refl s, hs⟩
  | get sym =>
      by_cases hf : s.frozen = true <;> simp only [Session.step, hf] <;> exact ⟨.refl s, hs⟩
  | finish =>
      by_cases hf : s.frozen = true
      · simp only [Session.step, hf, if_true]; exact ⟨.refl s, hs⟩
      · simp only [Session.step, hf, Bool.false_eq_true, if_false]
        exact ⟨⟨Nat.le_refl _, fun _ _ hc => hc, fun _ hc => .inl hc, fun _ t hi => ⟨t, hi, .refl t⟩⟩,
          ⟨hs.entry, hs.reference⟩⟩
  | lookup sym =>
      by_cases hf : s.frozen = true <;> simp only [Session.step, hf] <;> exact ⟨.refl s, hs⟩
  | release => exact ⟨grows_release, hs.release⟩
  | reference name sym target array arguments =>
      simp only [Session.step]
      split
      · exact ⟨.refl s, hs⟩
      · rename_i slot hslot
        split
        · exact ⟨.refl s, hs⟩
        · have hlink : ∀ l ∈ slot, s.LinkOk l := by
            intro l hl
            cases target with
            | none =>
                simp only [Except.ok.injEq] at hslot
                simp [← hslot] at hl
            | some id =>
                cases he : s.poolEntry id with
                | none => simp [he] at hslot
                | some e =>
                    simp only [he, Except.ok.injEq] at hslot
                    simp only [← hslot, Option.mem_def, Option.some.injEq] at hl
                    exact hl ▸ linkOk_of_poolEntry he
          exact ⟨grows_push _, hs.push ⟨_, rfl, hlink⟩⟩
  | bind index id =>
      simp only [Session.step]
      split
      · exact ⟨.refl s, hs⟩
      · rename_i e he
        split
        · exact ⟨.refl s, hs⟩
        · rename_i t ht
          exact ⟨grows_setIfInBounds ht (.inr ⟨e.link, rfl⟩),
            hs.setIfInBounds ((hs.reference index t ht).bindSlot (linkOk_of_poolEntry he))⟩
  | resolve index =>
      simp only [Session.step]
      split
      · exact ⟨.refl s, hs⟩
      · split
        · exact ⟨.refl s, hs⟩
        · rename_i t ht
          split
          · exact ⟨.refl s, hs⟩
          · rename_i r hr
            have hsound := hs.sound_passSlot s.targets (hs.reference index t ht)
            cases ha : (r.attempt s.table.freeze s.targets).slot with
            | none => exact ⟨grows_setIfInBounds ht (.refl t), hs.setIfInBounds (hs.reference index t ht)⟩
            | some l =>
                simp only [passSlot, hr, ha] at hsound
                exact ⟨grows_setIfInBounds ht (.inr ⟨l, rfl⟩), hs.setIfInBounds hsound⟩
  | resolveAll =>
      by_cases hf : s.frozen = true
      · rw [step_resolveAll hf]
        exact ⟨grows_passSlot s.targets, hs.passAll s.targets⟩
      · simp only [Session.step, hf, Bool.not_false, if_true]; exact ⟨.refl s, hs⟩
  | «show» index =>
      simp only [Session.step]
      split <;> exact ⟨.refl s, hs⟩

theorem Wf.run (hs : s.Wf) (steps : List Step) : s.Grows (s.run steps) ∧ (s.run steps).Wf := by
  induction steps generalizing s with
  | nil => exact ⟨.refl s, hs⟩
  | cons st steps ih =>
      obtain ⟨hgrow, hwf⟩ := hs.step st
      obtain ⟨hgrow', hwf'⟩ := ih hwf
      exact ⟨hgrow.trans hgrow', hwf'⟩

theorem wf_empty : ({} : Session).Wf := ⟨by simp, by simp⟩

/-- Every session reached by steps from the empty one is well formed. -/
theorem wf_run (steps : List Step) : (Session.run {} steps).Wf := (wf_empty.run steps).2

theorem referenceAt_eq_some {i : Nat} {r : Reference} :
    s.referenceAt i = some r ↔ ∃ t, s.references[i]? = some t ∧ t.asReference = some r := by
  simp [referenceAt, Option.bind_eq_some_iff]

/-- Over later steps a reference keeps its name, symbol and type arguments, and its slot, if it
was written; an empty slot may get written. -/
theorem Grows.referenceAt (h : s.Grows s') {i : Nat} {r : Reference} (hr : s.referenceAt i = some r) :
    ∃ o, s'.referenceAt i = some { r with slot := r.slot.or o } := by
  obtain ⟨t, ht, htr⟩ := referenceAt_eq_some.mp hr
  obtain ⟨t', ht', hfill⟩ := h.references i t ht
  obtain ⟨o, ho⟩ := hfill.asReference
  exact ⟨o, referenceAt_eq_some.mpr ⟨t', ht', by rw [ho, htr]; rfl⟩⟩

/-- A reflection that nothing holds any more is never held again. -/
theorem Grows.dead (h : s.Grows s') {c : Nat} (hc : c < s.cells.size) (hdead : s.targets c = none) :
    s'.targets c = none := by
  have hfree : s.holds c = false := by
    cases hheld : s.holds c with
    | false => rfl
    | true => simp [targets, hheld, hc] at hdead
  have hfree' : s'.holds c = false := by
    cases hheld : s'.holds c with
    | false => rfl
    | true =>
        rcases h.holds c hheld with hheld' | hlarge
        · rw [hfree] at hheld'
          cases hheld'
        · exact absurd hc (Nat.not_lt.mpr hlarge)
  simp [targets, hfree']

theorem Wf.linkOk {i : Nat} {r : Reference} (hs : s.Wf) (hr : s.referenceAt i = some r) :
    ∀ l ∈ r.slot, s.LinkOk l := by
  obtain ⟨t, ht, htr⟩ := referenceAt_eq_some.mp hr
  obtain ⟨r', hr', hlink⟩ := hs.reference i t ht
  rw [htr, Option.some.injEq] at hr'
  exact hr' ▸ hlink

theorem LinkOk.lt_size {l : Link} (hl : s.LinkOk l) : l.cell < s.cells.size := by
  by_contra hge
  simp [LinkOk, Nat.le_of_not_lt hge] at hl

/-- The target a resolved reference of a session shows is the reflection its link names, so its id
is the id in the slot. -/
theorem Wf.target_id {i : Nat} {r : Reference} (hs : s.Wf) (hr : s.referenceAt i = some r) :
    (r.target s.targets).map (·.id) = if r.isResolved s.targets then r.slot.map (·.id) else none := by
  cases hslot : r.slot with
  | none => simp [Reference.isResolved, Reference.target, hslot]
  | some l =>
      have hl := hs.linkOk hr l (by simp [hslot])
      cases hlive : s.targets l.cell with
      | none => simp [Reference.isResolved, Reference.target, hslot, hlive]
      | some t =>
          have hcell : s.cells[l.cell]? = some t := by
            unfold targets at hlive
            split at hlive
            · exact hlive
            · cases hlive
          simp only [LinkOk, hcell, Option.map_some, Option.some.injEq] at hl
          simp [Reference.isResolved, Reference.target, hslot, hlive, hl]

/-- Binding answers whether it wrote the slot, and writes an empty one with the pool reflection's
link. -/
theorem step_bind {i id : Nat} {r : Reference} {w : Bool} {d : String}
    (hr : s.referenceAt i = some r) (hreply : (s.step (.bind i id)).2.1 = .bound w d) :
    ∃ e, s.poolEntry id = some e ∧ w = r.slot.isNone ∧
      (s.step (.bind i id)).1.referenceAt i = some { r with slot := r.slot.or (some e.link) } := by
  obtain ⟨t, ht, htr⟩ := referenceAt_eq_some.mp hr
  have hlt : i < s.references.size := (Array.getElem?_eq_some_iff.mp ht).1
  cases he : s.poolEntry id with
  | none => simp [Session.step, he] at hreply
  | some e =>
      obtain ⟨a, n, sym, args, slot, rfl, rfl⟩ : ∃ a n sym args slot,
          t = .reference a n sym args slot ∧ r = ⟨n, sym, args, slot⟩ := by
        cases t <;> simp [TypeExpr.asReference] at htr
        exact ⟨_, _, _, _, _, rfl, htr.symm⟩
      simp only [Session.step, he, ht] at hreply ⊢
      refine ⟨e, rfl, ?_, ?_⟩
      · cases slot <;> simp at hreply ⊢ <;> exact hreply.1
      · cases slot <;> simp [referenceAt, hlt, bindSlot, TypeExpr.asReference]

/-- A written slot whose reflection nothing holds keeps its link over any later steps, and the
reference reads as unbound, with its written name. -/
theorem Wf.dead_slot (hs : s.Wf) {i : Nat} {r : Reference} (hr : s.referenceAt i = some r) {l : Link}
    (hl : r.slot = some l) (hdead : s.targets l.cell = none) (post : List Step) :
    (s.run post).referenceAt i = some r ∧ (s.run post).targets l.cell = none ∧
      r.isResolved (s.run post).targets = false ∧ r.displayName (s.run post).targets = r.name := by
  have hgrow := (hs.run post).1
  obtain ⟨o, hr'⟩ := hgrow.referenceAt hr
  have hsame : { r with slot := r.slot.or o } = r := by
    rw [hl, Option.some_or, ← hl]
  have hdead' := hgrow.dead (hs.linkOk hr l (by simp [hl])).lt_size hdead
  have hunresolved : r.isResolved (s.run post).targets = false := by
    simp [Reference.isResolved, Reference.target, hl, hdead']
  exact ⟨hsame ▸ hr', hdead', hunresolved, Reference.displayName_of_not_isResolved hunresolved⟩

theorem run_append (s : Session) (pre post : List Step) : s.run (pre ++ post) = (s.run pre).run post :=
  List.foldl_append

theorem holds_release (c : Nat) : (s.step .release).1.holds c = s.pool.any (·.2 == c) :=
  Bool.or_false _

/-- Letting go of the table leaves alive only the reflections the pool holds. -/
theorem targets_release (c : Nat) :
    (s.step .release).1.targets c = if s.pool.any (·.2 == c) then s.cells[c]? else none := by
  unfold targets
  rw [holds_release]
  rfl

/-- A reference bound to a reflection that only the table holds reads as unbound, with its
written name, once the table is let go of, and stays so whatever steps follow, a new table
that knows its symbol included. -/
theorem release_unbinds_table_targets (pre : List Step) {i : Nat} {r : Reference} {l : Link}
    (hr : (Session.run {} pre).referenceAt i = some r) (hl : r.slot = some l)
    (hpool : (Session.run {} pre).pool.any (·.2 == l.cell) = false) (post : List Step) :
    let s := Session.run {} (pre ++ .release :: post)
    s.referenceAt i = some r ∧ r.isResolved s.targets = false ∧ r.displayName s.targets = r.name := by
  intro s
  have hsplit : s = (Session.run {} (pre ++ [.release])).run post := by
    rw [← run_append, List.append_assoc, List.singleton_append]
  have hreleased : Session.run {} (pre ++ [.release]) = ((Session.run {} pre).step .release).1 := by
    rw [run_append]
    rfl
  have hdead : (Session.run {} (pre ++ [.release])).targets l.cell = none := by
    rw [hreleased, targets_release]
    simp [hpool]
  have hr' : (Session.run {} (pre ++ [.release])).referenceAt i = some r := by
    rw [hreleased]
    exact hr
  have hs := wf_run (pre ++ [.release])
  obtain ⟨hat, -, hunbound, hname⟩ := hs.dead_slot hr' hl hdead post
  rw [hsplit]
  exact ⟨hat, hunbound, hname⟩

/-- The table alone holds `Foo`, which a resolve binds: the reference shows `Foo` until the table
is let go of, and its written name from then on, also after a second table maps its symbol to
`Bar` and it is resolved again. -/
example :
    let bound := Session.run {} [.reflection 0 "Foo" .class, .register 7 0, .drop 0,
      .reference "Written" 7 none false (.ok []), .finish, .resolve 0]
    let again := bound.run [.release, .reflection 1 "Bar" .class, .register 7 1, .finish, .resolve 0]
    bound.references[0]?.map (·.display bound.targets) = some "Foo" ∧
      again.references[0]?.map (·.display again.targets) = some "Written" :=
  ⟨rfl, rfl⟩

end Session

/-- With targets on, the record of a reference carries the id of the reflection it shows. -/
theorem TypeExpr.toRecord_of_asReference {t : TypeExpr} {r : Reference} (h : t.asReference = some r)
    {opts : RecordOptions} (hopts : opts.targets = true) (live : Targets) :
    ∃ a args, t.toRecord opts live = .reference a r.name r.symbol args ((r.target live).map (·.id)) := by
  cases t <;> simp only [asReference, reduceCtorEq, Option.some.injEq] at h
  subst h
  exact ⟨_, _, by rw [toRecord, hopts]; rfl⟩

/-- The slot of a reference in a session, over any steps. Whether it is resolved is whether its
slot is written and names a live reflection; it then shows that reflection's name and writes the
id in its slot as its record's target, and otherwise shows its written name and writes no target.
Binding a pool reflection answers whether the slot was empty, and writes it only then. Whatever
steps come, the reference keeps everything but an empty slot, and a written slot keeps its link,
to the same reflection and the same id. Once the reflection a slot names is gone, it stays gone,
so the reference reads as unresolved and shows its written name for good. -/
theorem reference_slot_lifecycle (pre : List Step) (i : Nat) (r : Reference)
    (hr : (Session.run {} pre).referenceAt i = some r) :
    let s := Session.run {} pre
    (r.isResolved s.targets = (r.target s.targets).isSome ∧
      (r.isResolved s.targets = true ↔ ∃ l t, r.slot = some l ∧ s.targets l.cell = some t)) ∧
    (r.isResolved s.targets = true → ∃ t, r.target s.targets = some t ∧ r.displayName s.targets = t.name) ∧
    (r.isResolved s.targets = false → r.displayName s.targets = r.name) ∧
    (∀ opts : RecordOptions, opts.targets = true → ∃ a args,
      s.references[i]?.map (TypeExpr.toRecord opts s.targets) =
        some (.reference a r.name r.symbol args
          (if r.isResolved s.targets then r.slot.map (·.id) else none))) ∧
    (∀ id w d, (s.step (.bind i id)).2.1 = .bound w d →
      ∃ e, s.poolEntry id = some e ∧ w = r.slot.isNone ∧
        (s.step (.bind i id)).1.referenceAt i = some { r with slot := r.slot.or (some e.link) }) ∧
    (∀ post, ∃ o, (s.run post).referenceAt i = some { r with slot := r.slot.or o }) ∧
    (∀ l, r.slot = some l → s.targets l.cell = none → ∀ post,
      (s.run post).referenceAt i = some r ∧ (s.run post).targets l.cell = none ∧
      r.isResolved (s.run post).targets = false ∧ r.displayName (s.run post).targets = r.name) := by
  intro s
  have hs : s.Wf := Session.wf_run pre
  refine ⟨⟨rfl, Reference.isResolved_iff⟩, Reference.displayName_of_isResolved,
    Reference.displayName_of_not_isResolved, fun opts hopts => ?_,
    fun id w d hreply => Session.step_bind hr hreply,
    fun post => ((hs.run post).1).referenceAt hr,
    fun l hl hdead post => hs.dead_slot hr hl hdead post⟩
  obtain ⟨t, ht, htr⟩ := Session.referenceAt_eq_some.mp hr
  obtain ⟨a, args, hrec⟩ := TypeExpr.toRecord_of_asReference htr hopts s.targets
  exact ⟨a, args, by rw [ht, Option.map_some, hrec, hs.target_id hr]⟩

/-- A reference bound on creation to a pool reflection that the pool then lets go of. -/
def droppedTargetSteps : List Step :=
  [.reflection 0 "Gone" .class, .reference "Foo" 3 (some 0) false (.ok []), .drop 0]

theorem dropped_target_lifecycle :
    (Session.run {} droppedTargetSteps).referenceAt 0 = some ⟨"Foo", 3, [], some ⟨0, 0⟩⟩ ∧
    let s := Session.run {} droppedTargetSteps
    let r : Reference := ⟨"Foo", 3, [], some ⟨0, 0⟩⟩
    (r.isResolved s.targets = (r.target s.targets).isSome ∧
      (r.isResolved s.targets = true ↔ ∃ l t, r.slot = some l ∧ s.targets l.cell = some t)) ∧
    (r.isResolved s.targets = true → ∃ t, r.target s.targets = some t ∧ r.displayName s.targets = t.name) ∧
    (r.isResolved s.targets = false → r.displayName s.targets = r.name) ∧
    (∀ opts : RecordOptions, opts.targets = true → ∃ a args,
      s.references[0]?.map (TypeExpr.toRecord opts s.targets) =
        some (.reference a r.name r.symbol args
          (if r.isResolved s.targets then r.slot.map (·.id) else none))) ∧
    (∀ id w d, (s.step (.bind 0 id)).2.1 = .bound w d →
      ∃ e, s.poolEntry id = some e ∧ w = r.slot.isNone ∧
        (s.step (.bind 0 id)).1.referenceAt 0 = some { r with slot := r.slot.or (some e.link) }) ∧
    (∀ post, ∃ o, (s.run post).referenceAt 0 = some { r with slot := r.slot.or o }) ∧
    (∀ l, r.slot = some l → s.targets l.cell = none → ∀ post,
      (s.run post).referenceAt 0 = some r ∧ (s.run post).targets l.cell = none ∧
      r.isResolved (s.run post).targets = false ∧ r.displayName (s.run post).targets = r.name) :=
  have h : (Session.run {} droppedTargetSteps).referenceAt 0 = some ⟨"Foo", 3, [], some ⟨0, 0⟩⟩ := rfl
  ⟨h, reference_slot_lifecycle droppedTargetSteps 0 _ h⟩

end DocLinks
