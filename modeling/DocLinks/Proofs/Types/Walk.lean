import DocLinks.Types.Record

/-! The walk over the references of a type expression. `mapSlots h` rewrites the slot of every
reference, at any depth, with what `h` answers for the reference as it was; its references are
those of the expression, each rewritten the same way. A visit that threads a state through the
references is such a rewrite as soon as the slot a step writes depends on the reference alone:
its state is then a fold over the references in walk order. Building an expression from a record
binds every reference to what the lookup answers for its symbol. -/

namespace DocLinks

namespace TypeExpr

mutual
/-- Rewrites the slot of every reference of an expression with what `h` answers for it. -/
def mapSlots (h : Reference → Option Link) : TypeExpr → TypeExpr
  | .intrinsic a n => .intrinsic a n
  | .reference a n s args slot => .reference a n s (mapSlotsAll h args) (h ⟨n, s, args, slot⟩)
  | .union a ms => .union a (mapSlotsAll h ms)
  | .tuple a es => .tuple a (mapSlotsAll h es)
  | .unknown a n => .unknown a n

/-- Rewrites the slots of expressions. -/
def mapSlotsAll (h : Reference → Option Link) : List TypeExpr → List TypeExpr
  | [] => []
  | t :: ts => mapSlots h t :: mapSlotsAll h ts
end

/-- The expression with every slot empty, as building it from its record leaves it. -/
def clearSlots (t : TypeExpr) : TypeExpr := t.mapSlots fun _ => none

theorem mapSlotsAll_eq_map (h : Reference → Option Link) (ts : List TypeExpr) :
    mapSlotsAll h ts = ts.map (mapSlots h) := by
  induction ts with
  | nil => rfl
  | cons t ts ih => rw [mapSlotsAll, ih, List.map_cons]

theorem referencesAll_eq_flatMap (ts : List TypeExpr) : referencesAll ts = ts.flatMap references := by
  induction ts with
  | nil => rfl
  | cons t ts ih => rw [referencesAll, ih, List.flatMap_cons]

end TypeExpr

/-- A reference as `mapSlots h` leaves it: its slot is what `h` answers for it, and the slots of
its type arguments are rewritten too. -/
def Reference.restamp (h : Reference → Option Link) (r : Reference) : Reference :=
  { r with arguments := TypeExpr.mapSlotsAll h r.arguments, slot := h r }

namespace Reference

variable (h : Reference → Option Link) (r : Reference)

@[simp] theorem restamp_name : (r.restamp h).name = r.name := rfl

@[simp] theorem restamp_symbol : (r.restamp h).symbol = r.symbol := rfl

@[simp] theorem restamp_slot : (r.restamp h).slot = h r := rfl

end Reference

namespace TypeExpr

mutual
theorem references_mapSlots (h : Reference → Option Link) :
    ∀ t : TypeExpr, (t.mapSlots h).references = t.references.map (Reference.restamp h)
  | .intrinsic _ _ => rfl
  | .unknown _ _ => rfl
  | .reference a n s args slot => by
      rw [mapSlots, references, references, referencesAll_mapSlotsAll h args, List.map_cons]
      rfl
  | .union a ms => by
      rw [mapSlots, references, references]
      exact referencesAll_mapSlotsAll h ms
  | .tuple a es => by
      rw [mapSlots, references, references]
      exact referencesAll_mapSlotsAll h es

theorem referencesAll_mapSlotsAll (h : Reference → Option Link) :
    ∀ ts : List TypeExpr, referencesAll (mapSlotsAll h ts) = (referencesAll ts).map (Reference.restamp h)
  | [] => rfl
  | t :: ts => by
      rw [mapSlotsAll, referencesAll, referencesAll, references_mapSlots h t,
        referencesAll_mapSlotsAll h ts, List.map_append]
end

mutual
/-- Rewriting with what every slot already holds changes nothing. -/
theorem mapSlots_eq_self {h : Reference → Option Link} :
    ∀ t : TypeExpr, (∀ r ∈ t.references, h r = r.slot) → t.mapSlots h = t
  | .intrinsic _ _, _ => rfl
  | .unknown _ _, _ => rfl
  | .reference a n s args slot, hs => by
      have hhead := hs ⟨n, s, args, slot⟩ (by simp [references])
      have hargs := mapSlotsAll_eq_self args fun r hr => hs r (by simp [references, hr])
      rw [mapSlots, hargs, hhead]
  | .union a ms, hs => by
      rw [mapSlots, mapSlotsAll_eq_self ms fun r hr => hs r (by simpa [references] using hr)]
  | .tuple a es, hs => by
      rw [mapSlots, mapSlotsAll_eq_self es fun r hr => hs r (by simpa [references] using hr)]

theorem mapSlotsAll_eq_self {h : Reference → Option Link} :
    ∀ ts : List TypeExpr, (∀ r ∈ referencesAll ts, h r = r.slot) → mapSlotsAll h ts = ts
  | [], _ => rfl
  | t :: ts, hs => by
      have ht := mapSlots_eq_self t fun r hr => hs r (by simp [referencesAll, hr])
      have hts := mapSlotsAll_eq_self ts fun r hr => hs r (by simp [referencesAll, hr])
      rw [mapSlotsAll, ht, hts]
end

mutual
/-- A visit whose steps write a slot that depends on the reference alone rewrites the slots in
place and folds the state over the references in walk order. -/
theorem visit_eq {σ : Type} (f : σ → Reference → σ × Option Link) (h : Reference → Option Link)
    (hf : ∀ s r, (f s r).2 = h r) :
    ∀ (s : σ) (t : TypeExpr), visit f s t = (t.references.foldl (fun s r => (f s r).1) s, t.mapSlots h)
  | s, .intrinsic _ _ => rfl
  | s, .unknown _ _ => rfl
  | s, .reference a n sym args slot => by
      rcases hstep : f s ⟨n, sym, args, slot⟩ with ⟨s1, l⟩
      have hl : l = h ⟨n, sym, args, slot⟩ := by rw [← hf s, hstep]
      simp only [visit, hstep, visitAll_eq f h hf s1 args, references, List.foldl_cons, mapSlots, hl]
  | s, .union a ms => by
      simp only [visit, visitAll_eq f h hf s ms, references, mapSlots]
  | s, .tuple a es => by
      simp only [visit, visitAll_eq f h hf s es, references, mapSlots]

theorem visitAll_eq {σ : Type} (f : σ → Reference → σ × Option Link) (h : Reference → Option Link)
    (hf : ∀ s r, (f s r).2 = h r) :
    ∀ (s : σ) (ts : List TypeExpr),
      visitAll f s ts = ((referencesAll ts).foldl (fun s r => (f s r).1) s, mapSlotsAll h ts)
  | s, [] => rfl
  | s, t :: ts => by
      simp only [visitAll, visit_eq f h hf s t, visitAll_eq f h hf _ ts, referencesAll,
        List.foldl_append, mapSlotsAll]
end

mutual
/-- Every reference of an expression built from a record is bound to what the lookup answers
for its symbol. -/
theorem slot_of_mem_references_ofRecordWith (known : Int → Option Link) :
    ∀ (o : TypeRecord), ∀ r ∈ (ofRecordWith known o).references, r.slot = known r.symbol
  | .intrinsic _ _ => by simp [ofRecordWith, references]
  | .unknown _ _ => by simp [ofRecordWith, references]
  | .reference _ _ _ none _ => by
      intro r hr
      simp only [ofRecordWith, references, referencesAll, List.mem_singleton] at hr
      rw [hr]
  | .reference _ _ _ (some xs) _ => by
      intro r hr
      simp only [ofRecordWith, references, List.mem_cons] at hr
      rcases hr with rfl | hr
      · rfl
      · exact slot_of_mem_referencesAll_ofRecordAllWith known xs r hr
  | .union _ ms => by
      intro r hr
      rw [ofRecordWith, references] at hr
      exact slot_of_mem_referencesAll_ofRecordAllWith known ms r hr
  | .tuple _ es => by
      intro r hr
      rw [ofRecordWith, references] at hr
      exact slot_of_mem_referencesAll_ofRecordAllWith known es r hr

theorem slot_of_mem_referencesAll_ofRecordAllWith (known : Int → Option Link) :
    ∀ (os : List TypeRecord), ∀ r ∈ referencesAll (ofRecordAllWith known os), r.slot = known r.symbol
  | [] => by simp [ofRecordAllWith, referencesAll]
  | o :: os => by
      intro r hr
      rw [ofRecordAllWith, referencesAll, List.mem_append] at hr
      rcases hr with hr | hr
      · exact slot_of_mem_references_ofRecordWith known o r hr
      · exact slot_of_mem_referencesAll_ofRecordAllWith known os r hr
end

end TypeExpr

namespace TypeRecord

mutual
/-- The symbol id and target of every reference record, at any depth, in walk order: a reference,
then the records of its type arguments, then the members of unions and tuples in order. -/
def referenceLinks : TypeRecord → List (Int × Option Nat)
  | .intrinsic _ _ => []
  | .reference _ _ s none target => [(s, target)]
  | .reference _ _ s (some xs) target => (s, target) :: referenceLinksAll xs
  | .union _ ms => referenceLinksAll ms
  | .tuple _ es => referenceLinksAll es
  | .unknown _ _ => []

/-- The symbol ids and targets of the reference records of records, one after the other. -/
def referenceLinksAll : List TypeRecord → List (Int × Option Nat)
  | [] => []
  | r :: rs => referenceLinks r ++ referenceLinksAll rs
end

end TypeRecord

namespace TypeExpr

mutual
/-- Every reference record written for an expression is written for one of its references: it
carries that reference's symbol id, and its target when targets are asked for. -/
theorem mem_referenceLinks_toRecord (opts : RecordOptions) (live : Targets) :
    ∀ (t : TypeExpr), ∀ x ∈ (t.toRecord opts live).referenceLinks, ∃ r ∈ t.references,
      x = (r.symbol, if opts.targets then (r.target live).map (·.id) else none)
  | .intrinsic _ _ => by simp [toRecord, TypeRecord.referenceLinks]
  | .unknown _ _ => by simp [toRecord, TypeRecord.referenceLinks]
  | .reference a n s args slot => by
      intro x hx
      by_cases hkeep : (opts.typeArguments && !args.isEmpty) = true
      · simp only [toRecord, hkeep, if_true, TypeRecord.referenceLinks, List.mem_cons] at hx
        rcases hx with rfl | hx
        · exact ⟨⟨n, s, args, slot⟩, by simp [references], rfl⟩
        · obtain ⟨r, hr, rfl⟩ := mem_referenceLinksAll_toRecordAll opts live args x hx
          exact ⟨r, by simp [references, hr], rfl⟩
      · simp only [toRecord, hkeep, Bool.false_eq_true, if_false, TypeRecord.referenceLinks,
          List.mem_singleton] at hx
        exact ⟨⟨n, s, args, slot⟩, by simp [references], hx⟩
  | .union _ ms => by
      intro x hx
      rw [toRecord, TypeRecord.referenceLinks] at hx
      obtain ⟨r, hr, rfl⟩ := mem_referenceLinksAll_toRecordAll opts live ms x hx
      exact ⟨r, by simpa [references] using hr, rfl⟩
  | .tuple _ es => by
      intro x hx
      rw [toRecord, TypeRecord.referenceLinks] at hx
      obtain ⟨r, hr, rfl⟩ := mem_referenceLinksAll_toRecordAll opts live es x hx
      exact ⟨r, by simpa [references] using hr, rfl⟩

theorem mem_referenceLinksAll_toRecordAll (opts : RecordOptions) (live : Targets) :
    ∀ (ts : List TypeExpr), ∀ x ∈ TypeRecord.referenceLinksAll (toRecordAll opts live ts),
      ∃ r ∈ referencesAll ts, x = (r.symbol, if opts.targets then (r.target live).map (·.id) else none)
  | [] => by simp [toRecordAll, TypeRecord.referenceLinksAll]
  | t :: ts => by
      intro x hx
      rw [toRecordAll, TypeRecord.referenceLinksAll, List.mem_append] at hx
      rcases hx with hx | hx
      · obtain ⟨r, hr, rfl⟩ := mem_referenceLinks_toRecord opts live t x hx
        exact ⟨r, by simp [referencesAll, hr], rfl⟩
      · obtain ⟨r, hr, rfl⟩ := mem_referenceLinksAll_toRecordAll opts live ts x hx
        exact ⟨r, by simp [referencesAll, hr], rfl⟩
end

end TypeExpr

end DocLinks
