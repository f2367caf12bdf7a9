import DocLinks.Document
import DocLinks.Proofs.Convert.Binding
import DocLinks.Proofs.Resolve.Pass
import Mathlib.Data.Finset.Card

/-! Where every reference of a documented dump ends up. A reference held by reflection `i` with
symbol id `s` is bound by conversion when the first declaration carrying `s` comes before `i`,
and by the pass when it comes at `i` or after; either way its target is the reflection of that
first declaration, and a sentinel id or an id no declaration carries leaves it unbound. Each
counter of the pass is the number of references of one of these four kinds. The frozen table,
written out as the symbol mapping, maps each non-sentinel id to its first declaration in
increasing order of id, and every target a record carries is what the mapping says. -/

namespace DocLinks

namespace Project

/-- Every reference of a project with the position of the reflection that holds it, in walk
order. -/
def sites (p : Project) : List (Nat × Reference) :=
  p.reflections.toList.zipIdx.flatMap fun x => x.1.references.map fun r => (x.2, r)

variable (p : Project)

theorem mem_sites {i : Nat} {r : Reference} :
    (i, r) ∈ p.sites ↔ ∃ hi : i < p.reflections.size, r ∈ p.reflections[i].references := by
  simp only [sites, List.mem_flatMap, List.mem_map, Prod.mk.injEq, List.mem_zipIdx_iff_getElem?,
    Array.getElem?_toList]
  constructor
  · rintro ⟨⟨q, j⟩, hq, r', hr', rfl, rfl⟩
    obtain ⟨hj, hq⟩ := Array.getElem?_eq_some_iff.mp hq
    exact ⟨hj, hq ▸ hr'⟩
  · rintro ⟨hi, hr⟩
    exact ⟨(p.reflections[i], i), by simp [hi], r, hr, rfl, rfl⟩

theorem sites_map_snd : p.sites.map Prod.snd = p.references := by
  rw [sites, references, List.map_flatMap, ← List.zipIdx_map_fst 0 p.reflections.toList, List.flatMap_map]
  simp [Function.comp_def]

theorem length_sites : p.sites.length = p.references.length := by
  rw [← sites_map_snd, List.length_map]

theorem exists_mem_sites {r : Reflection} {t : TypeExpr} {ref : Reference}
    (hr : r ∈ p.reflections.toList) (ht : t ∈ r.types) (href : ref ∈ t.references) :
    ∃ i, (i, ref) ∈ p.sites := by
  obtain ⟨i, hi, rfl⟩ := List.getElem_of_mem hr
  refine ⟨i, (mem_sites p).mpr ⟨by simpa using hi, ?_⟩⟩
  rw [Reflection.references, TypeExpr.referencesAll_eq_flatMap, List.mem_flatMap]
  exact ⟨t, by simpa using ht, href⟩

theorem sites_mapSlots (h : Reference → Option Link) :
    (p.mapSlots h).sites = p.sites.map fun x => (x.1, x.2.restamp h) := by
  simp [sites, mapSlots, ← List.map_zipIdx, List.map_flatMap, List.flatMap_map,
    Reflection.references_mapSlots, Function.comp_def]

end Project

/-- The outcome the pass sees for a reference with symbol id `s` held by reflection `i`, when
the dump declares `ds`: no symbol for a sentinel; unresolved when no declaration carries `s`;
already resolved when the first one comes before `i`, so conversion bound it; resolved otherwise. -/
def expectedOutcome (ds : List Declaration) (i : Nat) (s : Int) : Outcome :=
  if s < 0 then .noSymbol
  else
    match firstDeclaring ds s with
    | none => .unresolved
    | some k => if k < i then .alreadyResolved else .resolved

theorem registrant_eq_some {ds : List Declaration} {s : Int} {k : Nat} :
    registrant ds s = some k ↔ 0 ≤ s ∧ firstDeclaring ds s = some k := by
  unfold registrant
  split_ifs with hs <;> simp [hs]

theorem isSome_firstDeclaring {ds : List Declaration} {s : Int} :
    (firstDeclaring ds s).isSome ↔ ∃ d ∈ ds, d.symbol = some s := by
  simp [firstDeclaring, List.findIdx?_isSome]

theorem mem_of_firstDeclaring_eq_some {ds : List Declaration} {s : Int} {k : Nat}
    (h : firstDeclaring ds s = some k) : ∃ d ∈ ds, d.symbol = some s :=
  isSome_firstDeclaring.mp (by simp [h])

theorem SymbolMap.mapping_eq (m : SymbolMap) :
    m.mapping = m.table.entries.map fun x => (x.1, x.2.target.id) := rfl

theorem lookup_map_snd {β γ : Type} (f : β → γ) (s : Int) :
    ∀ l : List (Int × β), (l.map fun x => (x.1, f x.2)).lookup s = (l.lookup s).map f
  | [] => rfl
  | (k, v) :: l => by
      by_cases hsk : s = k
      · subst hsk
        simp
      · rw [List.map_cons, lookup_cons_of_ne hsk, lookup_cons_of_ne hsk, lookup_map_snd f s l]

/-- Which references see an outcome, by the position `i` of their reflection and their symbol
id `s`: the four kinds the counters count. -/
def sees : Outcome → List Declaration → Nat → Int → Bool
  | .alreadyResolved, ds, i, s => decide (0 ≤ s) && (firstDeclaring ds s).any (· < i)
  | .resolved, ds, i, s => decide (0 ≤ s) && (firstDeclaring ds s).any (i ≤ ·)
  | .unresolved, ds, _, s => decide (0 ≤ s) && (firstDeclaring ds s).isNone
  | .noSymbol, _, _, s => decide (s < 0)

section Outcomes

variable {ds : List Declaration}

theorem expectedOutcome_eq_iff {i : Nat} {s : Int} (o : Outcome) :
    expectedOutcome ds i s = o ↔ sees o ds i s = true := by
  unfold expectedOutcome
  by_cases hs : s < 0
  · cases o <;> simp [sees, hs]
  · have h0 : 0 ≤ s := Int.not_lt.mp hs
    cases hfirst : firstDeclaring ds s with
    | none => cases o <;> simp [sees, hs, h0, hfirst]
    | some k =>
        by_cases hk : k < i
        · cases o <;> simp [sees, hs, h0, hfirst, hk]
        · cases o <;> simp [sees, hs, h0, hfirst, hk]
          omega

/-- Counting an outcome among the expected ones counts the references of its kind. -/
theorem count_expectedOutcome (l : List (Nat × Reference)) (o : Outcome) :
    (l.map fun x => expectedOutcome ds x.1 x.2.symbol).count o =
      l.countP fun x => sees o ds x.1 x.2.symbol := by
  rw [List.count_eq_countP, List.countP_map]
  exact List.countP_congr fun x _ => by simpa using expectedOutcome_eq_iff o

end Outcomes

namespace Builder.Tracks

variable {ds : List Declaration} {b : Builder}

/-- A link to a converted reflection reaches it in the finished project. -/
theorem target_map_id (hb : b.Tracks ds) {r : Reference} {o : Option Nat}
    (ho : ∀ k ∈ o, k < ds.length) (hr : r.slot = o.map linkTo) :
    (r.target b.finish.targets).map (·.id) = o := by
  cases o with
  | none => simp [Reference.target, hr]
  | some k =>
      have hk : k < b.reflections.size := hb.size_eq ▸ ho k rfl
      simp [Reference.target, hr, linkTo, Project.targets, finish, hk, Reflection.target,
        hb.id_eq k hk]

/-- A reference that reflection `i` holds after conversion is bound to the first declaration
carrying its symbol, if that one comes before `i`. -/
theorem slot_of_mem_sites (hb : b.Tracks ds) {i : Nat} {r : Reference}
    (hx : (i, r) ∈ b.finish.sites) :
    r.slot = ((registrant ds r.symbol).filter (· < i)).map linkTo := by
  obtain ⟨hi, hr⟩ := (Project.mem_sites _).mp hx
  rw [← registrant_take]
  exact hb.slot_eq i hi r hr

/-- What the pass does to a reference of the converted dump: it leaves it bound to the first
declaration carrying its symbol, and sees the outcome `expectedOutcome` names. -/
theorem attempt_of_mem_sites (hb : b.Tracks ds) {i : Nat} {r : Reference}
    (hx : (i, r) ∈ b.finish.sites) :
    r.attemptSlot b.finish.symbols b.finish.targets = (registrant ds r.symbol).map linkTo ∧
      r.attemptOutcome b.finish.symbols b.finish.targets = expectedOutcome ds i r.symbol := by
  have hslot := hb.slot_of_mem_sites hx
  have hlookup : b.finish.symbols.lookup r.symbol = b.symbols.get r.symbol := rfl
  rcases hreg : registrant ds r.symbol with _ | k
  · have hempty : r.slot = none := by simp [hslot, hreg]
    have hget : b.symbols.get r.symbol = none := by rw [hb.get_eq, hreg, Option.bind_none]
    obtain ⟨hslot', houtcome⟩ := Reference.attempt_of_slot_none b.finish.symbols b.finish.targets hempty
    rw [hslot', houtcome, hlookup, hget]
    by_cases hs : r.symbol < 0
    · simp [isSentinel, hs, expectedOutcome]
    · have hfirst : firstDeclaring ds r.symbol = none := by
        simpa [registrant, Int.not_lt.mp hs] using hreg
      simp [isSentinel, hs, expectedOutcome, hfirst]
  · obtain ⟨h0, hfirst⟩ := registrant_eq_some.mp hreg
    have hsymbol : ¬r.symbol < 0 := Int.not_lt.mpr h0
    by_cases hki : k < i
    · have hbound : r.slot = (some k).map linkTo := by simp [hslot, hreg, hki]
      have htarget := hb.target_map_id (by simpa using registrant_lt_length hreg) hbound
      have hresolved : r.isResolved b.finish.targets = true := by
        rw [Reference.isResolved, ← Option.isSome_map, htarget, Option.isSome_some]
      obtain ⟨hslot', houtcome⟩ := Reference.attempt_of_isResolved b.finish.symbols b.finish.targets hresolved
      rw [hslot', houtcome, hbound]
      simp [expectedOutcome, hsymbol, hfirst, hki]
    · have hempty : r.slot = none := by simp [hslot, hreg, Nat.le_of_not_lt hki]
      obtain ⟨e, hget, hlink⟩ : ∃ e, b.symbols.get r.symbol = some e ∧ e.link = linkTo k := by
        have hmap := hb.link_get r.symbol
        rw [hreg, Option.map_some] at hmap
        exact Option.map_eq_some_iff.mp hmap
      obtain ⟨hslot', houtcome⟩ := Reference.attempt_of_slot_none b.finish.symbols b.finish.targets hempty
      rw [hslot', houtcome, hlookup, hget]
      simp [isSentinel, hsymbol, hlink, expectedOutcome, hfirst, hki]

/-- After the pass every reference of the converted dump is bound to the first declaration
carrying its symbol, whether conversion or the pass bound it. -/
theorem slot_of_mem_resolve_sites (hb : b.Tracks ds) {i : Nat} {r : Reference}
    (hx : (i, r) ∈ b.finish.resolve.project.sites) :
    r.slot = (registrant ds r.symbol).map linkTo := by
  rw [Project.resolve_project, Project.sites_mapSlots, List.mem_map] at hx
  obtain ⟨⟨j, r₀⟩, hx₀, heq⟩ := hx
  simp only [Prod.mk.injEq] at heq
  obtain ⟨rfl, rfl⟩ := heq
  simp [(hb.attempt_of_mem_sites hx₀).1]

/-- The counters of the pass are those of the outcomes `expectedOutcome` names. -/
theorem resolve_stats_eq (hb : b.Tracks ds) :
    b.finish.resolve.stats =
      Stats.ofOutcomes (b.finish.sites.map fun x => expectedOutcome ds x.1 x.2.symbol) := by
  rw [Project.resolve_stats, ← Project.sites_map_snd, List.map_map]
  congr 1
  apply List.map_congr_left
  rintro ⟨i, r⟩ hx
  exact (hb.attempt_of_mem_sites hx).2

/-- The symbol mapping answers, for each symbol id, the first declaration carrying it. -/
theorem lookup_mapping (hb : b.Tracks ds) (s : Int) :
    b.finish.symbols.mapping.lookup s = registrant ds s := by
  have hid := congrArg (Option.map Link.id) (hb.link_get s)
  rw [Option.map_map, Option.map_map] at hid
  rw [SymbolMap.mapping_eq, lookup_map_snd (fun e : Entry => e.target.id)]
  simpa [Function.comp_def, Entry.link, linkTo, SymbolTable.get, finish, SymbolTable.freeze] using hid

theorem pairwise_mapping (hb : b.Tracks ds) : b.finish.symbols.mapping.Pairwise (·.1 < ·.1) := by
  rw [SymbolMap.mapping_eq, List.pairwise_map]
  exact hb.ascending

/-- The mapping has one entry for each distinct symbol id that is not a sentinel. -/
theorem length_mapping (hb : b.Tracks ds) :
    b.finish.symbols.mapping.length = ((ds.filterMap (·.symbol)).filter (0 ≤ ·)).toFinset.card := by
  set keys := b.finish.symbols.mapping.map Prod.fst
  have hnodup : keys.Nodup :=
    (List.pairwise_map.mpr hb.pairwise_mapping).imp fun hlt => Int.ne_of_lt hlt
  have hkeys : keys.toFinset = ((ds.filterMap (·.symbol)).filter (0 ≤ ·)).toFinset := by
    ext s
    simp only [List.mem_toFinset, keys, List.mem_map, List.mem_filter, List.mem_filterMap,
      decide_eq_true_eq]
    constructor
    · rintro ⟨⟨s', k⟩, hmem, rfl⟩
      rw [mem_iff_lookup hb.pairwise_mapping, hb.lookup_mapping] at hmem
      obtain ⟨hs, hfirst⟩ := registrant_eq_some.mp hmem
      exact ⟨mem_of_firstDeclaring_eq_some hfirst, hs⟩
    · rintro ⟨hmem, hs⟩
      obtain ⟨k, hfirst⟩ := Option.isSome_iff_exists.mp (isSome_firstDeclaring.mpr hmem)
      refine ⟨(s, k), ?_, rfl⟩
      rw [mem_iff_lookup hb.pairwise_mapping, hb.lookup_mapping]
      exact registrant_eq_some.mpr ⟨hs, hfirst⟩
  rw [← List.length_map (f := Prod.fst), ← List.toFinset_card_of_nodup hnodup, hkeys]

end Builder.Tracks

namespace Dump

variable {d : Dump} {opts : Options} {doc : Documentation} {notes : List Note}

/-- Documenting a dump that conversion accepts answers the converted builder and what the pass
answers on its finished project, whether the pass runs in parallel or not. -/
theorem document_eq_ok (h : d.document opts = (.ok doc, notes)) :
    d.convert.result = .ok doc.converted ∧ doc.project = doc.converted.finish.resolve.project ∧
      doc.stats = doc.converted.finish.resolve.stats := by
  unfold document at h
  cases hc : d.convert.result with
  | error e => simp [hc] at h
  | ok b =>
      simp only [hc, Prod.mk.injEq, Except.ok.injEq] at h
      obtain ⟨rfl, -⟩ := h
      by_cases hp : opts.parallel
      · simp [hp, Project.resolveParallel_project, Project.resolveParallel_stats]
      · simp [hp]

theorem tracks_of_document (h : d.document opts = (.ok doc, notes)) :
    doc.converted.Tracks d.declarations :=
  tracks_of_convert (document_eq_ok h).1

theorem sites_document (h : d.document opts = (.ok doc, notes)) :
    doc.project.sites = doc.converted.finish.sites.map fun x =>
      (x.1, x.2.restamp (Reference.attemptSlot doc.converted.finish.symbols doc.converted.finish.targets)) := by
  rw [(document_eq_ok h).2.1, Project.resolve_project, Project.sites_mapSlots]

theorem targets_document (h : d.document opts = (.ok doc, notes)) :
    doc.project.targets = doc.converted.finish.targets := by
  rw [(document_eq_ok h).2.1, Project.resolve_project, Project.targets_mapSlots]

theorem symbols_document (h : d.document opts = (.ok doc, notes)) :
    doc.project.symbols = doc.converted.finish.symbols := by
  rw [(document_eq_ok h).2.1, Project.resolve_project, Project.symbols_mapSlots]

/-- Every reference of the documented project reaches the reflection of the first declaration
carrying its symbol, and none when its id is a sentinel or no declaration carries it. -/
theorem target_of_mem_document_sites (h : d.document opts = (.ok doc, notes)) {i : Nat}
    {r : Reference} (hx : (i, r) ∈ doc.project.sites) :
    (r.target doc.project.targets).map (·.id) = registrant d.declarations r.symbol := by
  have hb := tracks_of_document h
  rw [(document_eq_ok h).2.1] at hx
  rw [targets_document h]
  exact hb.target_map_id (fun _ hk => registrant_lt_length hk) (hb.slot_of_mem_resolve_sites hx)

theorem lookup_document_mapping (h : d.document opts = (.ok doc, notes)) (s : Int) :
    doc.project.symbols.mapping.lookup s = registrant d.declarations s := by
  rw [symbols_document h]
  exact (tracks_of_document h).lookup_mapping s

end Dump

/-- Where the references of a documented dump end up. Conversion binds a reference held by
reflection `i` exactly when its symbol id is not a sentinel and the first declaration carrying
it comes before `i`, and to that declaration's reflection. The pass keeps every reference in its
place and leaves each one bound exactly when its id is not a sentinel and some declaration
carries it, to the first such; an unbound one shows its written name. The counters count
references bound by conversion, bound by the pass, with an id no declaration carries, and with
a sentinel id; they add up to the number of references. -/
theorem document_binds_to_first_declaration {d : Dump} {opts : Options} {doc : Documentation}
    {notes : List Note} (h : d.document opts = (.ok doc, notes)) :
    (∀ x ∈ doc.converted.finish.sites,
      (x.2.target doc.converted.finish.targets).map (·.id) =
        if 0 ≤ x.2.symbol then (firstDeclaring d.declarations x.2.symbol).filter (· < x.1)
        else none) ∧
    doc.project.sites.map (fun x => (x.1, x.2.name, x.2.symbol)) =
      doc.converted.finish.sites.map (fun x => (x.1, x.2.name, x.2.symbol)) ∧
    (∀ x ∈ doc.project.sites,
      (x.2.target doc.project.targets).map (·.id) =
        (if 0 ≤ x.2.symbol then firstDeclaring d.declarations x.2.symbol else none) ∧
      (x.2.target doc.project.targets = none →
        x.2.displayName doc.project.targets = x.2.name)) ∧
    doc.stats.alreadyResolved = doc.project.sites.countP (fun x =>
      decide (0 ≤ x.2.symbol) && (firstDeclaring d.declarations x.2.symbol).any (· < x.1)) ∧
    doc.stats.resolved = doc.project.sites.countP (fun x =>
      decide (0 ≤ x.2.symbol) && (firstDeclaring d.declarations x.2.symbol).any (x.1 ≤ ·)) ∧
    doc.stats.unresolved = doc.project.sites.countP (fun x =>
      decide (0 ≤ x.2.symbol) && (firstDeclaring d.declarations x.2.symbol).isNone) ∧
    doc.stats.noSymbol = doc.project.sites.countP (fun x => decide (x.2.symbol < 0)) ∧
    doc.stats.total = doc.project.references.length := by
  obtain ⟨-, -, hstats⟩ := Dump.document_eq_ok h
  have hb := Dump.tracks_of_document h
  have hsites := Dump.sites_document h
  set live := doc.converted.finish.targets
  have hexpected := hstats.trans hb.resolve_stats_eq
  have hcount : ∀ o : Outcome,
      (doc.converted.finish.sites.map fun x => expectedOutcome d.declarations x.1 x.2.symbol).count o =
        doc.project.sites.countP fun x => sees o d.declarations x.1 x.2.symbol := by
    intro o
    rw [count_expectedOutcome, hsites, List.countP_map]
    rfl
  refine ⟨?conversion, ?places, ?pass, ?already, ?resolved, ?unresolved, ?noSymbol, ?total⟩
  case conversion =>
    rintro ⟨i, r⟩ hx
    have hbound : ∀ k ∈ (registrant d.declarations r.symbol).filter (· < i),
        k < d.declarations.length :=
      fun _ hk => registrant_lt_length (Option.filter_eq_some_iff.mp hk).1
    rw [hb.target_map_id hbound (hb.slot_of_mem_sites hx), registrant]
    split_ifs <;> rfl
  case places =>
    rw [hsites, List.map_map]
    rfl
  case pass =>
    rintro ⟨i, r⟩ hx
    refine ⟨Dump.target_of_mem_document_sites h hx, fun hnone => ?_⟩
    simp [Reference.displayName, hnone]
  case already => rw [hexpected, Stats.alreadyResolved_ofOutcomes]; exact hcount .alreadyResolved
  case resolved => rw [hexpected, Stats.resolved_ofOutcomes]; exact hcount .resolved
  case unresolved => rw [hexpected, Stats.unresolved_ofOutcomes]; exact hcount .unresolved
  case noSymbol => rw [hexpected, Stats.noSymbol_ofOutcomes]; exact hcount .noSymbol
  case total =>
    rw [hexpected, Stats.total_ofOutcomes, List.length_map, ← Project.length_sites, hsites,
      List.length_map]

/-- A dump with a forward, a backward and a self reference, a symbol declared twice, a sentinel
id inside type arguments and an id no declaration carries. -/
def sampleDump : Dump where
  name := "sample"
  declarations :=
    [{ name := "Node", kind := .class, symbol := some 1,
       extended := [.reference false "Tree" 2 none none] },
     { name := "Tree", kind := .interface, symbol := some 2,
       type := some (.union false [.reference false "Node" 1 none none,
         .reference false "Tree" 2 none none]) },
     { name := "Leaf", kind := .class, symbol := some 2,
       type := some (.reference false "Missing" 9
         (some [.reference false "Hidden" (-1) none none]) none) }]

theorem sample_document_binds_to_first_declaration :
    ∃ doc notes, sampleDump.document {} = (.ok doc, notes) ∧
    (∀ x ∈ doc.converted.finish.sites,
      (x.2.target doc.converted.finish.targets).map (·.id) =
        if 0 ≤ x.2.symbol then (firstDeclaring sampleDump.declarations x.2.symbol).filter (· < x.1)
        else none) ∧
    doc.project.sites.map (fun x => (x.1, x.2.name, x.2.symbol)) =
      doc.converted.finish.sites.map (fun x => (x.1, x.2.name, x.2.symbol)) ∧
    (∀ x ∈ doc.project.sites,
      (x.2.target doc.project.targets).map (·.id) =
        (if 0 ≤ x.2.symbol then firstDeclaring sampleDump.declarations x.2.symbol else none) ∧
      (x.2.target doc.project.targets = none →
        x.2.displayName doc.project.targets = x.2.name)) ∧
    doc.stats.alreadyResolved = doc.project.sites.countP (fun x =>
      decide (0 ≤ x.2.symbol) && (firstDeclaring sampleDump.declarations x.2.symbol).any (· < x.1)) ∧
    doc.stats.resolved = doc.project.sites.countP (fun x =>
      decide (0 ≤ x.2.symbol) && (firstDeclaring sampleDump.declarations x.2.symbol).any (x.1 ≤ ·)) ∧
    doc.stats.unresolved = doc.project.sites.countP (fun x =>
      decide (0 ≤ x.2.symbol) && (firstDeclaring sampleDump.declarations x.2.symbol).isNone) ∧
    doc.stats.noSymbol = doc.project.sites.countP (fun x => decide (x.2.symbol < 0)) ∧
    doc.stats.total = doc.project.references.length :=
  ⟨_, _, rfl, @document_binds_to_first_declaration sampleDump {} _ _ rfl⟩

/-- The symbol mapping of a documented dump maps each symbol id that is not a sentinel and that
some declaration carries to the first declaration carrying it, and holds nothing else; its ids
strictly increase, so it has one entry per distinct such id. With targets asked for, every
reference record written for the project, at any depth, carries the target the mapping gives
its symbol id, and none when the mapping has no entry for it. -/
theorem document_mapping_and_targets {d : Dump} {opts : Options} {doc : Documentation}
    {notes : List Note} (h : d.document opts = (.ok doc, notes)) (ropts : RecordOptions) :
    (∀ s k, (s, k) ∈ doc.project.symbols.mapping ↔
      0 ≤ s ∧ firstDeclaring d.declarations s = some k) ∧
    (doc.project.symbols.mapping.map Prod.fst).Pairwise (· < ·) ∧
    doc.project.symbols.mapping.length =
      ((d.declarations.filterMap (·.symbol)).filter (0 ≤ ·)).toFinset.card ∧
    (ropts.targets = true → ∀ r ∈ doc.project.reflections.toList, ∀ t ∈ r.types,
      ∀ x ∈ (t.toRecord ropts doc.project.targets).referenceLinks,
        x.2 = doc.project.symbols.mapping.lookup x.1) := by
  have hb := Dump.tracks_of_document h
  have hsymbols := Dump.symbols_document h
  refine ⟨fun s k => ?_, ?_, ?_, ?_⟩
  · rw [hsymbols, mem_iff_lookup hb.pairwise_mapping, hb.lookup_mapping, registrant_eq_some]
  · rw [hsymbols, List.pairwise_map]
    exact hb.pairwise_mapping
  · rw [hsymbols]
    exact hb.length_mapping
  · intro htargets r hr t ht x hx
    obtain ⟨ref, href, rfl⟩ := TypeExpr.mem_referenceLinks_toRecord ropts _ t x hx
    obtain ⟨i, hsite⟩ := doc.project.exists_mem_sites hr ht href
    rw [if_pos htargets, Dump.target_of_mem_document_sites h hsite, Dump.lookup_document_mapping h]

theorem sample_document_mapping_and_targets :
    ∃ doc notes, sampleDump.document {} = (.ok doc, notes) ∧
    (∀ s k, (s, k) ∈ doc.project.symbols.mapping ↔
      0 ≤ s ∧ firstDeclaring sampleDump.declarations s = some k) ∧
    (doc.project.symbols.mapping.map Prod.fst).Pairwise (· < ·) ∧
    doc.project.symbols.mapping.length =
      ((sampleDump.declarations.filterMap (·.symbol)).filter (0 ≤ ·)).toFinset.card ∧
    (RecordOptions.all.targets = true → ∀ r ∈ doc.project.reflections.toList, ∀ t ∈ r.types,
      ∀ x ∈ (t.toRecord RecordOptions.all doc.project.targets).referenceLinks,
        x.2 = doc.project.symbols.mapping.lookup x.1) :=
  ⟨_, _, rfl, @document_mapping_and_targets sampleDump {} _ _ rfl RecordOptions.all⟩

end DocLinks
