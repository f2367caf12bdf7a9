import DocLinks.Convert
import DocLinks.Proofs.Types.Walk

/-! What conversion builds. After any number of declarations are converted, reflection `k` has
id `k`; the table maps every symbol id that is not a sentinel to the reflection of the first
declaration carrying it, and its entries stay in strictly increasing order of symbol id; and
each reference held by reflection `i` is bound to the reflection of the first declaration before
`i` that carries its symbol, or unbound when there is none. One conversion step keeps these facts
(`Builder.Tracks.add`), so the builder conversion answers has them for the whole dump. -/

namespace DocLinks

/-- The index of the first declaration that carries a symbol id. -/
def firstDeclaring (ds : List Declaration) (s : Int) : Option Nat :=
  ds.findIdx? (·.symbol == some s)

/-- The declaration whose reflection the table holds for a symbol id: the first one carrying it,
unless the id is a sentinel. -/
def registrant (ds : List Declaration) (s : Int) : Option Nat :=
  if 0 ≤ s then firstDeclaring ds s else none

/-- The link to the reflection with id `k`, kept in cell `k`. -/
def linkTo (k : Nat) : Link := { id := k, cell := k }

theorem registrant_append_singleton (ds : List Declaration) (d : Declaration) (s : Int) :
    registrant (ds ++ [d]) s =
      (registrant ds s).or (if 0 ≤ s ∧ d.symbol = some s then some ds.length else none) := by
  by_cases hs : 0 ≤ s
  · by_cases hd : d.symbol = some s
    · simp [registrant, firstDeclaring, hs, hd, List.findIdx?_append]
    · simp [registrant, firstDeclaring, hs, hd, List.findIdx?_append, List.findIdx?_singleton]
  · simp [registrant, hs]

/-- The declarations before `i` register what the whole list registers below `i`. -/
theorem registrant_take (ds : List Declaration) (i : Nat) (s : Int) :
    registrant (ds.take i) s = (registrant ds s).filter (· < i) := by
  by_cases hs : 0 ≤ s
  · simp [registrant, firstDeclaring, hs, List.findIdx?_take, Option.bind_guard]
  · simp [registrant, hs]

theorem registrant_lt_length {ds : List Declaration} {s : Int} {k : Nat}
    (h : registrant ds s = some k) : k < ds.length := by
  by_cases hs : 0 ≤ s
  · rw [registrant, if_pos hs, firstDeclaring, List.findIdx?_eq_some_iff_getElem] at h
    exact h.1
  · simp [registrant, hs] at h

section Table

theorem lookup_cons_of_ne {β : Type} {a k : Int} {v : β} {l : List (Int × β)} (h : a ≠ k) :
    ((k, v) :: l).lookup a = l.lookup a := by
  simp [List.lookup_cons, beq_false_of_ne h]

/-- Inserting a symbol that is not in the list makes it answer the new entry, and only it. -/
theorem lookup_insertBySymbol {s : Int} {e : Entry} :
    ∀ {l : List (Int × Entry)}, l.lookup s = none →
      ∀ s', (insertBySymbol s e l).lookup s' = if s' = s then some e else l.lookup s'
  | [], _, s' => by
      by_cases h : s' = s
      · simp [insertBySymbol, h]
      · simp [insertBySymbol, h, lookup_cons_of_ne h]
  | (k, v) :: rest, hl, s' => by
      have hks : s ≠ k := by
        rintro rfl
        simp at hl
      rw [lookup_cons_of_ne hks] at hl
      by_cases hlt : s < k
      · by_cases h : s' = s
        · simp [insertBySymbol, hlt, h]
        · simp [insertBySymbol, hlt, h, lookup_cons_of_ne h]
      · rw [insertBySymbol, if_neg hlt]
        by_cases hk : s' = k
        · subst hk
          simp [Ne.symm hks]
        · rw [lookup_cons_of_ne hk, lookup_insertBySymbol hl s', lookup_cons_of_ne hk]

theorem mem_insertBySymbol {s : Int} {e : Entry} {x : Int × Entry} :
    ∀ {l : List (Int × Entry)}, x ∈ insertBySymbol s e l ↔ x = (s, e) ∨ x ∈ l
  | [] => by simp [insertBySymbol]
  | (k, v) :: rest => by
      by_cases hlt : s < k
      · simp [insertBySymbol, hlt]
      · rw [insertBySymbol, if_neg hlt, List.mem_cons, mem_insertBySymbol, List.mem_cons]
        exact or_left_comm

/-- Inserting a symbol that is not in the list keeps the list in increasing order of symbol id. -/
theorem pairwise_insertBySymbol {s : Int} {e : Entry} :
    ∀ {l : List (Int × Entry)}, l.Pairwise (·.1 < ·.1) → l.lookup s = none →
      (insertBySymbol s e l).Pairwise (·.1 < ·.1)
  | [], _, _ => by simp [insertBySymbol]
  | (k, v) :: rest, hl, hs => by
      obtain ⟨hk, hrest⟩ := List.pairwise_cons.mp hl
      have hks : s ≠ k := by
        rintro rfl
        simp at hs
      by_cases hlt : s < k
      · rw [insertBySymbol, if_pos hlt]
        refine List.Pairwise.cons (fun x hx => ?_) hl
        rcases List.mem_cons.mp hx with rfl | hx
        · exact hlt
        · exact Int.lt_trans hlt (hk x hx)
      · rw [insertBySymbol, if_neg hlt]
        have hrs : rest.lookup s = none := by
          rwa [lookup_cons_of_ne hks] at hs
        refine List.Pairwise.cons (fun x hx => ?_) (pairwise_insertBySymbol hrest hrs)
        rcases mem_insertBySymbol.mp hx with rfl | hx
        · omega
        · exact hk x hx

/-- In a list without repeated symbols, an entry is present exactly when looking its symbol up
finds it. -/
theorem mem_iff_lookup {β : Type} {s : Int} {e : β} :
    ∀ {l : List (Int × β)}, l.Pairwise (·.1 < ·.1) → ((s, e) ∈ l ↔ l.lookup s = some e)
  | [], _ => by simp
  | (k, v) :: rest, hl => by
      obtain ⟨hk, hrest⟩ := List.pairwise_cons.mp hl
      by_cases hsk : s = k
      · subst hsk
        have hnot : (s, e) ∉ rest := fun hmem => Int.lt_irrefl s (hk (s, e) hmem)
        simp [hnot, eq_comm]
      · simp [lookup_cons_of_ne hsk, hsk, mem_iff_lookup hrest]

end Table

namespace SymbolTable

/-- The table once a declaration's symbol is offered for its reflection: a symbol that is not a
sentinel and not yet registered maps to the entry from then on; otherwise the table stays. -/
def offer (t : SymbolTable) (symbol : Option Int) (e : Entry) : SymbolTable :=
  match symbol with
  | some s => if 0 ≤ s ∧ t.get s = none then { entries := insertBySymbol s e t.entries } else t
  | none => t

theorem register_eq_ok {t t' : SymbolTable} {s : Int} {e : Entry} (h : t.register s e = .ok t') :
    0 ≤ s ∧ t.get s = none ∧ t' = { entries := insertBySymbol s e t.entries } := by
  unfold register at h
  by_cases hs : isSentinel s = true
  · simp [hs] at h
  · cases hget : t.get s with
    | some x => simp [hs, hget] at h
    | none =>
        simp only [hs, hget, Bool.false_eq_true, if_false, Except.ok.injEq] at h
        exact ⟨by simpa [isSentinel] using hs, rfl, h.symm⟩

/-- A refused registration is one the table would not take. -/
theorem not_free_of_register_eq_error {t : SymbolTable} {s : Int} {e : Entry} {err : Error}
    (h : t.register s e = .error err) : ¬(0 ≤ s ∧ t.get s = none) := by
  rintro ⟨hs, hget⟩
  have hsentinel : isSentinel s = false := by simpa [isSentinel] using hs
  simp [register, hsentinel, hget] at h

theorem get_offer (t : SymbolTable) (symbol : Option Int) (e : Entry) (s' : Int) :
    (t.offer symbol e).get s' =
      if symbol = some s' ∧ 0 ≤ s' ∧ t.get s' = none then some e else t.get s' := by
  cases symbol with
  | none => simp [offer]
  | some s =>
      by_cases hfree : 0 ≤ s ∧ t.get s = none
      · rw [offer, if_pos hfree, get, lookup_insertBySymbol hfree.2]
        by_cases h : s' = s
        · subst h
          simp [hfree]
        · simp [h, Ne.symm h, get]
      · rw [offer, if_neg hfree]
        by_cases h : s = s'
        · subst h
          simp [hfree]
        · simp [h]

theorem ascending_offer {t : SymbolTable} (symbol : Option Int) (e : Entry)
    (ht : t.entries.Pairwise (·.1 < ·.1)) : (t.offer symbol e).entries.Pairwise (·.1 < ·.1) := by
  cases symbol with
  | none => exact ht
  | some s =>
      by_cases hfree : 0 ≤ s ∧ t.get s = none
      · rw [offer, if_pos hfree]
        exact pairwise_insertBySymbol ht hfree.2
      · rw [offer, if_neg hfree]
        exact ht

end SymbolTable

namespace Builder

theorem bind_eq_ok {α β : Type} {x : Except Error α} {f : α → Except Error β} {y : β} :
    x >>= f = .ok y ↔ ∃ a, x = .ok a ∧ f a = .ok y := by
  cases x <;> simp [bind, Except.bind]

theorem map_eq_ok {α β : Type} {x : Except Error α} {f : α → β} {y : β} :
    f <$> x = .ok y ↔ ∃ a, x = .ok a ∧ y = f a := by
  cases x <;> simp [Functor.map, Except.map, eq_comm]

variable {b : Builder} {index : Nat}

theorem buildType_eq_ok {r : TypeRecord} {t : TypeExpr} (h : b.buildType index r = .ok t) :
    t = TypeExpr.ofRecordWith (fun s => (b.symbols.get s).map (·.link)) r := by
  unfold buildType at h
  split at h
  · cases h
  · exact (Except.ok.inj h).symm

theorem mapM_buildType_eq_ok :
    ∀ {rs : List TypeRecord} {ts : List TypeExpr}, rs.mapM (b.buildType index) = .ok ts →
      ts = rs.map (TypeExpr.ofRecordWith fun s => (b.symbols.get s).map (·.link))
  | [], ts, h => by simpa [pure, Except.pure, eq_comm] using h
  | r :: rs, ts, h => by
      rw [List.mapM_cons] at h
      obtain ⟨t, ht, h⟩ := bind_eq_ok.mp h
      obtain ⟨ts', hts', h⟩ := bind_eq_ok.mp h
      cases h
      rw [List.map_cons, ← buildType_eq_ok ht, ← mapM_buildType_eq_ok hts']

theorem optionMapM_buildType_eq_ok {o : Option TypeRecord} {ty : Option TypeExpr}
    (h : o.mapM (b.buildType index) = .ok ty) :
    ty = o.map (TypeExpr.ofRecordWith fun s => (b.symbols.get s).map (·.link)) := by
  cases o with
  | none => simpa [pure, Except.pure, eq_comm] using h
  | some r =>
      rw [Option.mapM_some] at h
      obtain ⟨t, ht, rfl⟩ := map_eq_ok.mp h
      rw [Option.map_some, buildType_eq_ok ht]

theorem push_eq_ok {b' : Builder} {d : Declaration} {ty : Option TypeExpr} {ext : List TypeExpr}
    (h : b.push d ty ext = .ok b') :
    b'.reflections = b.reflections.push
        { id := b.size, name := d.name, kind := d.kind, parent := d.parent, type := ty, extended := ext } ∧
      b'.symbols = b.symbols.offer d.symbol
        { cell := b.size, target := { id := b.size, name := d.name, kind := d.kind } } := by
  unfold push at h
  cases hsym : d.symbol with
  | none =>
      simp only [hsym, pure, Except.pure, Except.ok.injEq] at h
      subst h
      exact ⟨rfl, rfl⟩
  | some s =>
      simp only [hsym] at h
      split at h
      · rename_i t hreg
        obtain ⟨hs, hget, rfl⟩ := SymbolTable.register_eq_ok hreg
        simp only [pure, Except.pure, Except.ok.injEq] at h
        subst h
        exact ⟨rfl, by simp [SymbolTable.offer, hs, hget, Reflection.target]⟩
      · rename_i err hreg
        have hkeep := SymbolTable.not_free_of_register_eq_error hreg
        split at h
        · simp only [pure, Except.pure, Except.ok.injEq] at h
          subst h
          exact ⟨rfl, by simp [SymbolTable.offer, hkeep]⟩
        · cases h

/-- A declaration that conversion takes passes the checks, adds its reflection with its types built
against the table so far, and offers its symbol for that reflection. -/
theorem add_eq_ok {b' : Builder} {d : Declaration} (h : b.add index d = .ok b') :
    check index d = .ok () ∧
      b'.reflections = b.reflections.push
        { id := b.size, name := d.name, kind := d.kind, parent := d.parent,
          type := d.type.map (TypeExpr.ofRecordWith fun s => (b.symbols.get s).map (·.link)),
          extended := d.extended.map (TypeExpr.ofRecordWith fun s => (b.symbols.get s).map (·.link)) } ∧
      b'.symbols = b.symbols.offer d.symbol
        { cell := b.size, target := { id := b.size, name := d.name, kind := d.kind } } := by
  unfold add at h
  obtain ⟨⟨⟩, hcheck, h⟩ := bind_eq_ok.mp h
  obtain ⟨ty, hty, h⟩ := bind_eq_ok.mp h
  obtain ⟨ext, hext, h⟩ := bind_eq_ok.mp h
  obtain ⟨hreflections, hsymbols⟩ := push_eq_ok h
  rw [optionMapM_buildType_eq_ok hty, mapM_buildType_eq_ok hext] at hreflections
  exact ⟨hcheck, hreflections, hsymbols⟩

/-- The table entry of the builder's reflection `k`. -/
def entryAt (b : Builder) (k : Nat) : Option Entry :=
  b.reflections[k]?.map fun r => { cell := k, target := r.target }

/-- What every conversion step keeps is kept by a run that stops at no declaration. -/
theorem addAll_induction {P : List Declaration → Builder → Prop}
    (step : ∀ {ds b d b'}, P ds b → b.add ds.length d = .ok b' → P (ds ++ [d]) b')
    {rest ds : List Declaration} {b' : Builder} (hb : P ds b)
    (h : b.addAll ds.length rest = (b', none)) : P (ds ++ rest) b' := by
  induction rest generalizing ds b with
  | nil =>
      rw [addAll] at h
      cases h
      simpa using hb
  | cons d rest ih =>
      rw [addAll] at h
      cases hadd : b.add ds.length d with
      | error e => simp [hadd] at h
      | ok b₁ =>
          rw [hadd] at h
          have hlen : ds.length + 1 = (ds ++ [d]).length := by simp
          rw [hlen] at h
          simpa using ih (step hb hadd) h

/-- What a builder holds once it has converted the declarations `ds`, in order. -/
structure Tracks (ds : List Declaration) (b : Builder) : Prop where
  size_eq : b.reflections.size = ds.length
  id_eq : ∀ k (hk : k < b.reflections.size), b.reflections[k].id = k
  get_eq : ∀ s, b.symbols.get s = (registrant ds s).bind b.entryAt
  ascending : b.symbols.entries.Pairwise (·.1 < ·.1)
  slot_eq : ∀ i (hi : i < b.reflections.size), ∀ r ∈ b.reflections[i].references,
    r.slot = (registrant (ds.take i) r.symbol).map linkTo

namespace Tracks

variable {ds : List Declaration}

theorem init (name : String) : Tracks [] ({ name } : Builder) where
  size_eq := rfl
  id_eq := fun _ hk => absurd hk (Nat.not_lt_zero _)
  get_eq := fun _ => by simp [registrant, firstDeclaring, SymbolTable.get]
  ascending := List.Pairwise.nil
  slot_eq := fun _ hi => absurd hi (Nat.not_lt_zero _)

/-- A symbol registered so far binds a reference to the link of the first reflection carrying it. -/
theorem link_get (hb : b.Tracks ds) (s : Int) :
    (b.symbols.get s).map (·.link) = (registrant ds s).map linkTo := by
  rw [hb.get_eq]
  cases hk : registrant ds s with
  | none => rfl
  | some k =>
      have hlt : k < b.reflections.size := hb.size_eq ▸ registrant_lt_length hk
      simp [entryAt, hlt, Entry.link, Reflection.target, hb.id_eq k hlt, linkTo]

/-- One conversion step keeps what the builder holds. -/
theorem add {b' : Builder} {d : Declaration} (hb : b.Tracks ds) (h : b.add ds.length d = .ok b') :
    b'.Tracks (ds ++ [d]) := by
  obtain ⟨-, hreflections, hsymbols⟩ := add_eq_ok h
  have hsize : b.reflections.size = ds.length := hb.size_eq
  have hentry : ∀ k, b'.entryAt k =
      if k = ds.length then some { cell := k, target := { id := b.size, name := d.name, kind := d.kind } }
      else b.entryAt k := by
    intro k
    by_cases hk : k = ds.length
    · subst hk
      rw [← hsize]
      simp [entryAt, hreflections, Reflection.target]
    · simp [entryAt, hreflections, hk, hsize, Array.getElem?_push]
  refine ⟨by simp [hreflections, hsize], ?_, ?_, ?_, ?_⟩
  · intro k hk
    have hk' : k < ds.length + 1 := by simpa [hreflections, hsize] using hk
    simp only [hreflections, Array.getElem_push]
    split
    · exact hb.id_eq k ‹_›
    · simp only [size]
      omega
  · intro s
    rw [hsymbols, SymbolTable.get_offer, registrant_append_singleton, hb.get_eq]
    cases hk : registrant ds s with
    | some k =>
        have hlt : k < b.reflections.size := hsize ▸ registrant_lt_length hk
        have hne : k ≠ ds.length := by omega
        have hsome : b.entryAt k ≠ none := by simp [entryAt, hlt]
        simp [hsome, hentry, hne]
    | none =>
        by_cases hd : d.symbol = some s ∧ 0 ≤ s
        · simp [hd, hentry, size, hsize]
        · have hd' : ¬(0 ≤ s ∧ d.symbol = some s) := fun h => hd ⟨h.2, h.1⟩
          simp only [Option.bind_none, Option.none_or, if_neg hd']
          simp [hd]
  · rw [hsymbols]
    exact SymbolTable.ascending_offer _ _ hb.ascending
  · intro i hi r hr
    simp only [hreflections, Array.getElem_push] at hr
    split at hr
    · rename_i hlt
      rw [List.take_append_of_le_length (hsize ▸ Nat.le_of_lt hlt)]
      exact hb.slot_eq i hlt r hr
    · rename_i hge
      have hi' : i = ds.length := by simp [hreflections] at hi; omega
      subst hi'
      rw [List.take_append_of_le_length (Nat.le_refl _), List.take_length, ← hb.link_get]
      rw [Reflection.references, TypeExpr.referencesAll_eq_flatMap, List.mem_flatMap] at hr
      obtain ⟨t, ht, hr⟩ := hr
      simp only [Reflection.types, List.mem_append, Option.mem_toList, Option.map_eq_some_iff,
        List.mem_map] at ht
      rcases ht with ⟨o, -, rfl⟩ | ⟨o, -, rfl⟩
      · exact TypeExpr.slot_of_mem_references_ofRecordWith _ o r hr
      · exact TypeExpr.slot_of_mem_references_ofRecordWith _ o r hr

/-- A run of conversion steps that stops at no declaration keeps what the builder holds. -/
theorem addAll {rest : List Declaration} {b' : Builder} (hb : b.Tracks ds)
    (h : b.addAll ds.length rest = (b', none)) : b'.Tracks (ds ++ rest) :=
  addAll_induction (P := fun ds b => b.Tracks ds) (fun hb hstep => hb.add hstep) hb h

end Tracks

end Builder

/-- The builder a conversion answers holds the facts of `Builder.Tracks` for the whole dump. -/
theorem Dump.tracks_of_convert {d : Dump} {b : Builder} (h : d.convert.result = .ok b) :
    b.Tracks d.declarations := by
  unfold Dump.convert at h
  split at h
  · rename_i b₀ hrun
    cases h
    simpa using (Builder.Tracks.init d.name).addAll hrun
  · cases h

end DocLinks
