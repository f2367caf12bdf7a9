import DocLinks.Proofs.Session.Passes

/-! The text of a type expression reads a reference only through the name it shows. The face of
an expression keeps what its text is made of (array flags, forms, the names of built-in and
unclassified types, and the name each reference shows) and forgets type arguments, symbol ids
and slots; two expressions with one face have one text. So an expression whose references are all
unbound keeps its text when it is written to a record with any extras and built back, though the
record may leave its type arguments out. And a resolving pass, against a table that keeps its
reflections alive, changes the text only where it binds: a reference it binds showed its written
name and shows the name of the reflection the table holds for its symbol, every other reference
shows what it showed before, and since the pass writes slots only, array suffixes and the
parentheses of array unions stay as they were. -/

namespace DocLinks

/-- A frozen table keeps its reflections alive: the cell of each entry holds the entry's
reflection. -/
def SymbolMap.KeepsAlive (symbols : SymbolMap) (live : Targets) : Prop :=
  ∀ s e, symbols.lookup s = some e → live e.cell = some e.target

namespace Reference

/-- The name a reference shows once a pass has made its attempt on it: the name of the reflection
the table holds for its symbol if the attempt bound it, and the name it showed before otherwise. -/
def nameAfter (symbols : SymbolMap) (live : Targets) (r : Reference) : String :=
  if r.attemptOutcome symbols live = .resolved then
    match symbols.lookup r.symbol with
    | some e => e.target.name
    | none => r.name
  else r.displayName live

variable {symbols : SymbolMap} {live : Targets} {r : Reference}

/-- A reference a pass binds had an empty slot, so it showed its written name. -/
theorem displayName_of_resolved (h : r.attemptOutcome symbols live = .resolved) :
    r.displayName live = r.name := by
  obtain ⟨hslot, -, -⟩ := (attemptOutcome_iff symbols live r).2.2.1.mp h
  simp [displayName, target, hslot]

/-- After its attempt, a reference shows the name `nameAfter` gives it. -/
theorem displayName_restamp_attemptSlot (hkeeps : symbols.KeepsAlive live) :
    (r.restamp (attemptSlot symbols live)).displayName live = r.nameAfter symbols live := by
  by_cases hres : r.attemptOutcome symbols live = .resolved
  · obtain ⟨-, -, hl⟩ := (attemptOutcome_iff symbols live r).2.2.1.mp hres
    obtain ⟨e, he⟩ := Option.isSome_iff_exists.mp hl
    have hslot : r.attemptSlot symbols live = some e.link := by
      rw [attemptSlot_eq, if_pos hres, he, Option.map_some]
    simp [nameAfter, hres, he, displayName, target, hslot, Entry.link, hkeeps _ e he]
  · have hslot : r.attemptSlot symbols live = r.slot := by
      rw [attemptSlot_eq, if_neg hres]
    simp [nameAfter, hres, displayName, target, hslot]

end Reference

namespace TypeExpr

mutual
/-- The expression as its text sees it, with `name` naming each reference: array flags, forms and
the names of built-in and unclassified types stay, and a reference becomes an unbound one with
that name, no type arguments and symbol `0`. -/
def faceBy (name : Reference → String) : TypeExpr → TypeExpr
  | .intrinsic a n => .intrinsic a n
  | .unknown a n => .unknown a n
  | .reference a n s args slot => .reference a (name ⟨n, s, args, slot⟩) 0 [] none
  | .union a ms => .union a (faceAllBy name ms)
  | .tuple a es => .tuple a (faceAllBy name es)

/-- The faces of expressions. -/
def faceAllBy (name : Reference → String) : List TypeExpr → List TypeExpr
  | [] => []
  | t :: ts => faceBy name t :: faceAllBy name ts
end

/-- What the text of an expression is made of, each reference named as it shows itself. -/
def face (live : Targets) (t : TypeExpr) : TypeExpr := t.faceBy (·.displayName live)

mutual
/-- An expression shows the text of its face, whatever reflections are alive when the face is
shown: a face holds no bound reference. -/
theorem display_faceBy (live live' : Targets) :
    ∀ t : TypeExpr, display live' (t.faceBy (·.displayName live)) = display live t
  | .intrinsic _ _ => by rw [faceBy, display, display]
  | .unknown _ _ => by rw [faceBy, display, display]
  | .reference _ _ _ _ _ => by
      simp [faceBy, display, Reference.displayName, Reference.target]
  | .union _ ms => by simp only [faceBy, display, displayJoined_faceAllBy live live' _ ms]
  | .tuple _ es => by simp only [faceBy, display, displayJoined_faceAllBy live live' _ es]

theorem displayJoined_faceAllBy (live live' : Targets) (sep : String) :
    ∀ ts : List TypeExpr,
      displayJoined live' sep (faceAllBy (·.displayName live) ts) = displayJoined live sep ts
  | [] => by rw [faceAllBy, displayJoined, displayJoined]
  | [t] => by rw [faceAllBy, faceAllBy, displayJoined, displayJoined, display_faceBy live live' t]
  | t :: t' :: ts => by
      have hrest := displayJoined_faceAllBy live live' sep (t' :: ts)
      rw [faceAllBy] at hrest
      rw [faceAllBy, faceAllBy, displayJoined.eq_3 _ _ _ _ (List.cons_ne_nil _ _), hrest,
        displayJoined.eq_3 _ _ _ _ (List.cons_ne_nil _ _), display_faceBy live live' t]
end

theorem display_face (live live' : Targets) (t : TypeExpr) :
    display live' (t.face live) = display live t :=
  display_faceBy live live' t

/-- Two expressions with one face show one text. -/
theorem display_eq_of_face_eq {live live' : Targets} {t t' : TypeExpr} (h : t.face live = t'.face live') :
    display live t = display live' t' :=
  calc display live t = display live (t.face live) := (display_face live live t).symm
    _ = display live (t'.face live') := by rw [h]
    _ = display live' t' := display_face live' live t'

mutual
/-- The face reads each reference only through the name it is given. -/
theorem faceBy_congr {f g : Reference → String} :
    ∀ t : TypeExpr, (∀ r ∈ t.references, f r = g r) → t.faceBy f = t.faceBy g
  | .intrinsic _ _, _ => rfl
  | .unknown _ _, _ => rfl
  | .reference a n s args slot, hs => by
      rw [faceBy, faceBy, hs ⟨n, s, args, slot⟩ (by simp [references])]
  | .union _ ms, hs => by
      rw [faceBy, faceBy, faceAllBy_congr ms fun r hr => hs r (by simpa [references] using hr)]
  | .tuple _ es, hs => by
      rw [faceBy, faceBy, faceAllBy_congr es fun r hr => hs r (by simpa [references] using hr)]

theorem faceAllBy_congr {f g : Reference → String} :
    ∀ ts : List TypeExpr, (∀ r ∈ referencesAll ts, f r = g r) → faceAllBy f ts = faceAllBy g ts
  | [], _ => rfl
  | t :: ts, hs => by
      rw [faceAllBy, faceAllBy, faceBy_congr t fun r hr => hs r (by simp [referencesAll, hr]),
        faceAllBy_congr ts fun r hr => hs r (by simp [referencesAll, hr])]
end

mutual
/-- Rewriting slots and then taking the face is taking the face with each reference named as the
rewrite leaves it. -/
theorem faceBy_mapSlots (name : Reference → String) (h : Reference → Option Link) :
    ∀ t : TypeExpr, (t.mapSlots h).faceBy name = t.faceBy fun r => name (r.restamp h)
  | .intrinsic _ _ => rfl
  | .unknown _ _ => rfl
  | .reference _ _ _ _ _ => rfl
  | .union _ ms => by rw [mapSlots, faceBy, faceBy, faceAllBy_mapSlotsAll name h ms]
  | .tuple _ es => by rw [mapSlots, faceBy, faceBy, faceAllBy_mapSlotsAll name h es]

theorem faceAllBy_mapSlotsAll (name : Reference → String) (h : Reference → Option Link) :
    ∀ ts : List TypeExpr, faceAllBy name (mapSlotsAll h ts) = faceAllBy (fun r => name (r.restamp h)) ts
  | [] => rfl
  | t :: ts => by
      rw [mapSlotsAll, faceAllBy, faceAllBy, faceBy_mapSlots name h t, faceAllBy_mapSlotsAll name h ts]
end

mutual
/-- Rewriting slots twice is rewriting them once, with the second rewrite reading the first. -/
theorem mapSlots_mapSlots (h h' : Reference → Option Link) :
    ∀ t : TypeExpr, (t.mapSlots h).mapSlots h' = t.mapSlots fun r => h' (r.restamp h)
  | .intrinsic _ _ => rfl
  | .unknown _ _ => rfl
  | .reference a n s args slot => by
      rw [mapSlots, mapSlots, mapSlots, mapSlotsAll_mapSlotsAll h h' args]
      rfl
  | .union _ ms => by rw [mapSlots, mapSlots, mapSlots, mapSlotsAll_mapSlotsAll h h' ms]
  | .tuple _ es => by rw [mapSlots, mapSlots, mapSlots, mapSlotsAll_mapSlotsAll h h' es]

theorem mapSlotsAll_mapSlotsAll (h h' : Reference → Option Link) :
    ∀ ts : List TypeExpr, mapSlotsAll h' (mapSlotsAll h ts) = mapSlotsAll (fun r => h' (r.restamp h)) ts
  | [] => rfl
  | t :: ts => by
      rw [mapSlotsAll, mapSlotsAll, mapSlotsAll, mapSlots_mapSlots h h' t, mapSlotsAll_mapSlotsAll h h' ts]
end

/-- Rewriting slots keeps everything but the slots. -/
theorem clearSlots_mapSlots (h : Reference → Option Link) (t : TypeExpr) :
    (t.mapSlots h).clearSlots = t.clearSlots := by
  rw [clearSlots, mapSlots_mapSlots, clearSlots]

mutual
/-- Written to a record with any extras and built back, an expression whose references are all
unbound keeps its face: each reference shows its written name before and after. -/
theorem face_ofRecord_toRecord (opts : RecordOptions) (live live' : Targets) :
    ∀ t : TypeExpr, (∀ r ∈ t.references, r.isResolved live = false) →
      (ofRecordWith (fun _ => none) (t.toRecord opts live)).face live' = t.face live
  | .intrinsic _ _, _ => rfl
  | .unknown _ _, _ => rfl
  | .reference a n s args slot, hs => by
      have hshown : (Reference.mk n s args slot).displayName live = n :=
        Reference.displayName_of_not_isResolved (hs _ (by simp [references]))
      simp only [face, toRecord, ofRecordWith, faceBy, hshown]
      simp [Reference.displayName, Reference.target]
  | .union _ ms, hs => by
      have hms := faceAllBy_ofRecordAll_toRecordAll opts live live' ms
        fun r hr => hs r (by simpa [references] using hr)
      simp only [face, toRecord, ofRecordWith, faceBy]
      rw [hms]
  | .tuple _ es, hs => by
      have hes := faceAllBy_ofRecordAll_toRecordAll opts live live' es
        fun r hr => hs r (by simpa [references] using hr)
      simp only [face, toRecord, ofRecordWith, faceBy]
      rw [hes]

theorem faceAllBy_ofRecordAll_toRecordAll (opts : RecordOptions) (live live' : Targets) :
    ∀ ts : List TypeExpr, (∀ r ∈ referencesAll ts, r.isResolved live = false) →
      faceAllBy (·.displayName live') (ofRecordAllWith (fun _ => none) (toRecordAll opts live ts)) =
        faceAllBy (·.displayName live) ts
  | [], _ => rfl
  | t :: ts, hs => by
      have ht := face_ofRecord_toRecord opts live live' t fun r hr => hs r (by simp [referencesAll, hr])
      rw [face, face] at ht
      rw [toRecordAll, ofRecordAllWith, faceAllBy, faceAllBy, ht,
        faceAllBy_ofRecordAll_toRecordAll opts live live' ts fun r hr => hs r (by simp [referencesAll, hr])]
end

section Pass

variable (symbols : SymbolMap) (live : Targets) (p : Progress) (t : TypeExpr)

/-- A pass writes slots and nothing else. -/
theorem clearSlots_resolve : (t.resolve symbols live p).2.clearSlots = t.clearSlots := by
  rw [resolve_eq, clearSlots_mapSlots]

/-- After a pass, against a table that keeps its reflections alive, an expression shows the text
of its face with each reference named by `nameAfter`. -/
theorem display_resolve (hkeeps : symbols.KeepsAlive live) :
    display live (t.resolve symbols live p).2 =
      display live (t.faceBy (Reference.nameAfter symbols live)) := by
  have hnames : ∀ r ∈ t.references,
      (r.restamp (Reference.attemptSlot symbols live)).displayName live = r.nameAfter symbols live :=
    fun _ _ => Reference.displayName_restamp_attemptSlot hkeeps
  calc display live (t.resolve symbols live p).2
      = display live ((t.mapSlots (Reference.attemptSlot symbols live)).face live) := by
        rw [resolve_eq, display_face]
    _ = display live
          (t.faceBy fun r => (r.restamp (Reference.attemptSlot symbols live)).displayName live) := by
        rw [face, faceBy_mapSlots]
    _ = display live (t.faceBy (Reference.nameAfter symbols live)) := by
        rw [faceBy_congr t hnames]

/-- A pass that binds nothing leaves the expression as it was. -/
theorem resolve_eq_self (h : ∀ r ∈ t.references, r.attemptOutcome symbols live ≠ .resolved) :
    (t.resolve symbols live p).2 = t := by
  rw [resolve_eq]
  exact mapSlots_eq_self t fun r hr => by rw [Reference.attemptSlot_eq, if_neg (h r hr)]

end Pass

/-- The text of an expression is made of its face alone: its array flags, its forms, the names of
its built-in and unclassified types and the names its references show, never their type arguments,
symbol ids or slots. So an expression whose references are all unbound keeps its text through its
record with any extras. A pass, against a table that keeps its reflections alive, shows the face
with each reference named by `nameAfter`: a reference it binds showed its written name and now
shows the name of the reflection the table holds for its symbol, and every other one shows what it
showed. The pass writes slots only, so flags and forms stay, and a pass that binds nothing keeps
the text. -/
theorem display_reads_shown_names :
    (∀ (live live' : Targets) (t t' : TypeExpr), t.face live = t'.face live' →
      display live t = display live' t') ∧
    (∀ (live : Targets) (t : TypeExpr), display live t = display live (t.face live)) ∧
    (∀ (opts : RecordOptions) (live live' : Targets) (t : TypeExpr),
      (∀ r ∈ t.references, r.isResolved live = false) →
      display live' (ofRecord (t.toRecord opts live)) = display live t) ∧
    (∀ (symbols : SymbolMap) (live : Targets) (p : Progress) (t : TypeExpr),
      symbols.KeepsAlive live →
      display live (t.resolve symbols live p).2 =
        display live (t.faceBy (Reference.nameAfter symbols live)) ∧
      ∀ r ∈ t.references, r.attemptOutcome symbols live = .resolved → r.displayName live = r.name) ∧
    (∀ (symbols : SymbolMap) (live : Targets) (p : Progress) (t : TypeExpr),
      (t.resolve symbols live p).2.clearSlots = t.clearSlots ∧
      ((∀ r ∈ t.references, r.attemptOutcome symbols live ≠ .resolved) →
        display live (t.resolve symbols live p).2 = display live t)) := by
  refine ⟨fun _ _ _ _ h => display_eq_of_face_eq h, fun live t => (display_face live live t).symm,
    fun opts live live' t hs => ?_, fun symbols live p t hkeeps => ?_, fun symbols live p t => ?_⟩
  · calc display live' (ofRecord (t.toRecord opts live))
        = display live' ((ofRecord (t.toRecord opts live)).face live') :=
          (display_face live' live' _).symm
      _ = display live' (t.face live) := by rw [ofRecord, face_ofRecord_toRecord opts live live' t hs]
      _ = display live t := display_face live live' t
  · exact ⟨display_resolve symbols live p t hkeeps, fun _ _ => Reference.displayName_of_resolved⟩
  · exact ⟨clearSlots_resolve symbols live p t, fun h => by rw [resolve_eq_self symbols live p t h]⟩

/-- A table that documents symbol `7` by the interface `Resolved`, kept in cell `0`. -/
def resolvedTable : SymbolMap :=
  { table := { entries := [(7, { cell := 0, target := ⟨0, "Resolved", .interface⟩ })] } }

/-- The reflections alive beside `resolvedTable`: its one reflection. -/
def resolvedAlive : Targets := fun c => if c = 0 then some ⟨0, "Resolved", .interface⟩ else none

/-- `(Foo | Bar[] | string)[]`, with `Foo` written for the documented symbol `7` and `Bar` for the
sentinel. -/
def fooBarStringArray : TypeExpr :=
  .union true [.reference false "Foo" 7 [] none, .reference true "Bar" (-1) [] none,
    .intrinsic false "string"]

theorem foo_bar_string_array_record_and_pass_text :
    (∀ r ∈ fooBarStringArray.references, r.isResolved resolvedAlive = false) ∧
    display resolvedAlive (ofRecord (fooBarStringArray.toRecord {} resolvedAlive)) =
      display resolvedAlive fooBarStringArray ∧
    resolvedTable.KeepsAlive resolvedAlive ∧
    display resolvedAlive (fooBarStringArray.resolve resolvedTable resolvedAlive {}).2 =
      display resolvedAlive
        (fooBarStringArray.faceBy (Reference.nameAfter resolvedTable resolvedAlive)) := by
  have hunbound : ∀ r ∈ fooBarStringArray.references, r.isResolved resolvedAlive = false := by
    simp [fooBarStringArray, references, referencesAll, Reference.isResolved, Reference.target]
  have hkeeps : resolvedTable.KeepsAlive resolvedAlive := by
    intro s e h
    cases hs : s == 7 <;>
      simp [SymbolMap.lookup, SymbolTable.get, resolvedTable, List.lookup_cons, List.lookup_nil, hs] at h
    subst h
    rfl
  exact ⟨hunbound,
    display_reads_shown_names.2.2.1 {} resolvedAlive resolvedAlive fooBarStringArray hunbound, hkeeps,
    (display_reads_shown_names.2.2.2.1 resolvedTable resolvedAlive {} fooBarStringArray hkeeps).1⟩

example : display resolvedAlive (fooBarStringArray.resolve resolvedTable resolvedAlive {}).2 =
    "(Resolved | Bar[] | string)[]" := by
  decide

end TypeExpr

end DocLinks
