import DocLinks.Proofs.Convert.Binding
import DocLinks.Proofs.Types.Build
import Mathlib.Data.Nat.Find

/-! Which dumps conversion refuses, and what it builds from the others. Conversion refuses a
declaration whose name is empty, whose parent is not an earlier declaration, or whose declared
type or extended types hold a reference record with an empty name at any depth, and reports the
first of these in that order. Registering a symbol never stops it: the table refuses only
sentinel and repeated ids, and both refusals are recoverable. So conversion fails exactly when
some declaration is refused, with the failure of the first one; otherwise it holds one
reflection per declaration, in order. -/

namespace DocLinks

namespace Declaration

/-- Conversion refuses declaration `i` with the failure `e`. The checks come in this order: an
empty name, a parent that is not an earlier declaration, and a reference record with an empty
name in the declared type or a type it extends. Symbol ids play no part. -/
@[mk_iff]
inductive Refusal (i : Nat) (d : Declaration) : Error → Prop where
  | emptyName : d.name = "" → Refusal i d (.emptyName i)
  | invalidParent {p : Nat} : d.name ≠ "" → d.parent = some p → i ≤ p →
      Refusal i d (.invalidParent i d.name p)
  | emptyReferenceName : d.name ≠ "" → (∀ p, d.parent = some p → p < i) →
      (∃ o ∈ d.type.toList ++ d.extended, ∃ a s args t,
        TypeRecord.reference a "" s args t ∈ o.referenceNodes) →
      Refusal i d (.emptyReferenceName i)

/-- The reflection conversion makes of a declaration at position `k`, its references bound as
`known` answers for their symbol ids. -/
def reflection (d : Declaration) (k : Nat) (known : Int → Option Link) : Reflection :=
  { id := k, name := d.name, kind := d.kind, parent := d.parent,
    type := d.type.map (TypeExpr.ofRecordWith known),
    extended := d.extended.map (TypeExpr.ofRecordWith known) }

/-- A declaration that is not refused has a name, and its parent, if any, comes before it. -/
theorem parent_lt_of_not_refused {i : Nat} {d : Declaration} (h : ∀ e, ¬d.Refusal i e) :
    d.name ≠ "" ∧ ∀ p, d.parent = some p → p < i := by
  have hname : d.name ≠ "" := fun hn => h _ (.emptyName hn)
  refine ⟨hname, fun p hp => ?_⟩
  by_contra hlt
  exact h _ (.invalidParent hname hp (Nat.le_of_not_lt hlt))

end Declaration

/-- The reflections conversion makes of declarations, in order: reflection `k` is declaration
`k`'s, each of its references bound to the first declaration before `k` carrying its symbol. -/
def convertedReflections (ds : List Declaration) : List Reflection :=
  ds.zipIdx.map fun x => x.1.reflection x.2 fun s => (registrant (ds.take x.2) s).map linkTo

theorem convertedReflections_append_singleton (ds : List Declaration) (d : Declaration) :
    convertedReflections (ds ++ [d]) =
      convertedReflections ds ++ [d.reflection ds.length fun s => (registrant ds s).map linkTo] := by
  rw [convertedReflections, List.zipIdx_append, List.zipIdx_singleton, List.map_append,
    List.map_singleton, Nat.zero_add, List.take_left' rfl, convertedReflections]
  congr 1
  refine List.map_congr_left fun x hx => ?_
  have hlt : x.2 < ds.length := by
    have := List.mem_zipIdx' (x := x.1) (i := x.2) hx
    exact this.1
  rw [List.take_append_of_le_length (Nat.le_of_lt hlt)]

namespace SymbolTable

/-- Registration refuses only with failures that conversion records and passes over. -/
theorem recoverable_of_register_eq_error {t : SymbolTable} {s : Int} {e : Entry} {err : Error}
    (h : t.register s e = .error err) : err.recoverable = true := by
  unfold register at h
  split at h
  · cases h
    rfl
  · split at h
    · cases h
      rfl
    · cases h

end SymbolTable

namespace Builder

theorem bind_eq_error {α β : Type} {x : Except Error α} {f : α → Except Error β} {e : Error} :
    x >>= f = .error e ↔ x = .error e ∨ ∃ a, x = .ok a ∧ f a = .error e := by
  cases x <;> simp [bind, Except.bind]

variable {b : Builder} {i : Nat} {e : Error} {d : Declaration}

/-- Adding a reflection never fails: a refused registration is recoverable. -/
theorem push_ne_error (ty : Option TypeExpr) (ext : List TypeExpr) : b.push d ty ext ≠ .error e := by
  unfold push
  dsimp only
  split
  · simp [pure, Except.pure]
  · split
    · simp [pure, Except.pure]
    · rename_i err hreg
      rw [if_pos (SymbolTable.recoverable_of_register_eq_error hreg)]
      simp [pure, Except.pure]

theorem check_of_emptyName (h : d.name = "") : check i d = .error (.emptyName i) := by
  simp [check, h, throw, throwThe, MonadExceptOf.throw, bind, Except.bind]

theorem check_of_late_parent {p : Nat} (hname : d.name ≠ "") (hp : d.parent = some p) (hip : i ≤ p) :
    check i d = .error (.invalidParent i d.name p) := by
  have hempty : d.name.isEmpty = false := String.isEmpty_eq_false_iff.mpr hname
  simp [check, hempty, hp, hip, throw, throwThe, MonadExceptOf.throw]

theorem check_of_pass (hname : d.name ≠ "") (hparent : ∀ p, d.parent = some p → p < i) :
    check i d = .ok () := by
  have hempty : d.name.isEmpty = false := String.isEmpty_eq_false_iff.mpr hname
  cases hp : d.parent with
  | none => simp [check, hempty, hp, pure, Except.pure]
  | some p => simp [check, hempty, hp, Nat.not_le_of_lt (hparent p hp), pure, Except.pure]

theorem mapM_buildType_eq_error_iff {rs : List TypeRecord} :
    rs.mapM (b.buildType i) = .error e ↔
      (∃ r ∈ rs, r.hasEmptyReferenceName = true) ∧ e = .emptyReferenceName i := by
  induction rs with
  | nil => simp [pure, Except.pure]
  | cons r rs ih =>
      rw [List.mapM_cons, bind_eq_error]
      cases hr : r.hasEmptyReferenceName with
      | true => simp [buildType, hr, @eq_comm Error]
      | false => simp [buildType, hr, bind_eq_error, ih, pure, Except.pure]

theorem optionMapM_buildType_eq_error_iff {o : Option TypeRecord} :
    o.mapM (b.buildType i) = .error e ↔
      (∃ r ∈ o.toList, r.hasEmptyReferenceName = true) ∧ e = .emptyReferenceName i := by
  cases o with
  | none => simp [pure, Except.pure]
  | some r =>
      cases hr : r.hasEmptyReferenceName <;>
        simp [buildType, hr, Functor.map, Except.map, @eq_comm Error]

/-- Once the checks pass, building the types fails exactly on a reference record with an empty
name, and adding the reflection never fails. -/
theorem build_eq_error_iff :
    (do
      let ty ← d.type.mapM (b.buildType i)
      let ext ← d.extended.mapM (b.buildType i)
      b.push d ty ext) = .error e ↔
      (∃ r ∈ d.type.toList ++ d.extended, r.hasEmptyReferenceName = true) ∧
        e = .emptyReferenceName i := by
  rw [bind_eq_error, optionMapM_buildType_eq_error_iff]
  cases hty : d.type.mapM (b.buildType i) with
  | error e' =>
      obtain ⟨⟨r, hr, hempty⟩, rfl⟩ := optionMapM_buildType_eq_error_iff.mp hty
      simp only [reduceCtorEq, false_and, exists_false, or_false, List.mem_append]
      exact ⟨fun h => ⟨⟨r, .inl hr, hempty⟩, h.2⟩, fun h => ⟨⟨r, hr, hempty⟩, h.2⟩⟩
  | ok ty =>
      have hfine : ∀ r ∈ d.type.toList, r.hasEmptyReferenceName = false := by
        intro r hr
        by_contra h
        have := (optionMapM_buildType_eq_error_iff (b := b) (i := i)).mpr
          ⟨⟨r, hr, by simpa using h⟩, rfl⟩
        rw [hty] at this
        cases this
      have hnone : ¬∃ r ∈ d.type.toList, r.hasEmptyReferenceName = true := by
        rintro ⟨r, hr, h⟩
        simp [hfine r hr] at h
      simp only [hnone, false_and, false_or, Except.ok.injEq, exists_eq_left', bind_eq_error,
        mapM_buildType_eq_error_iff, List.mem_append]
      constructor
      · rintro (⟨⟨r, hr, hempty⟩, rfl⟩ | ⟨ext, -, hpush⟩)
        · exact ⟨⟨r, .inr hr, hempty⟩, rfl⟩
        · exact absurd hpush (push_ne_error ty ext)
      · rintro ⟨⟨r, hr | hr, hempty⟩, rfl⟩
        · simp [hfine r hr] at hempty
        · exact .inl ⟨⟨r, hr, hempty⟩, rfl⟩

end Builder

namespace Declaration

variable {i : Nat} {d : Declaration} {e : Error}

theorem refusal_iff_of_emptyName (h : d.name = "") : d.Refusal i e ↔ e = .emptyName i := by
  constructor
  · rintro (_ | ⟨hne, -, -⟩ | ⟨hne, -, -⟩)
    · rfl
    · exact absurd h hne
    · exact absurd h hne
  · rintro rfl
    exact .emptyName h

theorem refusal_iff_of_late_parent {p : Nat} (hname : d.name ≠ "") (hp : d.parent = some p)
    (hip : i ≤ p) : d.Refusal i e ↔ e = .invalidParent i d.name p := by
  constructor
  · rintro (hn | ⟨-, hq, -⟩ | ⟨-, hlt, -⟩)
    · exact absurd hn hname
    · rw [hp, Option.some.injEq] at hq
      rw [hq]
    · exact absurd (hlt p hp) (Nat.not_lt_of_le hip)
  · rintro rfl
    exact .invalidParent hname hp hip

theorem refusal_iff_of_pass (hname : d.name ≠ "") (hparent : ∀ p, d.parent = some p → p < i) :
    d.Refusal i e ↔ (∃ r ∈ d.type.toList ++ d.extended, r.hasEmptyReferenceName = true) ∧
      e = .emptyReferenceName i := by
  simp only [TypeRecord.hasEmptyReferenceName_iff]
  constructor
  · rintro (hn | ⟨-, hp, hip⟩ | ⟨-, -, hempty⟩)
    · exact absurd hn hname
    · exact absurd (hparent _ hp) (Nat.not_lt_of_le hip)
    · exact ⟨hempty, rfl⟩
  · rintro ⟨hempty, rfl⟩
    exact .emptyReferenceName hname hparent hempty

end Declaration

namespace Builder

variable {b : Builder} {i : Nat} {e : Error} {d : Declaration}

/-- Conversion refuses a declaration exactly as `Declaration.Refusal` says. -/
theorem add_eq_error_iff : b.add i d = .error e ↔ d.Refusal i e := by
  unfold add
  rw [bind_eq_error]
  by_cases hname : d.name = ""
  · rw [check_of_emptyName hname, Declaration.refusal_iff_of_emptyName hname]
    simp [@eq_comm Error]
  · by_cases hlate : ∃ p, d.parent = some p ∧ i ≤ p
    · obtain ⟨p, hp, hip⟩ := hlate
      rw [check_of_late_parent hname hp hip, Declaration.refusal_iff_of_late_parent hname hp hip]
      simp [@eq_comm Error]
    · have hparent : ∀ p, d.parent = some p → p < i := fun p hp =>
        Nat.lt_of_not_le fun hip => hlate ⟨p, hp, hip⟩
      rw [check_of_pass hname hparent, Declaration.refusal_iff_of_pass hname hparent]
      simpa using build_eq_error_iff

end Builder

namespace Builder

variable {b : Builder} {e : Error}

/-- A run of conversion steps from position `i` stops at the first declaration that is refused,
with its failure. -/
theorem addAll_snd_eq_some_iff :
    ∀ {ds : List Declaration} {b : Builder} {i : Nat}, (b.addAll i ds).2 = some e ↔
      ∃ j, ∃ hj : j < ds.length,
        (∀ k (hk : k < j), ∀ e', ¬ds[k].Refusal (i + k) e') ∧ ds[j].Refusal (i + j) e
  | [], b, i => by simp [addAll]
  | d :: ds, b, i => by
      rw [addAll]
      cases hadd : b.add i d with
      | error e₀ =>
          have hfirst : ∀ e', d.Refusal i e' ↔ e₀ = e' := fun e' => by
            rw [← add_eq_error_iff, hadd, Except.error.injEq]
          simp only [Option.some.injEq]
          constructor
          · rintro rfl
            exact ⟨0, by simp, fun k hk => absurd hk (Nat.not_lt_zero k), (hfirst e₀).mpr rfl⟩
          · rintro ⟨j, hj, hbefore, hj'⟩
            cases j with
            | zero => exact (hfirst e).mp hj'
            | succ j => exact absurd ((hfirst e₀).mpr rfl) (hbefore 0 (Nat.succ_pos j) e₀)
      | ok b' =>
          have hpass : ∀ e', ¬d.Refusal i e' := fun e' h => by
            rw [← add_eq_error_iff, hadd] at h
            cases h
          dsimp only
          rw [addAll_snd_eq_some_iff]
          constructor
          · rintro ⟨j, hj, hbefore, hj'⟩
            refine ⟨j + 1, by simpa using hj, fun k hk e' => ?_, ?_⟩
            · cases k with
              | zero => exact hpass e'
              | succ k =>
                  have := hbefore k (by omega) e'
                  simpa [Nat.add_assoc, Nat.add_comm 1 k] using this
            · simpa [Nat.add_assoc, Nat.add_comm 1 j] using hj'
          · rintro ⟨j, hj, hbefore, hj'⟩
            cases j with
            | zero => exact absurd hj' (hpass e)
            | succ j =>
                refine ⟨j, by simpa using hj, fun k hk e' => ?_, ?_⟩
                · have := hbefore (k + 1) (by omega) e'
                  simpa [Nat.add_assoc, Nat.add_comm 1 k] using this
                · simpa [Nat.add_assoc, Nat.add_comm 1 j] using hj'

/-- One conversion step adds the reflection of the declaration it converts, its references bound
to the first earlier declaration carrying their symbol. -/
theorem Tracks.reflections_add {ds : List Declaration} {d : Declaration} {b' : Builder}
    (hb : b.Tracks ds) (h : b.add ds.length d = .ok b') :
    b'.reflections.toList =
      b.reflections.toList ++ [d.reflection ds.length fun s => (registrant ds s).map linkTo] := by
  obtain ⟨-, hreflections, -⟩ := add_eq_ok h
  have hknown : (fun s => (b.symbols.get s).map (·.link)) = fun s => (registrant ds s).map linkTo :=
    funext hb.link_get
  rw [hreflections, Array.toList_push, hknown, size, hb.size_eq]
  rfl

end Builder

namespace Dump

variable {dump : Dump} {b : Builder}

theorem convert_eq_error_iff {e : Error} :
    dump.convert.result = .error e ↔ (({ name := dump.name } : Builder).addAll 0 dump.declarations).2 = some e := by
  unfold convert
  split <;> simp_all

/-- A dump that conversion accepts is converted into one reflection per declaration, in order. -/
theorem reflections_of_convert (h : dump.convert.result = .ok b) :
    b.reflections.toList = convertedReflections dump.declarations := by
  unfold convert at h
  split at h
  · rename_i b₀ hrun
    cases h
    have hrun' : ({ name := dump.name } : Builder).addAll ([] : List Declaration).length
        dump.declarations = (b, none) := hrun
    have hkeep := Builder.addAll_induction
      (P := fun ds b => b.Tracks ds ∧ b.reflections.toList = convertedReflections ds)
      (fun hb hadd => ⟨hb.1.add hadd, by
        rw [hb.1.reflections_add hadd, hb.2, convertedReflections_append_singleton]⟩)
      ⟨Builder.Tracks.init dump.name, rfl⟩ hrun'
    simpa using hkeep.2
  · cases h

/-- In a dump that conversion accepts, no declaration is refused. -/
theorem not_refused_of_convert (h : dump.convert.result = .ok b) :
    ∀ i (hi : i < dump.declarations.length) e, ¬dump.declarations[i].Refusal i e := by
  intro i hi e hrefused
  obtain ⟨j, hj, hfirst⟩ : ∃ j, ∃ hj : j < dump.declarations.length,
      (∀ k (hk : k < j), ∀ e', ¬dump.declarations[k].Refusal k e') ∧
        ∃ e', dump.declarations[j].Refusal j e' := by
    classical
    have hex : ∃ j, ∃ hj : j < dump.declarations.length, ∃ e', dump.declarations[j].Refusal j e' :=
      ⟨i, hi, e, hrefused⟩
    refine ⟨Nat.find hex, (Nat.find_spec hex).1, fun k hk e' hk' => ?_, (Nat.find_spec hex).2⟩
    exact Nat.find_min hex hk ⟨by have := (Nat.find_spec hex).1; omega, e', hk'⟩
  obtain ⟨hbefore, e', hj'⟩ := hfirst
  have hfail := convert_eq_error_iff.mpr (Builder.addAll_snd_eq_some_iff.mpr
    ⟨j, hj, fun k hk e'' => by simpa using hbefore k hk e'', by simpa using hj'⟩)
  rw [h] at hfail
  cases hfail

end Dump

/-- Conversion fails exactly when some declaration is refused, and then with the failure of the
first refused declaration: an empty name, else a parent that is not an earlier declaration, else
a reference with an empty name at any depth of its types. Symbol ids never stop it, since the
table refuses only with recoverable failures. A dump it accepts becomes one reflection per
declaration, in declaration order. -/
theorem convert_fails_at_first_refused (dump : Dump) :
    ((∃ e, dump.convert.result = .error e) ↔
      ∃ i, ∃ hi : i < dump.declarations.length, ∃ e, dump.declarations[i].Refusal i e) ∧
    (∀ e, dump.convert.result = .error e ↔
      ∃ i, ∃ hi : i < dump.declarations.length,
        (∀ j (hj : j < i), ∀ e', ¬dump.declarations[j].Refusal j e') ∧
          dump.declarations[i].Refusal i e) ∧
    (∀ b, dump.convert.result = .ok b →
      b.reflections.toList = convertedReflections dump.declarations) ∧
    ∀ (t : SymbolTable) (s : Int) (entry : Entry) (err : Error),
      t.register s entry = .error err → err.recoverable = true := by
  have hfirst : ∀ e, dump.convert.result = .error e ↔
      ∃ i, ∃ hi : i < dump.declarations.length,
        (∀ j (hj : j < i), ∀ e', ¬dump.declarations[j].Refusal j e') ∧
          dump.declarations[i].Refusal i e := fun e => by
    rw [Dump.convert_eq_error_iff, Builder.addAll_snd_eq_some_iff]
    simp
  refine ⟨⟨?_, ?_⟩, hfirst, fun b => Dump.reflections_of_convert,
    fun t s entry err => SymbolTable.recoverable_of_register_eq_error⟩
  · rintro ⟨e, he⟩
    obtain ⟨i, hi, -, hi'⟩ := (hfirst e).mp he
    exact ⟨i, hi, e, hi'⟩
  · rintro ⟨i, hi, e, hrefused⟩
    cases hres : dump.convert.result with
    | error e' => exact ⟨e', rfl⟩
    | ok b => exact absurd hrefused (Dump.not_refused_of_convert hres i hi e)

/-- A class whose extended type has a reference with an empty name inside a union among its
type arguments. -/
def nestedEmptyNameDump : Dump where
  name := "lib"
  declarations :=
    [{ name := "Foo", kind := .class,
       extended := [.reference false "Base" 1
         (some [.union false [.reference false "" 2 none none]]) none] }]

/-- A module holding a class and an interface, and a property of the class whose type refers
forward to the interface, which extends the class. -/
def familyDump : Dump where
  name := "lib"
  declarations :=
    [{ name := "lib", kind := .module },
     { name := "Foo", kind := .class, symbol := some 7, parent := some 0 },
     { name := "items", kind := .property, parent := some 1,
       type := some (.reference false "Bar" 8 none none) },
     { name := "Bar", kind := .interface, symbol := some 8, parent := some 0,
       extended := [.reference false "Foo" 7 none none] }]

theorem sample_dumps_refused_and_converted :
    (∃ i, ∃ hi : i < nestedEmptyNameDump.declarations.length,
      (∀ j (hj : j < i), ∀ e', ¬nestedEmptyNameDump.declarations[j].Refusal j e') ∧
        nestedEmptyNameDump.declarations[i].Refusal i (.emptyReferenceName 0)) ∧
    ∃ b, familyDump.convert.result = .ok b ∧
      b.reflections.toList = convertedReflections familyDump.declarations :=
  ⟨((convert_fails_at_first_refused nestedEmptyNameDump).2.1 _).mp rfl,
    _, rfl, (convert_fails_at_first_refused familyDump).2.2.1 _ rfl⟩

end DocLinks
