import DocLinks.Cli.Run
import DocLinks.Proofs.Document.Links
import DocLinks.Proofs.Session.Passes
import Mathlib.Tactic.SplitIfs
import Mathlib.Data.List.Nodup

/-! The report of a pass and the order it lists unbound references in. Texts compare character
by character, and that is the order of their UTF-8 bytes: a character's sequence compares with
another's as the characters do, and no sequence is the start of another. The report inserts each
unbound reference into a list kept strictly increasing by name, then symbol id, so it lists the
distinct unbound references of the project, each once, in that order. After a pass whose written
slots all name live reflections, a reference is unbound exactly when its attempt left it dangling:
the report is complete exactly when nothing dangles, and it lists no more references than dangle.
So `report --strict` fails with status 2 exactly when a reference of the documented project stays
unbound. -/

namespace DocLinks

open Json

section ByteOrder

theorem toList_loop (bs : ByteArray) (i : Nat) (r : List UInt8) :
    ByteArray.toList.loop bs i r = r.reverse ++ bs.data.toList.drop i := by
  fun_induction ByteArray.toList.loop bs i r with
  | case1 i r h ih =>
      have hi : i < bs.data.toList.length := by simpa using h
      rw [ih, List.drop_eq_getElem_cons hi]
      simp [ByteArray.get!, h]
  | case2 i r h =>
      rw [List.drop_eq_nil_of_le (by simpa using Nat.le_of_not_lt h)]
      simp

theorem toList_eq_data (bs : ByteArray) : bs.toList = bs.data.toList := by
  simp [ByteArray.toList, toList_loop]

/-- The bytes of a text are the UTF-8 sequences of its characters. -/
theorem toByteArray_toList (s : String) :
    s.toByteArray.toList = s.toList.flatMap String.utf8EncodeChar := by
  conv => lhs; rw [← String.ofList_toList (s := s)]
  rw [String.toByteArray_ofList, List.utf8Encode, toList_eq_data, List.toList_data_toByteArray]

theorem toNat_lt_char (c : Char) : c.toNat < 0x110000 := by
  have h := c.valid
  simp only [UInt32.isValidChar, Nat.isValidChar] at h
  rw [← Char.toNat_val]
  omega

theorem toNat_ofNat_byte {n : Nat} (h : n < 256) : (UInt8.ofNat n).toNat = n :=
  UInt8.toNat_ofNat_of_lt' h

/-- Numbers written in the digits of a four-byte sequence compare as their digits do. -/
theorem lex_of_digits_lt (a₁ a₂ a₃ a₄ b₁ b₂ b₃ b₄ : Nat) (ha₂ : a₂ < 64) (ha₃ : a₃ < 64)
    (ha₄ : a₄ < 64) (hb₂ : b₂ < 64) (hb₃ : b₃ < 64) (hb₄ : b₄ < 64)
    (h : 262144 * a₁ + 4096 * a₂ + 64 * a₃ + a₄ < 262144 * b₁ + 4096 * b₂ + 64 * b₃ + b₄) :
    a₁ < b₁ ∨ a₁ = b₁ ∧ (a₂ < b₂ ∨ a₂ = b₂ ∧ (a₃ < b₃ ∨ a₃ = b₃ ∧ a₄ < b₄)) := by
  omega

/-- The UTF-8 sequences of characters compare as the characters do. -/
theorem utf8EncodeChar_lt {c d : Char} (h : c < d) :
    String.utf8EncodeChar c < String.utf8EncodeChar d := by
  have hc := toNat_lt_char c
  have hd := toNat_lt_char d
  have hcd : c.toNat < d.toNat := h
  by_cases hfour : 65535 < c.toNat
  · have hlex := lex_of_digits_lt (c.toNat / 262144 % 8) (c.toNat / 4096 % 64)
      (c.toNat / 64 % 64) (c.toNat % 64) (d.toNat / 262144 % 8) (d.toNat / 4096 % 64)
      (d.toNat / 64 % 64) (d.toNat % 64) (by omega) (by omega) (by omega) (by omega) (by omega)
      (by omega) (by omega)
    simp (disch := omega) only [String.utf8EncodeChar, Char.toNat_val, if_neg,
      List.cons_lt_cons_iff, UInt8.lt_iff_toNat_lt, List.not_lt_nil, toNat_ofNat_byte,
      ← UInt8.toNat_inj, and_false, or_false]
    omega
  · simp only [String.utf8EncodeChar, Char.toNat_val]
    split_ifs <;>
      simp (disch := omega) only [List.cons_lt_cons_iff, UInt8.lt_iff_toNat_lt, List.nil_lt_cons,
        List.not_lt_nil, toNat_ofNat_byte, ← UInt8.toNat_inj, and_true, and_false, or_false] <;>
      omega

/-- A list below another that it does not start stays below it whatever follows each. -/
theorem append_lt_append_of_not_prefix {α : Type} [LT α] {l₁ l₂ : List α} (h : l₁ < l₂)
    (hp : ∀ p, l₁ ++ p ≠ l₂) (r s : List α) : l₁ ++ r < l₂ ++ s := by
  induction h with
  | nil => exact absurd (List.nil_append _) (hp _)
  | rel hab => exact List.Lex.rel hab
  | cons h ih => exact List.Lex.cons (ih fun p hq => hp p (by rw [List.cons_append, hq]))

/-- No character's UTF-8 sequence starts another's: it reads back as its own character. -/
theorem utf8EncodeChar_append_ne {c d : Char} (h : c ≠ d) (p : List UInt8) :
    String.utf8EncodeChar c ++ p ≠ String.utf8EncodeChar d := by
  intro heq
  have hd := ByteArray.utf8DecodeChar?_utf8EncodeChar_append (b := ByteArray.empty) (c := d)
  have hc := ByteArray.utf8DecodeChar?_utf8EncodeChar_append (b := p.toByteArray) (c := c)
  rw [ByteArray.append_empty] at hd
  rw [← List.toByteArray_append, heq, hd] at hc
  exact h (Option.some.inj hc).symm

theorem utf8EncodeChar_append_lt {c d : Char} (h : c < d) (r s : List UInt8) :
    String.utf8EncodeChar c ++ r < String.utf8EncodeChar d ++ s :=
  append_lt_append_of_not_prefix (utf8EncodeChar_lt h)
    (utf8EncodeChar_append_ne fun heq => by subst heq; exact Char.lt_irrefl c h) r s

theorem flatMap_utf8EncodeChar_lt {cs ds : List Char} (h : cs < ds) :
    cs.flatMap String.utf8EncodeChar < ds.flatMap String.utf8EncodeChar := by
  induction h with
  | nil =>
      obtain ⟨b, bs, hd⟩ := List.exists_cons_of_ne_nil (String.utf8EncodeChar_ne_nil (c := ‹Char›))
      rw [List.flatMap_nil, List.flatMap_cons, hd, List.cons_append]
      exact List.nil_lt_cons _ _
  | rel hcd =>
      rw [List.flatMap_cons, List.flatMap_cons]
      exact utf8EncodeChar_append_lt hcd _ _
  | cons _ ih =>
      rw [List.flatMap_cons, List.flatMap_cons]
      exact List.append_left_lt ih

/-- Texts compare as their UTF-8 bytes do. -/
theorem lt_iff_bytes_lt (a b : String) : a < b ↔ a.toUTF8.toList < b.toUTF8.toList := by
  simp only [String.toUTF8_eq_toByteArray, toByteArray_toList]
  constructor
  · exact flatMap_utf8EncodeChar_lt
  · intro h
    by_contra hnot
    by_cases hba : b < a
    · exact List.lt_asymm h (flatMap_utf8EncodeChar_lt hba)
    · obtain rfl := String.le_antisymm hba hnot
      exact List.lt_irrefl _ h

end ByteOrder

namespace Unbound

/-- The order of unbound references, with names compared by their UTF-8 bytes. -/
theorem lt_iff (a b : Unbound) :
    a.lt b = true ↔ a.name.toUTF8.toList < b.name.toUTF8.toList ∨
      a.name = b.name ∧ a.symbol < b.symbol := by
  rw [← lt_iff_bytes_lt]
  simp only [Unbound.lt, Bool.or_eq_true, decide_eq_true_eq, Bool.and_eq_true, beq_iff_eq]

theorem lt_irrefl (a : Unbound) : a.lt a = false := by
  simp only [Unbound.lt, String.lt_irrefl, Int.lt_irrefl, decide_false, Bool.false_or,
    Bool.and_false]

theorem lt_trans {a b c : Unbound} (hab : a.lt b = true) (hbc : b.lt c = true) : a.lt c = true := by
  simp only [Unbound.lt, Bool.or_eq_true, decide_eq_true_eq, Bool.and_eq_true, beq_iff_eq] at *
  rcases hab with hab | ⟨hab, hs⟩ <;> rcases hbc with hbc | ⟨hbc, hs'⟩
  · exact .inl (String.lt_trans hab hbc)
  · exact .inl (hbc ▸ hab)
  · exact .inl (hab ▸ hbc)
  · exact .inr ⟨hab.trans hbc, Int.lt_trans hs hs'⟩

/-- Two different unbound references are ordered one way or the other. -/
theorem lt_or_gt_of_ne {a b : Unbound} (h : a ≠ b) : a.lt b = true ∨ b.lt a = true := by
  simp only [Unbound.lt, Bool.or_eq_true, decide_eq_true_eq, Bool.and_eq_true, beq_iff_eq]
  by_cases hab : a.name < b.name
  · exact .inl (.inl hab)
  · by_cases hba : b.name < a.name
    · exact .inr (.inl hba)
    · have hname : a.name = b.name := String.le_antisymm hba hab
      have hsymbol : a.symbol ≠ b.symbol := fun hs => h (by cases a; cases b; simp_all)
      rcases Int.lt_or_gt_of_ne hsymbol with hs | hs
      · exact .inl (.inr ⟨hname, hs⟩)
      · exact .inr (.inr ⟨hname.symm, hs⟩)

theorem mem_insert {u v : Unbound} : ∀ {l : List Unbound}, v ∈ u.insert l ↔ v = u ∨ v ∈ l
  | [] => by simp [Unbound.insert]
  | w :: ws => by
      unfold Unbound.insert
      split
      · simp
      · split
        · rename_i heq
          subst heq
          simp
        · rw [List.mem_cons, mem_insert, List.mem_cons]
          exact or_left_comm

/-- Inserting into a strictly increasing list keeps it strictly increasing. -/
theorem pairwise_insert (u : Unbound) :
    ∀ {l : List Unbound}, l.Pairwise (·.lt · = true) → (u.insert l).Pairwise (·.lt · = true)
  | [], _ => by simp [Unbound.insert]
  | w :: ws, hl => by
      obtain ⟨hw, hws⟩ := List.pairwise_cons.mp hl
      unfold Unbound.insert
      split
      · rename_i huw
        refine List.Pairwise.cons (fun x hx => ?_) hl
        rcases List.mem_cons.mp hx with rfl | hx
        · exact huw
        · exact lt_trans huw (hw x hx)
      · split
        · exact hl
        · rename_i huw hne
          have hwu : w.lt u = true := (lt_or_gt_of_ne hne).resolve_left huw
          refine List.Pairwise.cons (fun x hx => ?_) (pairwise_insert u hws)
          rcases mem_insert.mp hx with rfl | hx
          · exact hwu
          · exact hw x hx

theorem mem_foldl_insert {v : Unbound} :
    ∀ {l acc : List Unbound}, v ∈ l.foldl (fun acc u => u.insert acc) acc ↔ v ∈ acc ∨ v ∈ l
  | [], acc => by simp
  | u :: l, acc => by
      rw [List.foldl_cons, mem_foldl_insert, mem_insert, List.mem_cons]
      tauto

theorem pairwise_foldl_insert :
    ∀ {l acc : List Unbound}, acc.Pairwise (·.lt · = true) →
      (l.foldl (fun acc u => u.insert acc) acc).Pairwise (·.lt · = true)
  | [], _, hacc => hacc
  | u :: l, _, hacc => by
      rw [List.foldl_cons]
      exact pairwise_foldl_insert (pairwise_insert u hacc)

end Unbound

namespace Report

variable (p : Project) (stats : Stats)

/-- The report lists exactly the name and symbol id of every unbound reference. -/
theorem mem_unbound {u : Unbound} :
    u ∈ (ofProject p stats).unbound ↔
      ∃ r ∈ p.references, r.isResolved p.targets = false ∧ u = ⟨r.name, r.symbol⟩ := by
  simp only [ofProject, Unbound.mem_foldl_insert, List.not_mem_nil, false_or, List.mem_map,
    List.mem_filter, Bool.not_eq_true']
  constructor
  · rintro ⟨r, ⟨hr, hres⟩, rfl⟩
    exact ⟨r, hr, hres, rfl⟩
  · rintro ⟨r, hr, hres, rfl⟩
    exact ⟨r, ⟨hr, hres⟩, rfl⟩

theorem pairwise_unbound : (ofProject p stats).unbound.Pairwise (·.lt · = true) :=
  Unbound.pairwise_foldl_insert List.Pairwise.nil

theorem nodup_unbound : (ofProject p stats).unbound.Nodup :=
  (pairwise_unbound p stats).imp fun {a b} hab heq => by
    subst heq
    simp [Unbound.lt_irrefl] at hab

theorem isComplete_iff :
    (ofProject p stats).isComplete = true ↔ ∀ r ∈ p.references, r.isResolved p.targets = true := by
  rw [isComplete, List.isEmpty_iff, List.eq_nil_iff_forall_not_mem]
  constructor
  · intro h r hr
    by_contra hres
    exact h _ ((mem_unbound p stats).mpr ⟨r, hr, by simpa using hres, rfl⟩)
  · intro h u hu
    obtain ⟨r, hr, hres, -⟩ := (mem_unbound p stats).mp hu
    simp [h r hr] at hres

/-- The report lists each unbound reference's name and symbol id once, so no more entries than
there are unbound references. -/
theorem length_unbound_le :
    (ofProject p stats).unbound.length ≤ (p.references.filter fun r => !r.isResolved p.targets).length := by
  have hsub : (ofProject p stats).unbound ⊆
      (p.references.filter fun r => !r.isResolved p.targets).map fun r => (⟨r.name, r.symbol⟩ : Unbound) := by
    intro u hu
    obtain ⟨r, hr, hres, rfl⟩ := (mem_unbound p stats).mp hu
    exact List.mem_map.mpr ⟨r, List.mem_filter.mpr ⟨hr, by simpa using hres⟩, rfl⟩
  simpa using List.Nodup.length_le_of_subset (nodup_unbound p stats) hsub

end Report

section Pass

variable (symbols : SymbolMap) (live : Targets)

/-- After an attempt, a reference whose written slot names a live reflection is unbound exactly
when the attempt found no symbol or no entry for it. -/
theorem isResolved_restamp_eq_false_iff {r : Reference}
    (hlive : (r.restamp (Reference.attemptSlot symbols live)).slot.isSome →
      (r.restamp (Reference.attemptSlot symbols live)).isResolved live = true) :
    (r.restamp (Reference.attemptSlot symbols live)).isResolved live = false ↔
      r.attemptOutcome symbols live = .unresolved ∨ r.attemptOutcome symbols live = .noSymbol := by
  obtain ⟨halready, hnone, hresolved, hunresolved⟩ := r.attemptOutcome_iff symbols live
  have hslot := r.attemptSlot_eq symbols live
  have hkeep : r.attemptOutcome symbols live ≠ .resolved →
      (r.restamp (Reference.attemptSlot symbols live)).isResolved live = r.isResolved live := by
    intro hne
    have hsame : (r.restamp (Reference.attemptSlot symbols live)).slot = r.slot := by
      simpa using hslot.trans (if_neg hne)
    simp only [Reference.isResolved, Reference.target, hsame]
  constructor
  · intro hres
    have hempty : (r.attemptSlot symbols live) = none := by
      by_contra hsome
      have := hlive (by simpa [Option.isSome_iff_ne_none] using hsome)
      rw [hres] at this
      cases this
    cases ho : r.attemptOutcome symbols live with
    | resolved =>
        obtain ⟨-, -, hlookup⟩ := hresolved.mp ho
        rw [hslot, if_pos ho] at hempty
        simp [Option.isSome_iff_ne_none] at hlookup
        exact absurd hempty (by simpa using hlookup)
    | alreadyResolved =>
        rw [hslot, ho, if_neg (by decide)] at hempty
        rcases halready.mp ho with hlive' | ⟨-, hsome, -⟩
        · rw [hkeep (by rw [ho]; decide)] at hres
          rw [hres] at hlive'
          cases hlive'
        · rw [hempty] at hsome
          cases hsome
    | unresolved => exact .inl rfl
    | noSymbol => exact .inr rfl
  · rintro (ho | ho)
    · rw [hkeep (by rw [ho]; decide)]
      exact (hunresolved.mp ho).1
    · rw [hkeep (by rw [ho]; decide)]
      exact (hnone.mp ho).1

theorem dangling_ofOutcomes (os : List Outcome) :
    (Stats.ofOutcomes os).dangling = os.countP fun o => o = .unresolved ∨ o = .noSymbol := by
  induction os with
  | nil => rfl
  | cons o os ih =>
      rw [List.countP_cons, ← ih]
      cases o <;> simp [Stats.dangling] <;> omega

end Pass

namespace Project

variable (p : Project)

/-- After a pass whose written slots all name live reflections, the references left unbound are
as many as the dangling outcomes the pass counted. -/
theorem length_unbound_resolve
    (hlive : ∀ r ∈ p.resolve.project.references, r.slot.isSome → r.isResolved p.resolve.project.targets = true) :
    (p.resolve.project.references.filter fun r => !r.isResolved p.resolve.project.targets).length =
      p.resolve.stats.dangling := by
  rw [resolve_stats, dangling_ofOutcomes, List.countP_map, resolve_project, targets_mapSlots,
    references_mapSlots, List.filter_map, List.length_map, ← List.countP_eq_length_filter]
  rw [resolve_project, references_mapSlots, targets_mapSlots] at hlive
  refine List.countP_congr fun r hr => ?_
  have hkeep := isResolved_restamp_eq_false_iff p.symbols p.targets
    (hlive _ (List.mem_map_of_mem hr))
  simpa [Function.comp_def] using hkeep

end Project

namespace Dump

variable {d : Dump} {opts : Options} {doc : Documentation} {notes : List Note}

/-- After documenting a dump, every written slot names a live reflection: the slot is the first
declaration carrying the reference's symbol, and that declaration's reflection is alive. -/
theorem isResolved_of_document (h : d.document opts = (.ok doc, notes)) {r : Reference}
    (hr : r ∈ doc.project.references) (hslot : r.slot.isSome = true) :
    r.isResolved doc.project.targets = true := by
  obtain ⟨i, hsite⟩ : ∃ i, (i, r) ∈ doc.project.sites := by
    rw [← Project.sites_map_snd, List.mem_map] at hr
    obtain ⟨⟨i, r'⟩, hx, rfl⟩ := hr
    exact ⟨i, hx⟩
  have hfirst : r.slot = (registrant d.declarations r.symbol).map linkTo := by
    have hx := hsite
    rw [(document_eq_ok h).2.1] at hx
    exact (tracks_of_document h).slot_of_mem_resolve_sites hx
  rw [hfirst, Option.isSome_map] at hslot
  rw [Reference.isResolved, ← Option.isSome_map, target_of_mem_document_sites h hsite]
  exact hslot

end Dump

namespace Report

/-- After a pass whose written slots all name live reflections, the report is complete exactly
when nothing dangles, and it lists no more references than dangle. -/
theorem complete_iff_of_resolve (p : Project)
    (hlive : ∀ r ∈ p.resolve.project.references, r.slot.isSome →
      r.isResolved p.resolve.project.targets = true) :
    ((ofProject p.resolve.project p.resolve.stats).isComplete = true ↔
        p.resolve.stats.dangling = 0) ∧
      (ofProject p.resolve.project p.resolve.stats).unbound.length ≤ p.resolve.stats.dangling := by
  have hcount := p.length_unbound_resolve hlive
  refine ⟨?_, hcount ▸ length_unbound_le _ _⟩
  rw [isComplete_iff, ← hcount, List.length_eq_zero_iff, List.filter_eq_nil_iff]
  simp


/-- After documenting a dump, sequentially or in parallel, the report is complete exactly when
nothing dangles, and it lists no more references than dangle. -/
theorem complete_iff_of_document {d : Dump} {opts : Options} {doc : Documentation}
    {notes : List Note} (h : d.document opts = (.ok doc, notes)) :
    ((ofProject doc.project doc.stats).isComplete = true ↔ doc.stats.dangling = 0) ∧
      (ofProject doc.project doc.stats).unbound.length ≤ doc.stats.dangling := by
  obtain ⟨-, hproject, hstats⟩ := Dump.document_eq_ok h
  have hlive : ∀ r ∈ doc.converted.finish.resolve.project.references, r.slot.isSome →
      r.isResolved doc.converted.finish.resolve.project.targets = true := by
    rw [← hproject]
    exact fun r hr hslot => Dump.isResolved_of_document h hr hslot
  rw [hproject, hstats]
  exact complete_iff_of_resolve _ hlive

end Report

namespace Cli

/-- `report --strict` documents the dump, then ends with status 2 when a reference of the
documented project stays unbound and with 0 otherwise, printing the report either way. -/
theorem report_strict_run {m : Type → Type} [Monad m] (codec : Codec) (fs : FileAccess m)
    (run : RunArgs) :
    (Invocation.report run true).run codec fs = (do
      let opts ← run.options codec fs
      let d ← run.document codec fs opts
      pure (if ∃ r ∈ d.project.references, r.isResolved d.project.targets = false then 2 else 0,
        codec.pretty (Report.ofProject d.project d.stats).toJson ++ "\n")) := by
  simp only [Invocation.run]
  congr 1
  funext opts
  congr 1
  funext d
  have hcomplete := Report.isComplete_iff d.project d.stats
  by_cases hsome : ∃ r ∈ d.project.references, r.isResolved d.project.targets = false
  · have hincomplete : (Report.ofProject d.project d.stats).isComplete = false := by
      obtain ⟨r, hr, hres⟩ := hsome
      by_contra h
      simp [hcomplete.mp (by simpa using h) r hr] at hres
    simp [hsome, hincomplete]
  · have hcomplete' : (Report.ofProject d.project d.stats).isComplete = true :=
      hcomplete.mpr fun r hr => by simpa using fun h => hsome ⟨r, hr, h⟩
    simp [hsome, hcomplete']

end Cli

/-- The report of a project lists the name and symbol id of every reference left unbound, each
once, in strictly increasing order of name, compared by UTF-8 bytes, and then of symbol id.
When the report follows a pass over the project, sequential or parallel, whose written slots all
name live reflections, it is complete exactly when no reference dangles, and it lists no more
references than dangle; documenting a dump leaves every written slot live, so this holds of
every documented dump. `report --strict` therefore ends with status 2 exactly when some
reference of the documented project stays unbound, and with 0 otherwise. -/
theorem report_lists_unbound_in_byte_order (p : Project) (stats : Stats) :
    (Report.ofProject p stats).unbound.Pairwise (fun a b =>
      a.name.toUTF8.toList < b.name.toUTF8.toList ∨ a.name = b.name ∧ a.symbol < b.symbol) ∧
    (Report.ofProject p stats).unbound.Nodup ∧
    (∀ u, u ∈ (Report.ofProject p stats).unbound ↔
      ∃ r ∈ p.references, r.isResolved p.targets = false ∧ u = ⟨r.name, r.symbol⟩) ∧
    (∀ (p₀ : Project) (pass : PassResult), (pass = p₀.resolve ∨ pass = p₀.resolveParallel) →
      p = pass.project → stats = pass.stats →
      (∀ r ∈ p.references, r.slot.isSome → r.isResolved p.targets = true) →
      ((Report.ofProject p stats).isComplete = true ↔ stats.dangling = 0) ∧
        (Report.ofProject p stats).unbound.length ≤ stats.dangling) ∧
    (∀ (d : Dump) (opts : Options) (doc : Documentation) (notes : List Note),
      d.document opts = (.ok doc, notes) → p = doc.project → stats = doc.stats →
      ((Report.ofProject p stats).isComplete = true ↔ stats.dangling = 0) ∧
        (Report.ofProject p stats).unbound.length ≤ stats.dangling) ∧
    ∀ {m : Type → Type} [Monad m] (codec : Cli.Codec) (fs : Cli.FileAccess m) (run : Cli.RunArgs),
      (Cli.Invocation.report run true).run codec fs = (do
        let opts ← run.options codec fs
        let d ← run.document codec fs opts
        pure (if ∃ r ∈ d.project.references, r.isResolved d.project.targets = false then 2 else 0,
          codec.pretty (Report.ofProject d.project d.stats).toJson ++ "\n")) := by
  refine ⟨(Report.pairwise_unbound p stats).imp fun {a b} h => (Unbound.lt_iff a b).mp h,
    Report.nodup_unbound p stats, fun u => Report.mem_unbound p stats, ?_, ?_,
    fun codec fs run => Cli.report_strict_run codec fs run⟩
  rotate_left
  · rintro d opts doc notes h rfl rfl
    exact Report.complete_iff_of_document h
  intro p₀ pass hpass hp hstats hlive
  have hseq : p = p₀.resolve.project ∧ stats = p₀.resolve.stats := by
    rcases hpass with rfl | rfl
    · exact ⟨hp, hstats⟩
    · exact ⟨hp.trans (Project.resolveParallel_project p₀),
        hstats.trans (Project.resolveParallel_stats p₀)⟩
  obtain ⟨rfl, rfl⟩ := hseq
  exact Report.complete_iff_of_resolve p₀ hlive

/-- A project with a class registered for symbol 1, and two variables whose types mention the
class, an undocumented symbol twice, and a type without symbol. -/
def reportSample : Project where
  name := "report"
  reflections := #[
    { id := 0, name := "Foo", kind := .class },
    { id := 1, name := "a", kind := .variable,
      type := some (.union false [.reference false "Foo" 1 [] none,
        .reference false "Promise" 90 [] none]) },
    { id := 2, name := "b", kind := .variable,
      type := some (.tuple false [.reference false "Promise" 90 [] none,
        .reference false "Array" (-1) [] none]) }]
  symbols := { table := { entries :=
    [(1, { cell := 0, target := { id := 0, name := "Foo", kind := .class } })] } }

theorem sample_report_lists_unbound :
    (Report.ofProject reportSample.resolve.project reportSample.resolve.stats).unbound =
      [⟨"Array", -1⟩, ⟨"Promise", 90⟩] ∧
    (((Report.ofProject reportSample.resolve.project reportSample.resolve.stats).isComplete = true ↔
        reportSample.resolve.stats.dangling = 0) ∧
      (Report.ofProject reportSample.resolve.project reportSample.resolve.stats).unbound.length ≤
        reportSample.resolve.stats.dangling) ∧
    ∃ doc notes, sampleDump.document {} = (.ok doc, notes) ∧
      ((Report.ofProject doc.project doc.stats).isComplete = true ↔ doc.stats.dangling = 0) ∧
        (Report.ofProject doc.project doc.stats).unbound.length ≤ doc.stats.dangling :=
  ⟨by decide, (report_lists_unbound_in_byte_order _ _).2.2.2.1 reportSample _ (.inl rfl) rfl rfl
    (by decide), _, _, rfl,
    (report_lists_unbound_in_byte_order _ _).2.2.2.2.1 sampleDump {} _ _ rfl rfl rfl⟩

end DocLinks
