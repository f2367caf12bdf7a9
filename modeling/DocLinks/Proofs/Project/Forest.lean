import DocLinks.Proofs.Convert.Refusal
import Mathlib.Data.List.Nodup

/-! The parent links of a converted project. Reflection `k` has id `k` and is found under it, and
its parent is its declaration's, an earlier reflection. Such a project is `Ordered`, and in an
ordered project the parent links form a forest: from any reflection they reach a root in at most
as many steps as its id. Listing the roots and then the children of every reflection lists every
reflection exactly once, each child only under its own parent; a list of children is in
increasing order of id, every id above the parent's, and a position past the last reflection has
no children. -/

namespace DocLinks

namespace Project

/-- Following parent links from reflection `k` reaches a reflection without a parent in `n`
steps. -/
inductive ReachesRoot (p : Project) : Nat → Nat → Prop where
  | root {k : Nat} {r : Reflection} : p.get k = some r → r.parent = none → p.ReachesRoot k 0
  | up {k q n : Nat} {r : Reflection} : p.get k = some r → r.parent = some q →
      p.ReachesRoot q n → p.ReachesRoot k (n + 1)

/-- Reflection `k` of the project has id `k`, and its parent, if any, comes before it. -/
structure Ordered (p : Project) : Prop where
  id_eq : ∀ k (hk : k < p.reflections.size), p.reflections[k].id = k
  parent_lt : ∀ k (hk : k < p.reflections.size) q, p.reflections[k].parent = some q → q < k

namespace Ordered

variable {p : Project}

theorem get_eq (k : Nat) (hk : k < p.reflections.size) : p.get k = some p.reflections[k] := by
  simp [get, hk]

/-- The parent links from a reflection reach a root in at most as many steps as its id. -/
theorem reachesRoot (hp : p.Ordered) : ∀ k < p.reflections.size, ∃ n ≤ k, p.ReachesRoot k n := by
  intro k
  induction k using Nat.strong_induction_on with
  | _ k ih =>
      intro hk
      cases hq : p.reflections[k].parent with
      | none => exact ⟨0, Nat.zero_le k, .root (get_eq k hk) hq⟩
      | some q =>
          have hqk := hp.parent_lt k hk q hq
          obtain ⟨n, hn, hreach⟩ := ih q hqk (by omega)
          exact ⟨n + 1, by omega, .up (get_eq k hk) hq hreach⟩

theorem mem_toList_iff (hp : p.Ordered) {r : Reflection} :
    r ∈ p.reflections.toList ↔ ∃ hk : r.id < p.reflections.size, p.reflections[r.id] = r := by
  rw [Array.mem_toList_iff, Array.mem_iff_getElem]
  constructor
  · rintro ⟨k, hk, rfl⟩
    rw [hp.id_eq k hk]
    exact ⟨hk, rfl⟩
  · rintro ⟨hk, hr⟩
    exact ⟨r.id, hk, hr⟩

/-- The ids of the reflections, in order, strictly increase. -/
theorem pairwise_ids (hp : p.Ordered) : p.reflections.toList.Pairwise (·.id < ·.id) := by
  rw [List.pairwise_iff_getElem]
  intro i j hi hj hij
  simp only [Array.getElem_toList]
  rw [hp.id_eq i (by simpa using hi), hp.id_eq j (by simpa using hj)]
  exact hij

/-- The ids of the reflections a test keeps are the positions whose reflection passes it. -/
theorem mem_ids_filter (hp : p.Ordered) {f : Reflection → Bool} {k : Nat} :
    k ∈ (p.reflections.toList.filter f).map (·.id) ↔
      ∃ hk : k < p.reflections.size, f p.reflections[k] = true := by
  simp only [List.mem_map, List.mem_filter]
  constructor
  · rintro ⟨r, ⟨hr, hf⟩, rfl⟩
    obtain ⟨hk, hrk⟩ := hp.mem_toList_iff.mp hr
    exact ⟨hk, by rw [hrk, hf]⟩
  · rintro ⟨hk, hf⟩
    exact ⟨p.reflections[k], ⟨by simp, hf⟩, hp.id_eq k hk⟩

theorem mem_children (hp : p.Ordered) {j k : Nat} :
    k ∈ p.children j ↔ ∃ hk : k < p.reflections.size, p.reflections[k].parent = some j := by
  simpa [children] using hp.mem_ids_filter (f := (·.parent == some j)) (k := k)

theorem mem_roots (hp : p.Ordered) {k : Nat} :
    k ∈ p.roots ↔ ∃ hk : k < p.reflections.size, p.reflections[k].parent = none := by
  simpa [roots] using hp.mem_ids_filter (f := (·.parent.isNone)) (k := k)

theorem pairwise_children (hp : p.Ordered) (j : Nat) : (p.children j).Pairwise (· < ·) :=
  List.pairwise_map.mpr (hp.pairwise_ids.filter _)

theorem pairwise_roots (hp : p.Ordered) : p.roots.Pairwise (· < ·) :=
  List.pairwise_map.mpr (hp.pairwise_ids.filter _)

theorem lt_of_mem_children (hp : p.Ordered) {j k : Nat} (h : k ∈ p.children j) : j < k := by
  obtain ⟨hk, hparent⟩ := hp.mem_children.mp h
  exact hp.parent_lt k hk j hparent

/-- A position past the last reflection has no children. -/
theorem children_eq_nil (hp : p.Ordered) {j : Nat} (hj : p.reflections.size ≤ j) :
    p.children j = [] := by
  refine List.eq_nil_iff_forall_not_mem.mpr fun k hmem => ?_
  have hjk := hp.lt_of_mem_children hmem
  obtain ⟨hk, -⟩ := hp.mem_children.mp hmem
  omega

/-- The roots, then the children of every reflection, list every reflection exactly once. -/
theorem roots_append_children_perm (hp : p.Ordered) :
    (p.roots ++ (List.range p.reflections.size).flatMap p.children).Perm
      (List.range p.reflections.size) := by
  have hnodup : (p.roots ++ (List.range p.reflections.size).flatMap p.children).Nodup := by
    refine List.nodup_append.mpr ⟨hp.pairwise_roots.imp Nat.ne_of_lt, ?_, ?_⟩
    · refine List.nodup_flatMap.mpr ⟨fun j _ => (hp.pairwise_children j).imp Nat.ne_of_lt, ?_⟩
      refine List.pairwise_lt_range.imp fun {j j'} hjj' => ?_
      intro k hk hk'
      obtain ⟨_, hparent⟩ := hp.mem_children.mp hk
      obtain ⟨_, hparent'⟩ := hp.mem_children.mp hk'
      rw [hparent, Option.some.injEq] at hparent'
      omega
    · intro k hroot k' hchild
      obtain ⟨_, hparent⟩ := hp.mem_roots.mp hroot
      obtain ⟨j, -, hmem⟩ := List.mem_flatMap.mp hchild
      obtain ⟨_, hparent'⟩ := hp.mem_children.mp hmem
      rintro rfl
      rw [hparent] at hparent'
      cases hparent'
  refine (List.perm_ext_iff_of_nodup hnodup List.nodup_range).mpr fun k => ?_
  simp only [List.mem_append, List.mem_flatMap, List.mem_range, hp.mem_roots, hp.mem_children]
  constructor
  · rintro (⟨hk, -⟩ | ⟨j, -, hk, -⟩) <;> exact hk
  · intro hk
    cases hq : p.reflections[k].parent with
    | none => exact .inl ⟨hk, hq⟩
    | some q => exact .inr ⟨q, by have := hp.parent_lt k hk q hq; omega, hk, hq⟩

end Ordered

end Project

theorem getElem?_convertedReflections (ds : List Declaration) (k : Nat) :
    (convertedReflections ds)[k]? =
      ds[k]?.map fun d => d.reflection k fun s => (registrant (ds.take k) s).map linkTo := by
  simp [convertedReflections, List.getElem?_zipIdx, Function.comp_def]

namespace Dump

variable {dump : Dump} {b : Builder}

theorem size_of_convert (h : dump.convert.result = .ok b) :
    b.finish.reflections.size = dump.declarations.length := by
  have hlen := congrArg List.length (reflections_of_convert h)
  simpa [convertedReflections, Builder.finish] using hlen

/-- Reflection `k` of a converted dump is the one conversion makes of declaration `k`. -/
theorem getElem_of_convert (h : dump.convert.result = .ok b) (k : Nat)
    (hk : k < b.finish.reflections.size) (hd : k < dump.declarations.length) :
    b.finish.reflections[k] = dump.declarations[k].reflection k
      fun s => (registrant (dump.declarations.take k) s).map linkTo := by
  have hget := congrArg (·[k]?) (reflections_of_convert h)
  simp only [Array.getElem?_toList, getElem?_convertedReflections] at hget
  have hk' : k < b.reflections.size := hk
  change b.reflections[k] = _
  rw [Array.getElem?_eq_getElem hk', List.getElem?_eq_getElem hd, Option.map_some,
    Option.some.injEq] at hget
  exact hget

/-- A converted dump makes an ordered project: ids are positions and parents come first. -/
theorem ordered_of_convert (h : dump.convert.result = .ok b) : b.finish.Ordered where
  id_eq k hk := by
    rw [getElem_of_convert h k hk (size_of_convert h ▸ hk)]
    rfl
  parent_lt k hk q hq := by
    have hd : k < dump.declarations.length := size_of_convert h ▸ hk
    rw [getElem_of_convert h k hk hd] at hq
    exact (Declaration.parent_lt_of_not_refused (not_refused_of_convert h k hd)).2 q hq

end Dump

/-- In the project of a converted dump, reflection `k` has id `k`, is found under it, and has
its declaration's parent, which comes before it. So the parent links form a forest, reaching a
root from reflection `k` in at most `k` steps. The roots and the children of every reflection
list every reflection exactly once, a reflection being a root or a child of its parent only;
each list of children is in increasing order of id, all ids above the parent's, and a position
past the last reflection has no children. -/
theorem converted_parents_form_forest {dump : Dump} {b : Builder}
    (h : dump.convert.result = .ok b) :
    b.finish.reflections.size = dump.declarations.length ∧
    (∀ k (hk : k < b.finish.reflections.size) (hd : k < dump.declarations.length),
      b.finish.reflections[k].id = k ∧ b.finish.get k = some b.finish.reflections[k] ∧
      b.finish.reflections[k].parent = dump.declarations[k].parent ∧
      ∀ q, b.finish.reflections[k].parent = some q → q < k) ∧
    (∀ k < b.finish.reflections.size, ∃ n ≤ k, b.finish.ReachesRoot k n) ∧
    (b.finish.roots ++ (List.range b.finish.reflections.size).flatMap b.finish.children).Perm
      (List.range b.finish.reflections.size) ∧
    (∀ k, k ∈ b.finish.roots ↔
      ∃ hk : k < b.finish.reflections.size, b.finish.reflections[k].parent = none) ∧
    (∀ j k, k ∈ b.finish.children j ↔
      ∃ hk : k < b.finish.reflections.size, b.finish.reflections[k].parent = some j) ∧
    (∀ j, (b.finish.children j).Pairwise (· < ·) ∧ ∀ k ∈ b.finish.children j, j < k) ∧
    ∀ j, b.finish.reflections.size ≤ j → b.finish.children j = [] := by
  have hp := Dump.ordered_of_convert h
  refine ⟨Dump.size_of_convert h, fun k hk hd => ⟨hp.id_eq k hk, Project.Ordered.get_eq k hk, ?_,
    hp.parent_lt k hk⟩, hp.reachesRoot, hp.roots_append_children_perm, fun k => hp.mem_roots,
    fun j k => hp.mem_children, fun j => ⟨hp.pairwise_children j, fun k => hp.lt_of_mem_children⟩,
    fun j => hp.children_eq_nil⟩
  rw [Dump.getElem_of_convert h k hk hd]
  rfl

theorem family_parents_form_forest :
    ∃ b, familyDump.convert.result = .ok b ∧ b.finish.reflections.size = 4 ∧
      ∀ k < b.finish.reflections.size, ∃ n ≤ k, b.finish.ReachesRoot k n := by
  obtain ⟨b, hb⟩ : ∃ b, familyDump.convert.result = .ok b := ⟨_, rfl⟩
  have hforest := converted_parents_form_forest hb
  exact ⟨b, hb, hforest.1, hforest.2.2.1⟩

end DocLinks
