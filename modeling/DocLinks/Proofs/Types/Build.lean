import DocLinks.Project
import DocLinks.Proofs.Types.Walk
import Mathlib.Data.List.Forall2

/-! Building an expression from a record. The references of the built expression are the record's
reference records, met in the same order and one for one: a reference record, then those of its
type arguments, then those of union members and tuple elements in order, where missing type
arguments and an empty list of them add nothing. Each built reference has its record's name,
symbol id and number of type arguments, and holds what the lookup answers for its symbol id,
sentinel ids included; with nothing to look up, nothing is bound. The same walk finds the
reference names conversion refuses: a record has a reference with an empty name exactly when one
of its reference records has an empty name. -/

namespace DocLinks

namespace TypeRecord

mutual
/-- The reference records of a record, at any depth, in pre-order: a reference record, then
those of its type arguments, then those of union members and tuple elements in order. -/
def referenceNodes : TypeRecord → List TypeRecord
  | .intrinsic _ _ => []
  | .reference a n s none target => [.reference a n s none target]
  | .reference a n s (some xs) target => .reference a n s (some xs) target :: referenceNodesAll xs
  | .union _ ms => referenceNodesAll ms
  | .tuple _ es => referenceNodesAll es
  | .unknown _ _ => []

/-- The reference records of records, one after the other. -/
def referenceNodesAll : List TypeRecord → List TypeRecord
  | [] => []
  | r :: rs => referenceNodes r ++ referenceNodesAll rs
end

mutual
/-- A record has a reference with an empty name exactly when one of its reference records has an
empty name. -/
theorem hasEmptyReferenceName_iff :
    ∀ o : TypeRecord, o.hasEmptyReferenceName = true ↔
      ∃ a s args t, TypeRecord.reference a "" s args t ∈ o.referenceNodes
  | .intrinsic _ _ => by simp [hasEmptyReferenceName, referenceNodes]
  | .unknown _ _ => by simp [hasEmptyReferenceName, referenceNodes]
  | .reference a n s none t => by
      by_cases hn : n = "" <;> simp [hasEmptyReferenceName, referenceNodes, hn]
  | .reference a n s (some xs) t => by
      have hxs := anyEmptyReferenceName_iff xs
      by_cases hn : n = ""
      · subst hn
        have hempty : (TypeRecord.reference a "" s (some xs) t).hasEmptyReferenceName = true := by
          simp [hasEmptyReferenceName]
        exact iff_of_true hempty ⟨a, s, some xs, t, by simp [referenceNodes]⟩
      · simp [hasEmptyReferenceName, referenceNodes, hn, hxs]
  | .union _ ms => by
      rw [hasEmptyReferenceName, referenceNodes]
      exact anyEmptyReferenceName_iff ms
  | .tuple _ es => by
      rw [hasEmptyReferenceName, referenceNodes]
      exact anyEmptyReferenceName_iff es

theorem anyEmptyReferenceName_iff :
    ∀ os : List TypeRecord, anyEmptyReferenceName os = true ↔
      ∃ a s args t, TypeRecord.reference a "" s args t ∈ referenceNodesAll os
  | [] => by simp [anyEmptyReferenceName, referenceNodesAll]
  | o :: os => by
      rw [anyEmptyReferenceName, referenceNodesAll, Bool.or_eq_true, hasEmptyReferenceName_iff o,
        anyEmptyReferenceName_iff os]
      simp only [List.mem_append]
      constructor
      · rintro (⟨a, s, args, t, h⟩ | ⟨a, s, args, t, h⟩)
        · exact ⟨a, s, args, t, .inl h⟩
        · exact ⟨a, s, args, t, .inr h⟩
      · rintro ⟨a, s, args, t, h | h⟩
        · exact .inl ⟨a, s, args, t, h⟩
        · exact .inr ⟨a, s, args, t, h⟩
end

end TypeRecord

/-- A reference mirrors a reference record when it has the record's name, symbol id and number
of type arguments, and its slot holds what `known` answers for that symbol id. -/
def Reference.Mirrors (known : Int → Option Link) (r : Reference) : TypeRecord → Prop
  | .reference _ n s args _ =>
    r.name = n ∧ r.symbol = s ∧ r.arguments.length = (args.getD []).length ∧ r.slot = known s
  | _ => False

namespace TypeExpr

theorem length_ofRecordAllWith (known : Int → Option Link) (os : List TypeRecord) :
    (ofRecordAllWith known os).length = os.length := by
  induction os with
  | nil => rfl
  | cons o os ih => rw [ofRecordAllWith, List.length_cons, ih, List.length_cons]

mutual
/-- The references of an expression built from a record mirror the record's reference records,
one for one and in order. -/
theorem forall₂_references_ofRecordWith (known : Int → Option Link) :
    ∀ o : TypeRecord,
      List.Forall₂ (Reference.Mirrors known) (ofRecordWith known o).references o.referenceNodes
  | .intrinsic _ _ => .nil
  | .unknown _ _ => .nil
  | .reference _ _ _ none _ => by
      rw [ofRecordWith, references, TypeRecord.referenceNodes]
      exact .cons ⟨rfl, rfl, rfl, rfl⟩ .nil
  | .reference _ _ _ (some xs) _ => by
      rw [ofRecordWith, references, TypeRecord.referenceNodes]
      exact .cons ⟨rfl, rfl, length_ofRecordAllWith known xs, rfl⟩
        (forall₂_referencesAll_ofRecordAllWith known xs)
  | .union _ ms => by
      rw [ofRecordWith, references, TypeRecord.referenceNodes]
      exact forall₂_referencesAll_ofRecordAllWith known ms
  | .tuple _ es => by
      rw [ofRecordWith, references, TypeRecord.referenceNodes]
      exact forall₂_referencesAll_ofRecordAllWith known es

theorem forall₂_referencesAll_ofRecordAllWith (known : Int → Option Link) :
    ∀ os : List TypeRecord, List.Forall₂ (Reference.Mirrors known)
      (referencesAll (ofRecordAllWith known os)) (TypeRecord.referenceNodesAll os)
  | [] => by
      rw [ofRecordAllWith, referencesAll, TypeRecord.referenceNodesAll]
      exact .nil
  | o :: os => by
      rw [ofRecordAllWith, referencesAll, TypeRecord.referenceNodesAll]
      exact List.rel_append (forall₂_references_ofRecordWith known o)
        (forall₂_referencesAll_ofRecordAllWith known os)
end

/-- Building an expression from a record with a lookup, its references mirror the record's
reference records one for one and in order: each has its record's name, symbol id and number of
type arguments, and holds exactly what the lookup answers for its symbol id, so it is bound
exactly when the lookup answers something. Building with nothing to look up binds no reference.
The references of a project are those of its reflections in order, the declared type of each
first and then the types it extends in order. -/
theorem references_mirror_reference_records (known : Int → Option Link) (o : TypeRecord) :
    List.Forall₂ (Reference.Mirrors known) (ofRecordWith known o).references o.referenceNodes ∧
    (∀ r ∈ (ofRecord o).references, r.slot = none) ∧
    ∀ p : Project, p.references =
      p.reflections.toList.flatMap fun r => (r.type.toList ++ r.extended).flatMap references := by
  refine ⟨forall₂_references_ofRecordWith known o, fun r hr => ?_, fun p => ?_⟩
  · exact slot_of_mem_references_ofRecordWith (fun _ => none) o r hr
  · simp only [Project.references, Reflection.references, Reflection.types, referencesAll_eq_flatMap]

/-- `Map<string, Foo[]>` written with a sentinel id, built with a lookup that knows only `Foo`. -/
def mapOfFoo : TypeRecord :=
  .reference false "Map" (-1)
    (some [.intrinsic false "string", .reference true "Foo" 7 (some []) none]) none

theorem map_of_foo_references_mirror_records :
    (ofRecord mapOfFoo).references.length = 2 ∧
    List.Forall₂ (Reference.Mirrors fun s => if s = 7 then some ⟨1, 1⟩ else none)
      (ofRecordWith (fun s => if s = 7 then some ⟨1, 1⟩ else none) mapOfFoo).references
      mapOfFoo.referenceNodes ∧
    (∀ r ∈ (ofRecord mapOfFoo).references, r.slot = none) ∧
    ∀ p : Project, p.references =
      p.reflections.toList.flatMap fun r => (r.type.toList ++ r.extended).flatMap references :=
  ⟨rfl, references_mirror_reference_records (fun s => if s = 7 then some ⟨1, 1⟩ else none) mapOfFoo⟩

end TypeExpr

end DocLinks
