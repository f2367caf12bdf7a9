import DocLinks.Proofs.Types.Walk

/-! Records and expressions round trip. Building an expression from a record and writing it back
gives the record's normal form: every `target` is gone, and `typeArguments` stays, normalised in
turn, only where the extras ask for type arguments and the list has some; an absent list and an
empty one are written alike. Writing an expression with type arguments and without targets and
building it back gives the expression with its slots emptied, which is the expression itself when
no slot was written. Without targets, the records an expression is written to are normal, so
reading one back and writing it again leaves it as it was. -/

namespace DocLinks

namespace TypeRecord

mutual
/-- The normal form of a record written with type arguments iff `keep` holds: no target, and
type arguments only when there are some, in normal form. -/
def normalize (keep : Bool) : TypeRecord → TypeRecord
  | .intrinsic a n => .intrinsic a n
  | .reference a n s none _ => .reference a n s none none
  | .reference a n s (some xs) _ =>
    .reference a n s (if keep && !xs.isEmpty then some (normalizeAll keep xs) else none) none
  | .union a ms => .union a (normalizeAll keep ms)
  | .tuple a es => .tuple a (normalizeAll keep es)
  | .unknown a n => .unknown a n

/-- The normal forms of records. -/
def normalizeAll (keep : Bool) : List TypeRecord → List TypeRecord
  | [] => []
  | r :: rs => normalize keep r :: normalizeAll keep rs
end

end TypeRecord

namespace TypeExpr

theorem isEmpty_ofRecordAllWith (known : Int → Option Link) (os : List TypeRecord) :
    (ofRecordAllWith known os).isEmpty = os.isEmpty := by
  cases os <;> rfl

theorem isEmpty_toRecordAll (opts : RecordOptions) (live : Targets) (ts : List TypeExpr) :
    (toRecordAll opts live ts).isEmpty = ts.isEmpty := by
  cases ts <;> rfl

/-- An unbound reference writes no target, whatever the extras. -/
theorem toRecord_reference_unbound (opts : RecordOptions) (live : Targets) (a : Bool) (n : String)
    (s : Int) (args : List TypeExpr) :
    (reference a n s args none).toRecord opts live =
      .reference a n s (if opts.typeArguments && !args.isEmpty then some (toRecordAll opts live args)
        else none) none := by
  cases opts.targets <;> simp [toRecord, Reference.target]

mutual
theorem toRecord_ofRecord (opts : RecordOptions) (live : Targets) :
    ∀ o : TypeRecord, (ofRecordWith (fun _ => none) o).toRecord opts live =
      o.normalize opts.typeArguments
  | .intrinsic _ _ => by rw [ofRecordWith, toRecord, TypeRecord.normalize]
  | .unknown _ _ => by rw [ofRecordWith, toRecord, TypeRecord.normalize]
  | .reference a n s none _ => by
      rw [ofRecordWith, toRecord_reference_unbound, TypeRecord.normalize]
      simp
  | .reference a n s (some xs) _ => by
      rw [ofRecordWith, toRecord_reference_unbound, TypeRecord.normalize,
        isEmpty_ofRecordAllWith, toRecordAll_ofRecordAll opts live xs]
  | .union _ ms => by
      rw [ofRecordWith, toRecord, TypeRecord.normalize, toRecordAll_ofRecordAll opts live ms]
  | .tuple _ es => by
      rw [ofRecordWith, toRecord, TypeRecord.normalize, toRecordAll_ofRecordAll opts live es]

theorem toRecordAll_ofRecordAll (opts : RecordOptions) (live : Targets) :
    ∀ os : List TypeRecord, toRecordAll opts live (ofRecordAllWith (fun _ => none) os) =
      TypeRecord.normalizeAll opts.typeArguments os
  | [] => rfl
  | o :: os => by
      rw [ofRecordAllWith, toRecordAll, TypeRecord.normalizeAll, toRecord_ofRecord opts live o,
        toRecordAll_ofRecordAll opts live os]
end

mutual
theorem ofRecord_toRecord (live : Targets) :
    ∀ t : TypeExpr, ofRecordWith (fun _ => none) (t.toRecord { typeArguments := true } live) =
      t.mapSlots fun _ => none
  | .intrinsic _ _ => by rw [toRecord, ofRecordWith, mapSlots]
  | .unknown _ _ => by rw [toRecord, ofRecordWith, mapSlots]
  | .reference a n s [] slot => by simp [toRecord, ofRecordWith, mapSlots, mapSlotsAll]
  | .reference a n s (t :: ts) slot => by
      simp [toRecord, ofRecordWith, mapSlots, ofRecordAll_toRecordAll live (t :: ts)]
  | .union _ ms => by rw [toRecord, ofRecordWith, ofRecordAll_toRecordAll live ms, mapSlots]
  | .tuple _ es => by rw [toRecord, ofRecordWith, ofRecordAll_toRecordAll live es, mapSlots]

theorem ofRecordAll_toRecordAll (live : Targets) :
    ∀ ts : List TypeExpr, ofRecordAllWith (fun _ => none) (toRecordAll { typeArguments := true } live ts) =
      mapSlotsAll (fun _ => none) ts
  | [] => rfl
  | t :: ts => by
      rw [toRecordAll, ofRecordAllWith, ofRecord_toRecord live t, ofRecordAll_toRecordAll live ts,
        mapSlotsAll]
end

mutual
/-- Without targets, a written record is in normal form. -/
theorem normalize_toRecord {opts : RecordOptions} (live : Targets) (hopts : opts.targets = false) :
    ∀ t : TypeExpr, (t.toRecord opts live).normalize opts.typeArguments = t.toRecord opts live
  | .intrinsic _ _ => by rw [toRecord, TypeRecord.normalize]
  | .unknown _ _ => by rw [toRecord, TypeRecord.normalize]
  | .reference a n s args slot => by
      by_cases hkeep : (opts.typeArguments && !args.isEmpty) = true
      · have hnorm := normalizeAll_toRecordAll live hopts args
        simp only [toRecord, hkeep, hopts, if_true, TypeRecord.normalize, isEmpty_toRecordAll, hnorm]
        simp
      · simp only [toRecord, hkeep, hopts, TypeRecord.normalize]
        simp
  | .union _ ms => by
      rw [toRecord, TypeRecord.normalize, normalizeAll_toRecordAll live hopts ms]
  | .tuple _ es => by
      rw [toRecord, TypeRecord.normalize, normalizeAll_toRecordAll live hopts es]

theorem normalizeAll_toRecordAll {opts : RecordOptions} (live : Targets) (hopts : opts.targets = false) :
    ∀ ts : List TypeExpr, TypeRecord.normalizeAll opts.typeArguments (toRecordAll opts live ts) =
      toRecordAll opts live ts
  | [] => rfl
  | t :: ts => by
      rw [toRecordAll, TypeRecord.normalizeAll, normalize_toRecord live hopts t,
        normalizeAll_toRecordAll live hopts ts]
end

/-- An expression whose slots are all empty is its own cleared form. -/
theorem clearSlots_eq_self {t : TypeExpr} (hslots : ∀ r ∈ t.references, r.slot = none) :
    t.clearSlots = t :=
  mapSlots_eq_self t fun r hr => (hslots r hr).symm

/-- Building an expression from a record and writing it back gives the record's normal form;
writing an expression with type arguments and building it back gives the expression with its
slots emptied, which is the expression itself when no slot was written; and without targets,
reading back a written record and writing it again changes nothing. -/
theorem record_round_trip_normal_form :
    (∀ (o : TypeRecord) (opts : RecordOptions) (live : Targets),
      (ofRecord o).toRecord opts live = o.normalize opts.typeArguments) ∧
    (∀ (t : TypeExpr) (live : Targets),
      ofRecord (t.toRecord { typeArguments := true, targets := false } live) = t.clearSlots) ∧
    (∀ t : TypeExpr, (∀ r ∈ t.references, r.slot = none) → t.clearSlots = t) ∧
    (∀ (opts : RecordOptions) (t : TypeExpr) (live live' : Targets), opts.targets = false →
      (ofRecord (t.toRecord opts live)).toRecord opts live' = t.toRecord opts live) := by
  refine ⟨fun o opts live => toRecord_ofRecord opts live o, fun t live => ofRecord_toRecord live t,
    fun t hslots => clearSlots_eq_self hslots, ?_⟩
  intro opts t live live' hopts
  rw [ofRecord, toRecord_ofRecord, normalize_toRecord live hopts]

end TypeExpr

end DocLinks
