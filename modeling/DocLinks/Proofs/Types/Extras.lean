import DocLinks.Types.Record

/-! Record extras only add keys. A record written with some extras is the record written with all
of them, less the entries of the extras left off, at every depth: `typeArguments` when type
arguments are off and `target` when targets are off. The default record, written with neither,
is what remains of any of the four when both keys are taken out, so the entries every record has
(`isArray`, `type`, `name`, `symbolID`, and the members of unions and tuples) are the same
whatever the extras. -/

namespace DocLinks

namespace Json

mutual
/-- The value with every object entry whose key `drop` names taken out, at every depth. -/
def without (drop : String → Bool) : Json → Json
  | .arr items => .arr (withoutItems drop items)
  | .obj fields => .obj (withoutFields drop fields)
  | v => v

/-- Array elements with the entries `drop` names taken out. -/
def withoutItems (drop : String → Bool) : List Json → List Json
  | [] => []
  | v :: vs => without drop v :: withoutItems drop vs

/-- Object entries less those whose key `drop` names, the others with such entries taken out. -/
def withoutFields (drop : String → Bool) : List (String × Json) → List (String × Json)
  | [] => []
  | (k, v) :: rest =>
    if drop k then withoutFields drop rest else (k, without drop v) :: withoutFields drop rest
end

end Json

namespace RecordOptions

/-- Whether records written with `opts` leave out the entries with key `k`: `typeArguments` when
type arguments are off, and `target` when targets are off. -/
def omits (opts : RecordOptions) (k : String) : Bool :=
  (k == "typeArguments" && !opts.typeArguments) || (k == "target" && !opts.targets)

end RecordOptions

namespace TypeRecord

mutual
/-- The record less the extras `opts` leaves off, at every depth: its type arguments when type
arguments are off, and its target when targets are off. -/
def restrict (opts : RecordOptions) : TypeRecord → TypeRecord
  | .intrinsic a n => .intrinsic a n
  | .unknown a n => .unknown a n
  | .reference a n s args target =>
    let arguments := match args with
      | some xs => if opts.typeArguments then some (restrictAll opts xs) else none
      | none => none
    .reference a n s arguments (if opts.targets then target else none)
  | .union a ms => .union a (restrictAll opts ms)
  | .tuple a es => .tuple a (restrictAll opts es)

/-- Records less the extras `opts` leaves off. -/
def restrictAll (opts : RecordOptions) : List TypeRecord → List TypeRecord
  | [] => []
  | r :: rs => restrict opts r :: restrictAll opts rs
end

mutual
/-- Taking the left-off extras out of a record and writing it is writing it and taking out the
entries of their keys. -/
theorem toJson_restrict (opts : RecordOptions) :
    ∀ o : TypeRecord, (o.restrict opts).toJson = o.toJson.without opts.omits
  | .intrinsic _ _ => by simp [restrict, toJson, Json.without, Json.withoutFields, RecordOptions.omits]
  | .unknown _ _ => by simp [restrict, toJson, Json.without, Json.withoutFields, RecordOptions.omits]
  | .reference a n s none target => by
      cases target <;> cases ht : opts.targets <;>
        simp [restrict, toJson, Json.without, Json.withoutFields, RecordOptions.omits, ht]
  | .reference a n s (some xs) target => by
      have hxs := toJsonAll_restrictAll opts xs
      cases target <;> cases ha : opts.typeArguments <;> cases ht : opts.targets <;>
        simp [restrict, toJson, Json.without, Json.withoutFields, RecordOptions.omits, ha, ht, hxs]
  | .union _ ms => by
      simp [restrict, toJson, Json.without, Json.withoutFields, RecordOptions.omits,
        toJsonAll_restrictAll opts ms]
  | .tuple _ es => by
      simp [restrict, toJson, Json.without, Json.withoutFields, RecordOptions.omits,
        toJsonAll_restrictAll opts es]

theorem toJsonAll_restrictAll (opts : RecordOptions) :
    ∀ os : List TypeRecord, toJsonAll (restrictAll opts os) = Json.withoutItems opts.omits (toJsonAll os)
  | [] => rfl
  | o :: os => by
      rw [restrictAll, toJsonAll, toJsonAll, Json.withoutItems, toJson_restrict opts o,
        toJsonAll_restrictAll opts os]
end

end TypeRecord

namespace TypeExpr

mutual
/-- A record written with more extras, less those `opts` leaves off, is the record written with
`opts`. -/
theorem restrict_toRecord {opts opts' : RecordOptions} (live : Targets)
    (ha : opts.typeArguments = true → opts'.typeArguments = true)
    (ht : opts.targets = true → opts'.targets = true) :
    ∀ t : TypeExpr, (t.toRecord opts' live).restrict opts = t.toRecord opts live
  | .intrinsic _ _ => by rw [toRecord, TypeRecord.restrict, toRecord]
  | .unknown _ _ => by rw [toRecord, TypeRecord.restrict, toRecord]
  | .reference a n s args slot => by
      cases hta : opts.typeArguments
      · cases hta' : opts'.typeArguments <;> cases htt : opts.targets <;> cases args <;>
          simp [toRecord, TypeRecord.restrict, hta, hta', htt, ht]
      · have hta' := ha hta
        have hall := restrictAll_toRecordAll live ha ht args
        cases htt : opts.targets <;> cases args <;>
          simp [toRecord, TypeRecord.restrict, hta, hta', htt, ht, hall]
  | .union _ ms => by
      rw [toRecord, TypeRecord.restrict, restrictAll_toRecordAll live ha ht ms, toRecord]
  | .tuple _ es => by
      rw [toRecord, TypeRecord.restrict, restrictAll_toRecordAll live ha ht es, toRecord]

theorem restrictAll_toRecordAll {opts opts' : RecordOptions} (live : Targets)
    (ha : opts.typeArguments = true → opts'.typeArguments = true)
    (ht : opts.targets = true → opts'.targets = true) :
    ∀ ts : List TypeExpr, TypeRecord.restrictAll opts (toRecordAll opts' live ts) = toRecordAll opts live ts
  | [] => rfl
  | t :: ts => by
      rw [toRecordAll, TypeRecord.restrictAll, restrict_toRecord live ha ht t,
        restrictAll_toRecordAll live ha ht ts, toRecordAll]
end

/-- Turning extras on only adds keys: the record written with any extras is the record written
with both, less every `typeArguments` entry when type arguments are off and every `target` entry
when targets are off, at every depth; and taking both keys out of the record written with any
extras leaves the default record, so the entries every record has agree across the four. -/
theorem record_extras_only_add_keys :
    (∀ (opts : RecordOptions) (live : Targets) (t : TypeExpr),
      (t.toRecord opts live).toJson = (t.toRecord RecordOptions.all live).toJson.without opts.omits) ∧
    (∀ (opts : RecordOptions) (live : Targets) (t : TypeExpr),
      (t.toRecord opts live).toJson.without ({} : RecordOptions).omits = (t.toRecord {} live).toJson) := by
  refine ⟨fun opts live t => ?_, fun opts live t => ?_⟩
  · have hall : (t.toRecord RecordOptions.all live).restrict opts = t.toRecord opts live :=
      restrict_toRecord live (fun _ => rfl) (fun _ => rfl) t
    rw [← hall, TypeRecord.toJson_restrict]
  · have hcore : (t.toRecord opts live).restrict {} = t.toRecord {} live :=
      restrict_toRecord live (by simp) (by simp) t
    rw [← hcore, TypeRecord.toJson_restrict]

end TypeExpr

end DocLinks
