import ApiReference.Proofs.Document.Faults

/-!
# Which documents are accepted

A reader accepts an object exactly if its entry has no faults, and then gives the entity that the
object describes. Here the faults are related to defects: an entry has no faults, wherever it is
found, exactly if it is sound (`Entry.faults_eq_nil_iff`). So being accepted depends on neither the
path nor the order in which the reader asks.

Two descriptions of one thing are compared. Faults are listed by the walk through sites, which has
the paths and the order in which a reader goes. Soundness is said by the walk through entries, which
has neither, and by three tables. A reader of the theorem needs the second only: it says which
fields of which kinds of objects have to be there, and which may be anything.

A type is refused at every path or at none, and this is what lets the two walks be compared; the
defects of a type carry the path at which they were found, but whether there are any does not depend
on it.

## What is here

* `refusedAsType_iff`: the objects that are refused as types are those with defects.
* `Entry.faults_eq_nil_iff`: the entries without faults are the sound ones, by induction along the
  walk through the entries.
* `Document.read_succeeds_iff`: a document is accepted exactly if it is an object of a known stage
  and no entry in it is defective.
-/

set_option autoImplicit false

namespace ApiReference

open Entity Entry Reading

/-! ## Types -/

/-- **An object is refused as a type exactly if it has defects as one**, wherever it stands. -/
theorem refusedAsType_iff {v : Json} (path : Path) :
    RefusedAsType v ↔ v.isObject = true ∧ TypeExpr.defects v path ≠ [] := by
  rcases TypeExpr.settles_read v with ⟨t, -, hread⟩ | hfail
  · have hnone : TypeExpr.defects v path = [] := (hread path).2
    refine ⟨fun ⟨_, hrefused⟩ => ?_, fun ⟨_, hsome⟩ => absurd hnone hsome⟩
    obtain ⟨fault, hfault⟩ := hrefused path
    rw [(hread path).1] at hfault
    cases hfault
  · constructor
    · rintro ⟨hv, -⟩
      obtain ⟨fault, rest, -, hd⟩ := hfail path
      rw [hd]
      exact ⟨hv, List.cons_ne_nil _ _⟩
    · rintro ⟨hv, -⟩
      refine ⟨hv, fun other => ?_⟩
      obtain ⟨fault, rest, hfault, -⟩ := hfail other
      exact ⟨fault, hfault⟩

/-- A type has no faults exactly if the object that spells it is not refused. -/
theorem Site.faults_type_eq_nil_iff (g : Fields) (path : Path) :
    (Site.type g path).faults = [] ↔ ¬ RefusedAsType (.obj g) := by
  rw [faults_type, refusedAsType_iff path, not_and_not_right]
  exact ⟨fun h _ => h, fun h => h rfl⟩

/-! ## Entries

The induction is along the walk through the entries, part by part. A part is a slot with entries in
it, a field with a type, or, as the images of a member are, a slot read at a path of its own. -/

namespace Entry

variable {e : Entry} {path : Path}

/-- An entry has no fault of its own if its required field is there. -/
theorem ownFaults_eq_nil_iff : (Site.entry e path).ownFaults = [] ↔
    ∀ key ∈ e.kind.required?, (e.fields.value key).isNull = false := by
  rw [Site.ownFaults]
  cases e.kind.required? with
  | none => simp
  | some key => simp

/-- The faults of a part are those of the entries and the types in it. -/
theorem partFaults_eq_nil_iff {part : Part} (hpart : part ∈ e.kind.parts)
    (ih : ∀ q ∈ e.below, ∀ p, q.faults p = [] ↔ q.Sound) : part.faults e path = [] ↔
      (∀ slot ∈ part.slot?, ThroughoutIn (fun q => ¬ q.Defective) e.fields slot) ∧
        ∀ key ∈ part.typeKey?, ¬ RefusedAsType (e.fields.value key) := by
  have hentry : ∀ q p, .entry q p ∈ part.sites e path →
      ((Site.entry q p).faults = [] ↔ q.Sound) := by
    intro q p hsite
    obtain ⟨slot, hslot, hq⟩ := Site.mem_inSlot_of_mem_sites hsite
    exact ih q (List.mem_flatMap.2 ⟨slot, Kind.mem_slots hpart hslot, hq⟩) p
  rw [Part.faults, List.flatMap_eq_nil_iff,
    Site.forall_mem_iff hentry Site.faults_type_eq_nil_iff, Part.filterMap_entry_sites,
    Part.filterMap_spelled_sites]
  refine and_congr ?_ ?_
  · cases part.slot? with
    | none => simp
    | some slot => simp [ThroughoutIn, Sound]
  · cases part.typeKey? with
    | none => simp
    | some key =>
      -- nothing but an object is refused
      cases hv : e.fields.value key with
      | obj g => simp [hv, Json.object?]
      | _ => simp [hv, Json.object?, RefusedAsType, Json.isObject]

/-- **An entry has no faults exactly if it is sound**, wherever it is found. -/
theorem faults_eq_nil_iff (e : Entry) (path : Path) : e.faults path = [] ↔ e.Sound := by
  induction e using walk.induction generalizing path with
  | step e ih =>
  have hparts : ∀ part ∈ e.kind.parts, part.faults e path = [] ↔ _ := fun part hpart =>
    partFaults_eq_nil_iff hpart ih
  rw [faults_eq, List.append_eq_nil_iff, ownFaults_eq_nil_iff, List.flatMap_eq_nil_iff,
    sound_iff, Complete, Kind.slots_eq, Kind.typeKeys_eq]
  simp only [List.mem_filterMap, forall_exists_index, and_imp]
  constructor
  · rintro ⟨hrequired, hfaults⟩
    refine ⟨⟨hrequired, fun key part hpart hkey => ?_⟩, fun slot part hpart hslot => ?_⟩
    · exact ((hparts part hpart).1 (hfaults part hpart)).2 key hkey
    · exact ((hparts part hpart).1 (hfaults part hpart)).1 slot hslot
  · rintro ⟨⟨hrequired, htypes⟩, hslots⟩
    refine ⟨hrequired, fun part hpart => (hparts part hpart).2 ⟨?_, ?_⟩⟩
    · exact fun slot hslot => hslots slot part hpart hslot
    · exact fun key hkey => htypes key part hpart hkey

end Entry

/-! ## Documents -/

namespace Document

variable {debug : Bool}

/-- What is read of a document. -/
theorem read_outcome_eq_ok_iff {d : Json} {doc : Document} :
    (read debug d).outcome = .ok doc ↔ ∃ fields : Fields, d = .obj fields ∧
      (fields.value "stage" = .str RuntimeApi.stage ∧ (Entry.mk .runtimeApi fields).Sound ∧
          doc = .runtime (.ofFields fields) ∨
        fields.value "stage" = .str PrototypeApi.stage ∧ (Entry.mk .prototypeApi fields).Sound ∧
          doc = .prototype (.ofFields fields)) := by
  cases d with
  | obj fields =>
    simp only [Json.obj.injEq, exists_eq_left']
    by_cases hr : Fields.value fields "stage" = .str RuntimeApi.stage
    · rw [(read_runtime_reports hr).outcome_eq_ok_iff, faults_eq_nil_iff, hr]
      simp [RuntimeApi.stage, PrototypeApi.stage]
    · by_cases hp : Fields.value fields "stage" = .str PrototypeApi.stage
      · rw [(read_prototype_reports hp).outcome_eq_ok_iff, faults_eq_nil_iff, hp]
        simp [RuntimeApi.stage, PrototypeApi.stage]
      · rw [read_unknown_stage hr hp]
        simp [hr, hp]
  | _ => simp [read]

/-- **A document is accepted exactly if it is an object of a known stage in which no entry is
defective.** The entries are those that the walk from the document goes through; every other value
in the document, and every field that the tables of its kind do not mention, may be anything. -/
theorem read_succeeds_iff (debug : Bool) (d : Json) :
    (∃ doc, (read debug d).outcome = .ok doc) ↔ ∃ fields : Fields, d = .obj fields ∧
      (fields.value "stage" = .str "runtime" ∧
          (∀ q ∈ Entry.walk.nodes ⟨.runtimeApi, fields⟩, ¬ q.Defective) ∨
        fields.value "stage" = .str "prototype" ∧
          ∀ q ∈ Entry.walk.nodes ⟨.prototypeApi, fields⟩, ¬ q.Defective) := by
  simp only [read_outcome_eq_ok_iff]
  constructor
  · rintro ⟨doc, fields, rfl, ⟨hs, hsound, -⟩ | ⟨hs, hsound, -⟩⟩
    · exact ⟨fields, rfl, Or.inl ⟨hs, hsound⟩⟩
    · exact ⟨fields, rfl, Or.inr ⟨hs, hsound⟩⟩
  · rintro ⟨fields, rfl, ⟨hs, hsound⟩ | ⟨hs, hsound⟩⟩
    · exact ⟨_, fields, rfl, Or.inl ⟨hs, hsound, rfl⟩⟩
    · exact ⟨_, fields, rfl, Or.inr ⟨hs, hsound, rfl⟩⟩

end Document
end ApiReference
