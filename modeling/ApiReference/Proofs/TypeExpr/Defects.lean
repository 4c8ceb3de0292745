import ApiReference.Proofs.TypeExpr.Spelling

/-!
# Reading a type stops at its first defect

The reader of types and the list of defects of a value are defined apart from each other. This file
shows that they agree: a value without defects is read, as the type that it spells and as the same
type at every path, and a value with defects is refused with the first of them.

The two are compared by `Settles`, which says of something that is read and of its defects that one
of the two cases holds. A sequence of steps settles as soon as the steps do (`Settles.bind`), so
every form is settled by its parts, and the argument is one induction over the value
(`settles_read`).

Why not two lemmas, one for values with defects and one for values without? Each of them would go
through all forms, and in each form they would need each other: a part without defects is read, and
only then does the next part count. With both cases in one statement the order of reading is dealt
with once, where two steps are put together. What is left of a form is to bring its equation and its
list of defects into the same sequence (`settles_formed`).

A path is an argument of everything that `Settles` relates, because what is read must not depend on
it while every defect does. It is bound inside the statement: the same value is read at all paths,
or else there is a defect at all paths.

## What is here

* `Settles`: something is read, or the first defect stops the reading.
* `settles_read`: every value settles as a type.
* `read_outcome_eq_ok_iff`: what is read is what is spelled.
* `read_reports_first_defect`: a type is read exactly if it has no defect, and otherwise the first
  defect is reported, at its true location.
-/

set_option autoImplicit false

namespace ApiReference
namespace TypeExpr

/-! ## Either a value or the first defect

The first case also says what was read, by a property `Q` of the value. For types it is that the
value spells the type, so that one induction gives both the agreement about defects and the meaning
of what is read. -/

/-- `x` reads something at a path, and `ds` lists the defects that it has there. Either there are
none, and something that satisfies `Q` is read, the same at every path; or there are some, and the
first one stops the reading. -/
def Settles {α : Type} (Q : α → Prop) (x : Path → Reading α) (ds : Path → List Fault) : Prop :=
  (∃ a, Q a ∧ ∀ path, (x path).outcome = .ok a ∧ ds path = []) ∨
    ∀ path, ∃ fault rest, (x path).outcome = .error fault ∧ ds path = fault :: rest

namespace Settles

variable {α β : Type} {Q : α → Prop} {R : β → Prop} {x : Path → Reading α} {ds : Path → List Fault}

/-- Without defects there is a value to show, and the reader has to give it at every path. -/
theorem ok {a : α} (hQ : Q a) (h : ∀ path, (x path).outcome = .ok a ∧ ds path = []) :
    Settles Q x ds :=
  Or.inl ⟨a, hQ, h⟩

/-- With defects there is a first one, and the reader has to stop at it. -/
theorem error (fault : Path → Fault) (rest : Path → List Fault)
    (h : ∀ path, (x path).outcome = .error (fault path) ∧ ds path = fault path :: rest path) :
    Settles Q x ds :=
  Or.inr fun path => ⟨fault path, rest path, h path⟩

/-- The steps of a sequence have their defects in order. -/
theorem bind {f : α → Path → Reading β} {es : Path → List Fault} (h : Settles Q x ds)
    (hf : ∀ a, Q a → Settles R (f a) es) :
    Settles R (fun path => x path >>= fun a => f a path) (fun path => ds path ++ es path) := by
  obtain ⟨a, hQ, ha⟩ | hx := h
  · obtain ⟨b, hR, hb⟩ | hx := hf a hQ
    · refine .ok hR fun path => ⟨?_, ?_⟩
      · rw [Reading.bind_outcome_of_ok (ha path).1, (hb path).1]
      · rw [(ha path).2, (hb path).2, List.nil_append]
    · refine Or.inr fun path => ?_
      obtain ⟨fault, rest, ho, hd⟩ := hx path
      refine ⟨fault, rest, ?_, ?_⟩
      · rw [Reading.bind_outcome_of_ok (ha path).1, ho]
      · show ds path ++ es path = _
        rw [(ha path).2, hd, List.nil_append]
  · refine Or.inr fun path => ?_
    obtain ⟨fault, rest, ho, hd⟩ := hx path
    refine ⟨fault, rest ++ es path, Reading.bind_outcome_of_error ho _, ?_⟩
    show ds path ++ es path = _
    rw [hd, List.cons_append]

/-- A last step that only builds something has no defects of its own. -/
theorem map (h : Settles Q x ds) (g : α → β) (hg : ∀ a, Q a → R (g a)) :
    Settles R (fun path => x path >>= fun a => pure (g a)) ds := by
  have hlast : ∀ a, Q a → Settles R (fun _ => pure (g a)) fun _ => [] :=
    fun a hQ => .ok (hg a hQ) fun _ => ⟨rfl, rfl⟩
  simpa only [List.append_nil] using h.bind hlast

/-- What settles at every path settles at paths that are computed from others. -/
theorem along (h : Settles Q x ds) (g : Path → Path) :
    Settles Q (fun path => x (g path)) (fun path => ds (g path)) := by
  obtain ⟨a, hQ, ha⟩ | hx := h
  · exact .ok hQ fun path => ha (g path)
  · exact Or.inr fun path => hx (g path)

theorem mono {P : α → Prop} (h : Settles Q x ds) (hP : ∀ a, Q a → P a) : Settles P x ds := by
  obtain ⟨a, hQ, ha⟩ | hx := h
  · exact .ok (hP a hQ) ha
  · exact Or.inr hx

theorem congr {y : Path → Reading α} {es : Path → List Fault} (h : Settles Q x ds)
    (hx : ∀ path, y path = x path) (hd : ∀ path, es path = ds path) : Settles Q y es := by
  rwa [funext hx, funext hd]

end Settles

/-! ## Parts and members -/

/-- What is settled about a value that stands on its own. -/
abbrev Settled (v : Json) : Prop :=
  Settles (Spells .whole v) (read v) (defects v)

/-- A part settles if its value does; a bare value is read as it is, and a missing one is a
defect. -/
theorem settles_part (f : Form) {fields : Fields} {key : String}
    (h : Settled (fields.value key)) :
    Settles (Spells .part (fields.value key)) (readPart f.name fields key)
      fun path => (Place.part f key (fields.value key) path).defects := by
  cases hn : (fields.value key).isNull with
  | true =>
    refine .error (.missingField key · (some f.name)) (fun _ => []) fun path => ⟨?_, ?_⟩
    · rw [readPart_eq, if_pos hn]
      rfl
    · rw [Json.isNull_eq_true_iff.1 hn]
      exact Place.defects_eq_of_not_object rfl
  | false =>
    cases ho : (fields.value key).isObject with
    | true =>
      obtain ⟨inner, hv⟩ := Json.isObject_eq_true_iff.1 ho
      rw [hv] at h ⊢
      refine ((h.mono fun _ => Spells.of_object).along (Path.join · key)).congr (fun path => ?_)
        fun path => Place.defects_whole_eq rfl
      rw [readPart_eq_readAt _ _ hn, hv, readAt_object]
    | false =>
      have hk : Position.part.keeps (fields.value key) = true := by
        rw [Position.keeps, Json.isBarePart, hn, ho]
        rfl
      refine .ok (.leaf hk) fun path => ⟨?_, ?_⟩
      · rw [readPart_eq_readAt _ _ hn, readAt, if_pos hk]
        rfl
      · rw [Place.defects_eq_of_not_object (by exact ho), Place.defect?, hn, ho]
        rfl

theorem settles_member {v : Json} (h : Settled v) :
    Settles (Spells .member v) (readAt .member v) fun path => (Place.member v path).defects := by
  cases hb : v.isBareMember with
  | true =>
    have ho : v.isObject = false := @Position.isObject_of_keeps .member v hb
    refine .ok (.leaf hb) fun path => ⟨?_, ?_⟩
    · rw [readAt, Position.keeps, hb]
      rfl
    · rw [Place.defects_eq_of_not_object (by exact ho), Place.defect?, hb]
      rfl
  | false =>
    have hs : ∀ t, Spells .whole v t → Spells .member v t := by
      intro t ht
      cases v with
      | obj fields => exact ht.of_object
      | str s => cases ht with
        | leaf hv => cases hv
        | name => exact .name (by decide) s
      | _ => cases ht; contradiction
    refine (h.mono hs).congr (fun path => ?_) fun path => ?_
    · rw [readAt, Position.keeps, hb]
      rfl
    · cases ho : v.isObject with
      | true =>
        obtain ⟨fields, rfl⟩ := Json.isObject_eq_true_iff.1 ho
        exact Place.defects_whole_eq rfl
      | false =>
        rw [defects, Place.defects_eq_of_not_object (by exact ho),
          Place.defects_eq_of_not_object (by exact ho)]
        show (if v.isBareMember then none else Place.valueDefect? v path).toList = _
        rw [hb]
        rfl

/-- The items of a list settle one after another, each at its own position. -/
theorem settles_items {items : List Json} (h : ∀ v ∈ items, Settled v) (i : Nat) :
    Settles (fun ts => items.length = ts.length ∧ ∀ m ∈ items.zip ts, Spells .member m.1 m.2)
      (fun path => readItems items path i)
      fun path => (items.zipIdx i).flatMap fun v => (Place.member v.1 (path.item v.2)).defects := by
  induction items generalizing i with
  | nil => exact .ok (a := []) ⟨rfl, fun m hm => by cases hm⟩ fun path => ⟨rfl, rfl⟩
  | cons v rest ih =>
    rw [List.forall_mem_cons] at h
    have hfirst := (settles_member h.1).along (Path.item · i)
    have hboth := hfirst.bind fun t ht =>
      (ih h.2 (i + 1)).map (R := fun ts => (v :: rest).length = ts.length ∧
        ∀ m ∈ (v :: rest).zip ts, Spells .member m.1 m.2) (t :: ·) fun ts hts => by
          refine ⟨congrArg Nat.succ hts.1, ?_⟩
          rw [List.zip_cons_cons, List.forall_mem_cons]
          exact ⟨ht, hts.2⟩
    refine hboth.congr (readItems_cons v rest · i) fun path => ?_
    rw [List.zipIdx_cons, List.flatMap_cons]

theorem settles_members (f : Form) {fields : Fields} {key : String}
    (h : ∀ v ∈ (fields.value key).items, Settled v) :
    Settles
      (fun ts => (fields.value key).items ≠ [] ∧ (fields.value key).items.length = ts.length ∧
        ∀ m ∈ (fields.value key).items.zip ts, Spells .member m.1 m.2)
      (readMembers f.name fields key)
      fun path => (if (fields.value key).items.isEmpty
          then [.noMembers f.name key path (fields.value key)] else []) ++
        (fields.value key).items.zipIdx.flatMap fun v =>
          (Place.member v.1 ((path.join key).item v.2)).defects := by
  by_cases hne : (fields.value key).items = []
  · refine .error (.noMembers f.name key · (fields.value key)) (fun _ => [])
      fun path => ⟨?_, by rw [hne]; rfl⟩
    rw [readMembers_eq]
    cases hv : fields.value key with
    | arr items =>
      rw [hv] at hne
      rw [show items = [] from hne]
      rfl
    | _ => rfl
  · refine (((settles_items h 0).along (Path.join · key)).mono fun ts hts => ⟨hne, hts⟩).congr
      (fun path => readMembers_eq_readItems f.name path hne) fun path => ?_
    rw [if_neg (by simpa using hne), List.nil_append]

/-! ## Whole types

An object without a known form has nothing below it: it states no form at all and is a defect, or it
states an unknown one and is a name. The known forms differ in the keys they go down to, which
`Form.partKeys` and `Form.memberKeys` list in the order of reading. -/

/-- The defects of an object that states a known form. -/
theorem defects_of_form {fields : Fields} {f : Form} (h : fields.form? = some f) (path : Path) :
    defects (.obj fields) path =
      ((f.memberKeys.find? fun key => (fields.value key).items.isEmpty).map fun key =>
        .noMembers f.name key path (fields.value key)).toList ++
      ((f.partKeys.flatMap fun key => (Place.part f key (fields.value key) path).defects) ++
        f.memberKeys.flatMap fun key => (fields.value key).items.zipIdx.flatMap fun v =>
          (Place.member v.1 ((path.join key).item v.2)).defects) := by
  have hown : Place.objectDefect? fields path =
      (f.memberKeys.find? fun key => (fields.value key).items.isEmpty).map fun key =>
        .noMembers f.name key path (fields.value key) := by
    rw [Place.objectDefect?, Fields.form?_eq_some_iff.1 h, h]
    rfl
  rw [defects, Place.defects_eq, ← hown]
  congr 1
  show (Place.inside fields path).flatMap Place.defects = _
  rw [Place.inside, h]
  simp only [List.flatMap_append, List.flatMap_map, List.flatMap_assoc]

theorem settles_unformed {fields : Fields} (h : fields.form? = none) : Settled (.obj fields) := by
  have hbelow : ∀ path, (Place.inside fields path).flatMap Place.defects = [] := by
    intro path
    rw [Place.inside, h]
    rfl
  cases hs : fields.value "complex_type" with
  | str form =>
    refine .ok (.unknown hs h) fun path => ⟨?_, ?_⟩
    · rw [read_unknown path hs h]
      rfl
    · rw [defects, Place.defects_eq]
      show (Place.objectDefect? fields path).toList ++ (Place.inside fields path).flatMap _ = []
      rw [hbelow, Place.objectDefect?, hs]
      simp only [h]
      rfl
  | _ =>
    refine .error (.missingField "complex_type" · none) (fun _ => []) fun path => ⟨?_, ?_⟩
    · rw [read, hs]
      rfl
    · rw [defects, Place.defects_eq]
      show (Place.objectDefect? fields path).toList ++ (Place.inside fields path).flatMap _ = _
      rw [hbelow, Place.objectDefect?, hs]
      rfl

/-- An object of a known form settles if everything does that stands inside it. -/
theorem settles_formed {fields : Fields} {f : Form} (h : fields.form? = some f)
    (ih : ∀ key, Settled (fields.value key))
    (ihm : ∀ key, ∀ v ∈ (fields.value key).items, Settled v) : Settled (.obj fields) := by
  cases f with
  | array =>
    have hpart := (settles_part .array (ih "value")).map (R := Spells .whole (.obj fields)) .array
      fun t ht => .array h ht
    refine hpart.congr (read_array · h) fun path => ?_
    simp [defects_of_form h, Form.partKeys, Form.memberKeys]
  | dictionary =>
    have hparts := (settles_part .dictionary (ih "key")).bind fun k hk =>
      (settles_part .dictionary (ih "value")).map (R := Spells .whole (.obj fields)) (.dictionary k)
        fun v hv => .dictionary h hk hv
    refine hparts.congr (read_dictionary · h) fun path => ?_
    simp [defects_of_form h, Form.partKeys, Form.memberKeys]
  | tuple =>
    have hmembers := (settles_members .tuple (ihm "values")).map (R := Spells .whole (.obj fields))
      .tuple fun ts hts => .tuple h hts.1 hts.2.1 hts.2.2
    refine hmembers.congr (read_tuple · h) fun path => ?_
    rw [defects_of_form h]
    cases hi : (fields.value "values").items <;> simp [Form.partKeys, Form.memberKeys, hi]
  | union =>
    have hmembers := (settles_members .union (ihm "options")).map (R := Spells .whole (.obj fields))
      (.union · (fields.value "full_format").isTruthy)
      fun ts hts => .union h hts.1 hts.2.1 hts.2.2
    refine hmembers.congr (read_union · h) fun path => ?_
    rw [defects_of_form h]
    cases hi : (fields.value "options").items <;> simp [Form.partKeys, Form.memberKeys, hi]
  | literal =>
    refine .ok (.literal h) fun path => ⟨?_, ?_⟩
    · rw [read_literal path h]
      rfl
    · simp [defects_of_form h, Form.partKeys, Form.memberKeys]
  | «alias» =>
    have hpart := (settles_part .alias (ih "value")).map (R := Spells .whole (.obj fields))
      (.alias · (fields.value "description").text?) fun t ht => .aliased h ht
    refine hpart.congr (read_alias · h) fun path => ?_
    simp [defects_of_form h, Form.partKeys, Form.memberKeys]

/-- **Every value settles as a type.** -/
theorem settles_read (v : Json) : Settled v := by
  induction v using (measure (sizeOf : Json → Nat)).wf.induction with
  | _ v ih =>
  cases v with
  | str s =>
    refine .ok (.name (by decide) s) fun path => ⟨rfl, ?_⟩
    exact Place.defects_eq_of_not_object rfl
  | obj fields =>
    cases h : Fields.form? fields with
    | none => exact settles_unformed h
    | some f =>
      refine settles_formed h (fun key => ih _ (Json.sizeOf_value_lt fields key)) fun key v hv => ?_
      exact ih _ (Nat.lt_trans (Json.sizeOf_lt_of_mem_items hv) (Json.sizeOf_value_lt fields key))
  | _ =>
    refine .error (.notAType _ ·) (fun _ => []) fun path => ⟨rfl, ?_⟩
    exact Place.defects_eq_of_not_object rfl

/-- **What is read is what is spelled.** -/
theorem read_outcome_eq_ok_iff {v : Json} {path : Path} {t : TypeExpr} :
    (read v path).outcome = .ok t ↔ Spells .whole v t := by
  refine ⟨fun h => ?_, fun h => read_of_spells h path⟩
  obtain ⟨s, hs, hread⟩ | hfail := settles_read v
  · rw [(hread path).1, Except.ok.injEq] at h
    exact h ▸ hs
  · obtain ⟨fault, rest, ho, -⟩ := hfail path
    rw [ho] at h
    cases h

/-! ## The report of a defect

That a defect is reported is a property of the fault, not of the reader. So it is enough that every
defect of a place is one of the three faults of the grammar. -/

/-- A defect is reported as an absent field, with the field and the object that lacks it, or as
input outside the grammar. -/
def IsReported (fault : Fault) : Prop :=
  ∃ report, fault.report? = some report ∧
    ((∃ field owner form, fault = .missingField field owner form ∧ report.kind = .missingField ∧
        report.absent = some (.str field, .str owner)) ∨
      report.kind = .schema)

theorem isReported_missingField (field : String) (owner : Path) (form : Option String) :
    IsReported (.missingField field owner form) :=
  ⟨_, rfl, Or.inl ⟨field, owner, form, rfl, rfl, rfl⟩⟩

theorem isReported_of_valueDefect? {v : Json} {path : Path} {fault : Fault}
    (h : Place.valueDefect? v path = some fault) : IsReported fault := by
  cases v with
  | str s => cases h
  | obj fields =>
    rw [Place.valueDefect?, Place.objectDefect?] at h
    split at h
    · obtain ⟨f, -, h⟩ := Option.bind_eq_some_iff.1 h
      obtain ⟨key, -, rfl⟩ := Option.map_eq_some_iff.1 h
      exact ⟨_, rfl, Or.inr rfl⟩
    · rw [Option.some.injEq] at h
      exact h ▸ isReported_missingField _ _ _
  | _ =>
    rw [Place.valueDefect?, Option.some.injEq] at h
    · exact h ▸ ⟨_, rfl, Or.inr rfl⟩
    all_goals intros; contradiction

/-- Every defect has a report. -/
theorem isReported_of_mem_defects {v : Json} {path : Path} {fault : Fault}
    (h : fault ∈ defects v path) : IsReported fault := by
  obtain ⟨p, -, hp⟩ := List.mem_filterMap.1 h
  cases p with
  | whole v at_ => exact isReported_of_valueDefect? hp
  | part f key v owner =>
    rw [Place.defect?] at hp
    split at hp
    · rw [Option.some.injEq] at hp
      exact hp ▸ isReported_missingField _ _ _
    · split at hp
      · exact isReported_of_valueDefect? hp
      · cases hp
  | member v at_ =>
    rw [Place.defect?] at hp
    split at hp
    · cases hp
    · exact isReported_of_valueDefect? hp

/-- **A type is read exactly if it has no defect, and otherwise its first defect is reported.**
What is read does not depend on where it stands. Every defect belongs to a place whose path spells
the way from the value to the place, and has a report of its own. -/
theorem read_reports_first_defect (data : Json) (path : Path) :
    ((∃ t, (read data path).outcome = .ok t) ↔ defects data path = []) ∧
      (∀ t other, (read data path).outcome = .ok t ↔ (read data other).outcome = .ok t) ∧
      (∀ fault, (read data path).outcome = .error fault ↔ (defects data path).head? = some fault) ∧
      (∀ p ∈ Place.walk.nodes (.whole data path),
        ∃ steps, p.value = data.follow steps ∧ p.path = path.along steps) ∧
      ∀ fault ∈ defects data path, IsReported fault := by
  refine ⟨?_, fun t other => ?_, fun fault => ?_,
    Place.exists_steps_of_mem_nodes (.whole data path), fun fault => isReported_of_mem_defects⟩
  · obtain ⟨t, -, hread⟩ | hfail := settles_read data
    · exact ⟨fun _ => (hread path).2, fun _ => ⟨t, (hread path).1⟩⟩
    · obtain ⟨fault, rest, ho, hd⟩ := hfail path
      rw [ho, hd]
      simp
  · rw [read_outcome_eq_ok_iff, read_outcome_eq_ok_iff]
  · obtain ⟨t, -, hread⟩ | hfail := settles_read data
    · rw [(hread path).1, (hread path).2]
      simp
    · obtain ⟨first, rest, ho, hd⟩ := hfail path
      rw [ho, hd, Except.error.injEq, List.head?_cons, Option.some.injEq]

end TypeExpr
end ApiReference
