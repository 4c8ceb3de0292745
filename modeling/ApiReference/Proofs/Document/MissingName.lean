import ApiReference.Proofs.Document.Acceptance
import ApiReference.Proofs.Path

/-!
# Where a missing name is reported

An entity that lacks its name is reported at the path of its list position: the names of the
entities around it, the key of the list and the position in brackets. The readers never see that
path as a whole. Each of them is handed the path of a list position, cuts the position off, appends
the name it has read, and hands the result on.

The invariant behind it: an entry reached by some steps is found at the names of the entries passed
on the way, joined, followed by the key and the position of the last step
(`Entry.exists_steps_of_mem_nodes`). It holds from one step to the next because the name takes the
place of key and position (`Path.member_item_join`), whatever characters the names have.

The steps are those of the JSON value and not of the reader. A `Step` has a key and an index, and it
leads to the item at that index of the list under that key, in which everything counts for the
index: what is no object, and operators that are passed over. So a path in a report can be followed
in the file.

* **Only one entity of a document has no name of its own and holds others**, and that is the
  document. Everything else that holds entities is named (`Entity.Kind.named_or_bare`), so that
  every step has a name to put into the path.
* **A type cannot lack a name.** The parts that a form requires have other keys, so that a missing
  `name` is never reported from inside a type.
* **The first site with a fault is the one reported.** What is in front of it in the order of the
  walk has no faults, so its names are there.

## What is here

* `Entry.Leads`: the steps from an entry to one inside it, by the keys and positions of the JSON
  lists.
* `Document.path_of_missing_name`: the report of a missing name is about the first site with a
  fault, and has its path.
-/

set_option autoImplicit false

namespace ApiReference

/-! ## Steps -/

/-- The field that holds the list of a slot. -/
def Slot.listKey? : Slot → Option String
  | .list key _ => some key
  | .object _ _ => none
  | .operators => some "operators"

/-- As what the objects in a slot are read; an operator is read as a method or an attribute. -/
def Slot.kind? : Slot → Option Entity.Kind
  | .list _ kind => some kind
  | .object _ kind => some kind
  | .operators => none

/-- A step to the entry at a position of a list. -/
structure Step where
  key : String
  index : Nat
  entry : Entry

namespace Entry

/-- The step leads to an object in a list of the entry. Its position counts everything in the list,
be it an entry or not. -/
def HasStep (e : Entry) (s : Step) : Prop :=
  (e.fields.value s.key).items[s.index]? = some (.obj s.entry.fields) ∧
    ∃ slot ∈ e.kind.slots, slot.listKey? = some s.key ∧ s.entry ∈ inSlot e.fields slot

/-- The steps lead from the entry to one inside it, each from where the one before it has led. -/
def Leads : Entry → List Step → Prop
  | _, [] => True
  | e, s :: rest => e.HasStep s ∧ s.entry.Leads rest

/-- The name of an entry as it is written in a path. -/
def pathName (e : Entry) : String :=
  (e.fields.value "name").inline

end Entry

namespace Path

/-- The path that names the entries passed on some steps, from the outside in. -/
def through (path : Path) (steps : List Step) : Path :=
  steps.foldl (fun here s => here.join s.entry.pathName) path

/-- The path of the list position to which the last step leads, after the steps in front of it. -/
def position (path : Path) (enclosing : List Step) (last : Step) : Path :=
  ((path.through enclosing).join last.key).item last.index

/-- The name of the first entry passed becomes part of the path from which the rest is read. -/
theorem position_cons (path : Path) (s : Step) (enclosing : List Step) (last : Step) :
    path.position (s :: enclosing) last =
      (path.join s.entry.pathName).position enclosing last := rfl

end Path

/-! ## Entries inside an entry

The induction is along the walk through the sites. The path of a site is known from the walk; what
is shown is that it is the path of some steps. -/

/-- The keys of lists have no dot. -/
theorem Entity.Kind.dot_not_mem_listKey (kind : Kind) :
    ∀ slot ∈ kind.slots, ∀ key ∈ slot.listKey?, '.' ∉ key.toList := by
  cases kind <;> decide

/-- An entity inside another one either has a name and stands in a list, or it has no name and holds
no further entities. -/
theorem Entity.Kind.named_or_bare (kind : Kind) : ∀ slot ∈ kind.slots, ∀ inner ∈ slot.kind?,
    (inner.required? = some "name" ∧ slot.listKey?.isSome = true) ∨
      (inner.required? ≠ some "name" ∧ inner.slots.isEmpty = true) := by
  cases kind <;> decide

namespace Entry

variable {e q c : Entry} {path p : Path} {part : Part}

/-- An entry inside another one that has no name holds no further entries. -/
theorem slots_eq_nil_of_mem_below (hc : c ∈ e.below) (hname : c.kind.required? ≠ some "name") :
    c.kind.slots = [] := by
  obtain ⟨slot, hslot, hc⟩ := List.mem_flatMap.1 hc
  have hbare : ∀ inner ∈ slot.kind?, inner.required? ≠ some "name" → inner.slots = [] := by
    intro inner hinner hne
    rcases Entity.Kind.named_or_bare e.kind slot hslot inner hinner with ⟨hnamed, -⟩ | ⟨-, hnil⟩
    · exact absurd hnamed hne
    · exact List.isEmpty_iff.1 hnil
  cases slot with
  | list key kind =>
    obtain ⟨g, -, rfl⟩ := List.mem_map.1 hc
    exact hbare kind rfl hname
  | object key kind =>
    obtain ⟨g, -, rfl⟩ := List.mem_map.1 hc
    exact hbare kind rfl hname
  | operators =>
    obtain ⟨g, -, rfl⟩ := List.mem_map.1 hc
    exact absurd (operatorKind_required? g) hname

theorem mem_below_of_mem_sites (hpart : part ∈ e.kind.parts) (h : .entry c p ∈ part.sites e path) :
    c ∈ e.below := by
  obtain ⟨slot, hslot, hc⟩ := Site.mem_inSlot_of_mem_sites h
  exact List.mem_flatMap.2 ⟨slot, Entity.Kind.mem_slots hpart hslot, hc⟩

/-- **One step down.** A named entry directly inside an entry is found at the path that the entry
hands to its lists, followed by a key and a position, and these lead to it. -/
theorem exists_step_of_mem_sites (hpart : part ∈ e.kind.parts)
    (h : .entry c p ∈ part.sites e path) (hname : c.kind.required? = some "name") :
    ∃ s : Step, e.HasStep s ∧ s.entry = c ∧ p = ((e.here path).join s.key).item s.index := by
  obtain ⟨slot, hslot, hc⟩ := Site.mem_inSlot_of_mem_sites h
  have hslots : slot ∈ e.kind.slots := Entity.Kind.mem_slots hpart hslot
  cases part with
  | images =>
    -- an image has a file and no name
    obtain ⟨x, -, he⟩ := List.mem_map.1 h
    cases he
    exact absurd hname (show some "filename" ≠ some "name" by decide)
  | slot s =>
    obtain rfl := Option.some.inj hslot
    cases s with
    | list key kind =>
      obtain ⟨x, hx, he⟩ := List.mem_map.1 h
      cases he
      obtain ⟨i, hi, hp⟩ := Fields.mem_located.1 hx
      exact ⟨⟨key, i, ⟨kind, x.1⟩⟩, ⟨hi, _, hslots, rfl, hc⟩, rfl, hp⟩
    | operators =>
      obtain ⟨x, hx, he⟩ := List.mem_map.1 h
      cases he
      obtain ⟨i, hi, hp⟩ := Fields.mem_located.1 (List.mem_filter.1 hx).1
      exact ⟨⟨"operators", i, ⟨operatorKind x.1, x.1⟩⟩, ⟨hi, _, hslots, rfl, hc⟩, rfl, hp⟩
    | object key kind =>
      -- what stands alone under its key is not named: entities with a name come in lists
      obtain ⟨g, -, he⟩ := List.mem_map.1 h
      cases he
      rcases Entity.Kind.named_or_bare e.kind _ hslots kind rfl with ⟨-, hlist⟩ | ⟨hne, -⟩
      · cases hlist
      · exact absurd hname hne
  | type key => cases hslot
  | default => cases hslot

/-- What is inside an entry without slots is types. -/
theorem eq_of_mem_nodes_of_slots_eq_nil (hslots : c.kind.slots = [])
    (h : .entry q p ∈ Site.walk.nodes (.entry c path)) : q = c ∧ p = path := by
  rw [Site.walk.nodes_eq, List.mem_cons] at h
  rcases h with h | h
  · cases h
    exact ⟨rfl, rfl⟩
  · obtain ⟨b, hb, hq⟩ := List.mem_flatMap.1 h
    obtain ⟨part, hpart, hb⟩ := List.mem_flatMap.1 hb
    cases b with
    | entry b p' =>
      obtain ⟨slot, hslot, -⟩ := List.mem_flatMap.1 (mem_below_of_mem_sites hpart hb)
      rw [hslots] at hslot
      cases hslot
    | type g p' =>
      rw [Site.walk.nodes_eq] at hq
      cases List.mem_singleton.1 hq

/-- **The path of a named entry names the entries passed on the way to it.** From the entry at
`path` some steps lead to every named entry inside it, and its path is that of the last position. -/
theorem exists_steps_of_mem_nodes (e : Entry) (path : Path)
    (h : .entry q p ∈ Site.walk.nodes (.entry e path)) (hname : q.kind.required? = some "name") :
    (q = e ∧ p = path) ∨ ∃ enclosing last, e.Leads (enclosing ++ [last]) ∧ last.entry = q ∧
      p = (e.here path).position enclosing last := by
  induction e using walk.induction generalizing path with
  | step e ih =>
  rw [Site.walk.nodes_eq, List.mem_cons] at h
  rcases h with h | h
  · cases h
    exact Or.inl ⟨rfl, rfl⟩
  · obtain ⟨b, hb, hq⟩ := List.mem_flatMap.1 h
    obtain ⟨part, hpart, hb⟩ := List.mem_flatMap.1 hb
    cases b with
    | type g p' =>
      rw [Site.walk.nodes_eq] at hq
      cases List.mem_singleton.1 hq
    | entry c p' =>
      have hbelow : c ∈ e.below := mem_below_of_mem_sites hpart hb
      by_cases hc : c.kind.required? = some "name"
      · obtain ⟨s, hs, rfl, rfl⟩ := exists_step_of_mem_sites hpart hb hc
        refine Or.inr ?_
        rcases ih s.entry hbelow _ hq with ⟨rfl, rfl⟩ | ⟨enclosing, last, hleads, rfl, rfl⟩
        · exact ⟨[], s, ⟨hs, trivial⟩, rfl, rfl⟩
        · refine ⟨s :: enclosing, last, ⟨hs, hleads⟩, rfl, ?_⟩
          -- the name of the entry takes the place of its position
          obtain ⟨-, slot, hslot, hkey, -⟩ := hs
          rw [Path.position_cons, here, if_pos hc,
            Path.member_item_join (e.kind.dot_not_mem_listKey slot hslot s.key hkey)]
          rfl
      · obtain ⟨rfl, -⟩ :=
          eq_of_mem_nodes_of_slots_eq_nil (slots_eq_nil_of_mem_below hbelow hc) hq
        exact absurd hname hc

/-- An entry that reports a missing name of its own lacks it. -/
theorem of_head?_ownFaults {owner : Path} {form : Option String}
    (h : (Site.entry e path).ownFaults.head? = some (.missingField "name" owner form)) :
    e.kind.required? = some "name" ∧ (e.fields.value "name").isNull = true ∧ path = owner ∧
      none = form := by
  rw [Site.ownFaults] at h
  split at h
  · next key hkey =>
    split at h
    · next hnull =>
      cases h
      exact ⟨hkey, hnull, rfl, rfl⟩
    · cases h
  · cases h

end Entry

/-! ## Types

The walk through sites enters types, and a fault found there has to be told from one of an entry. -/

namespace TypeExpr

/-- The parts of a type have the keys of its forms. -/
theorem Place.key_mem_partKeys (p : Place) :
    (∀ f key v owner, p = .part f key v owner → key ∈ f.partKeys) → ∀ q ∈ walk.nodes p,
      ∀ f key v owner, q = .part f key v owner → key ∈ f.partKeys := by
  induction p using walk.induction with
  | step p ih =>
  intro hp
  rw [walk.forall_mem_nodes_iff]
  refine ⟨hp, fun c hc => ih c hc ?_⟩
  rintro f key v owner rfl
  have hc : Place.part f key v owner ∈ p.below := hc
  rw [below] at hc
  split at hc
  · rw [inside] at hc
    split at hc
    · simp only [List.mem_append, List.mem_map, List.mem_flatMap] at hc
      rcases hc with ⟨key', hkey, he⟩ | ⟨key', -, x, -, he⟩
      · cases he
        exact hkey
      · cases he
    · cases hc
  · cases hc

theorem field_ne_name_of_valueDefect? {v : Json} {path owner : Path} {field : String}
    {form : Option String} (h : Place.valueDefect? v path = some (.missingField field owner form)) :
    field ≠ "name" := by
  cases v with
  | obj fields =>
    rw [Place.valueDefect?, Place.objectDefect?] at h
    split at h
    · obtain ⟨f, -, h⟩ := Option.bind_eq_some_iff.1 h
      obtain ⟨key, -, h⟩ := Option.map_eq_some_iff.1 h
      cases h
    · cases h
      decide
  | _ => cases h

/-- No defect of a type is a missing name. -/
theorem field_ne_name_of_mem_defects {v : Json} {path owner : Path} {field : String}
    {form : Option String} (h : .missingField field owner form ∈ defects v path) :
    field ≠ "name" := by
  obtain ⟨p, hp, hd⟩ := List.mem_filterMap.1 h
  cases p with
  | whole w p => exact field_ne_name_of_valueDefect? hd
  | member w p =>
    rw [Place.defect?] at hd
    split at hd
    · cases hd
    · exact field_ne_name_of_valueDefect? hd
  | part f key w owner' =>
    have hkey : key ∈ f.partKeys := by
      refine Place.key_mem_partKeys (.whole v path) ?_ _ hp f key w owner' rfl
      intro f key w owner' he
      cases he
    rw [Place.defect?] at hd
    split at hd
    · cases hd
      rintro rfl
      cases f <;> revert hkey <;> decide
    · split at hd
      · exact field_ne_name_of_valueDefect? hd
      · cases hd

end TypeExpr

/-! ## Documents -/

/-- The report of a missing name states the path as such, among the details and in the message. -/
theorem report_missing_name {path : Path} (hpath : path ≠ "") :
    ∃ report, (Fault.missingField "name" path none).report? = some report ∧
      report.kind = .missingField ∧ report.absent = some (.str "name", .str path) ∧
      report.details = .obj [("field", .str "name"), ("path", .str path)] ∧
      report.message = .str ("Missing required field 'name' at " ++ path) := by
  have htruthy : (Json.str path).isTruthy = true := by
    simpa [Json.isTruthy, String.isEmpty_iff] using hpath
  have hmessage : Report.missingText (.str "name") (.str path) =
      "Missing required field 'name' at " ++ path := by
    have hfield : (Json.str "name").display = "'name'" := by decide +kernel
    have htext : "Missing required field " ++ "'name'" ++ " at " =
        "Missing required field 'name' at " := by decide
    show "Missing required field " ++ (Json.str "name").display ++ " at " ++ _ = _
    rw [hfield, if_pos htruthy, htext, Json.inline_str]
  exact ⟨.missing (.str "name") (.str path) (.str Report.Class.missingField.code) [], rfl, rfl,
    rfl, rfl, congrArg Json.str hmessage⟩

/-- **A missing name is reported at the path of the entity that lacks it.** If reading a document
stops at a missing name, steps lead from the document through the lists of the JSON value to an
entity that has no name; its site is the first one with a fault in the order of reading; and the
path of the report is made of the names of the entities passed on the way, the key of the last list
and the position in it. -/
theorem Document.path_of_missing_name {debug : Bool} {d : Json} {path : Path} {form : Option String}
    (h : (Document.read debug d).outcome = .error (.missingField "name" path form)) :
    ∃ root enclosing last, Entry.ofDocument? d = some root ∧
      root.Leads (enclosing ++ [last]) ∧
      last.entry.kind.required? = some "name" ∧ last.entry.fields.value "name" = .null ∧
      (∃ before after, Site.walk.nodes (.entry root "") =
          before ++ .entry last.entry path :: after ∧ ∀ s ∈ before, s.ownFaults = []) ∧
      path = ((Path.through "" enclosing).join last.key).item last.index ∧
      ∃ report, (Fault.missingField "name" path form).report? = some report ∧
        report.kind = .missingField ∧ report.absent = some (.str "name", .str path) ∧
        report.details = .obj [("field", .str "name"), ("path", .str path)] ∧
        report.message = .str ("Missing required field 'name' at " ++ path) := by
  cases hroot : Entry.ofDocument? d with
  | none =>
    rcases read_of_ofDocument?_eq_none debug hroot with hd | ⟨stage, hd⟩
    · rw [hd] at h
      cases h
    · rw [hd] at h
      cases h
  | some root =>
    have hhead := (read_outcome_eq_error_iff hroot).1 h
    obtain ⟨before, site, after, hnodes, hbefore, hsite⟩ :=
      Walk.exists_first_of_head?_flatMap hhead
    have hmem : site ∈ Site.walk.nodes (.entry root "") := by
      rw [hnodes]
      exact List.mem_append_right before List.mem_cons_self
    cases site with
    | type g p =>
      exact absurd rfl (TypeExpr.field_ne_name_of_mem_defects (List.mem_of_head? hsite))
    | entry q p =>
      obtain ⟨hname, hnull, rfl, rfl⟩ := Entry.of_head?_ownFaults hsite
      -- the document itself needs no name, so the site is below it
      have hunnamed : root.kind.required? = none ∧ root.here "" = "" := by
        obtain ⟨fields, -, ⟨-, rfl⟩ | ⟨-, rfl⟩⟩ := Entry.ofDocument?_eq_some_iff.1 hroot
        · exact ⟨rfl, rfl⟩
        · exact ⟨rfl, rfl⟩
      rcases Entry.exists_steps_of_mem_nodes root "" hmem hname with ⟨rfl, -⟩ | hsteps
      · rw [hunnamed.1] at hname
        cases hname
      · obtain ⟨enclosing, last, hleads, rfl, hp⟩ := hsteps
        rw [hunnamed.2] at hp
        refine ⟨root, enclosing, last, rfl, hleads, hname, Json.isNull_eq_true_iff.1 hnull,
          ⟨before, after, hnodes, hbefore⟩, hp, report_missing_name ?_⟩
        rw [hp]
        exact Path.item_ne_empty _ _

/-- A document whose second class, of a name with a dot and a bracket, has a method of the empty
name with a nameless parameter. -/
def namelessParameter : Json :=
  .obj
    [("stage", .str "runtime"),
     ("classes", .arr [.int 0, .obj
       [("name", .str "A.b]"), ("methods", .arr [.obj
         [("name", .str ""), ("parameters", .arr [.null, .obj [("type", .str "int")]])]])]])]

theorem Document.path_of_missing_name_nested :
    (Document.read false namelessParameter).outcome =
        .error (.missingField "name" "A.b]..parameters[1]" none) ∧
      ∃ root enclosing last, Entry.ofDocument? namelessParameter = some root ∧
        root.Leads (enclosing ++ [last]) ∧ last.entry.fields.value "name" = .null ∧
        "A.b]..parameters[1]" = ((Path.through "" enclosing).join last.key).item last.index := by
  have h : (Document.read false namelessParameter).outcome =
      .error (.missingField "name" "A.b]..parameters[1]" none) := by rfl
  obtain ⟨root, enclosing, last, hroot, hleads, -, hname, -, hpath, -⟩ := path_of_missing_name h
  exact ⟨h, root, enclosing, last, hroot, hleads, hname, hpath⟩

end ApiReference
