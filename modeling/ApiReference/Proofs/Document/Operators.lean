import ApiReference.Proofs.Document.Acceptance

/-!
# The operators of a class

A class lists its operators, but not every object in that list is one. The name decides: an object
that has one of the three names of operators is read, as a method or as an attribute by what it has,
and any other object is passed over without a look at what else is in it. `Fields.operatorItems` has
the objects that are read.

A class is therefore accepted, and as the same class, exactly if it is accepted with these objects
alone (`Class.read_operators`), and an operator that is looked up by its name is the first of them
with that name.

* **Presence decides, not shape.** An object with `parameters` or `return_values` is a method
  whatever these hold, also if they are `null` and count as absent everywhere else.
* **Order is kept.** The operators of a class are those objects, in the order of the list; two of
  one name are both there, and only the first is found.
* **What is passed over is not read.** It may have faults that would stop the reader anywhere else
  in a document.

Operators are compared by name with the equality of values, by which numbers and booleans may be the
same. An operator of a class has a string for its name, and a string is the same as itself only
(`Json.same_str_iff`), so looking up is looking up a text.

## What is here

* `IsOperatorName`, `Fields.operatorItems`: the objects that are read.
* `Operator.ReadFrom`: as what an object is read.
* `Class.read_operators`: the operators of a class, and looking them up.
-/

set_option autoImplicit false

namespace ApiReference

open Entity Entry

/-! ## Names -/

/-- One of the three names of operators. -/
def IsOperatorName (name : Name) : Prop :=
  name = .str "call" ∨ name = .str "index" ∨ name = .str "length"

theorem Operator.isName_eq_true_iff {name : Name} : isName name = true ↔ IsOperatorName name := by
  cases name <;> simp [isName, names, IsOperatorName]

instance : DecidablePred IsOperatorName :=
  fun _ => decidable_of_iff _ Operator.isName_eq_true_iff

/-- A string is the same as itself and as nothing else. -/
theorem Json.same_str_iff {s : String} {v : Json} : (Json.str s).same v = true ↔ v = .str s := by
  cases v with
  | str t => rw [same, beq_iff_eq, str.injEq, eq_comm]
  | _ => simp [same, sameNumber, asInt?]

/-! ## The objects that are read -/

namespace Fields

/-- The objects in the list of operators that have the name of one, in order. -/
def operatorItems (fields : Fields) : List Fields :=
  (fields.objects "operators").filter fun g => IsOperatorName (Fields.value g "name")

theorem mem_operatorItems {fields g : Fields} : g ∈ fields.operatorItems ↔
    g ∈ fields.objects "operators" ∧ IsOperatorName (g.value "name") := by
  rw [operatorItems, List.mem_filter, decide_eq_true_iff]

variable {fields : Fields} {key other : String} {v : Json}

theorem objects_put_of_ne (h : other ≠ key) :
    (fields.put key v).objects other = fields.objects other := by
  rw [objects, objects, value_put_of_ne h]

theorem objects_put_self (fields : Fields) (key : String) (items : List Fields) :
    (fields.put key (.arr (items.map .obj))).objects key = items := by
  rw [objects, value_put_self, Json.items, List.filterMap_map]
  exact List.filterMap_some

theorem each_put_of_ne {α : Type} (h : other ≠ key) (f : Fields → α) :
    (fields.put key v).each other f = fields.each other f := by
  rw [each, each, objects_put_of_ne h]

theorem each?_put_of_ne {α : Type} (h : other ≠ key) (f : Fields → α) :
    (fields.put key v).each? other f = fields.each? other f := by
  rw [each?, each?, value_put_of_ne h, objects_put_of_ne h]

/-- Without the objects that are passed over, those that are read stay. -/
theorem operatorItems_put (fields : Fields) :
    (fields.put "operators" (.arr (fields.operatorItems.map .obj))).operatorItems =
      fields.operatorItems := by
  rw [operatorItems, objects_put_self]
  exact List.filter_eq_self.2 fun g hg => decide_eq_true (mem_operatorItems.1 hg).2

end Fields

/-! ## Entries

Whether a class is accepted is a matter of its entry, so a list of operators is replaced there, and
what the reader does follows. -/

namespace Operator

/-- The operator that an object with the name of one describes. -/
def ofFields (fields : Fields) : Operator :=
  if isMethod fields then .method (.ofFields fields) else .attribute (.ofFields fields)

/-- The operator is what the object is read as, wherever the object stands: a method if the object
has parameters or returned values, in whatever shape, and an attribute if it has neither. -/
def ReadFrom (o : Operator) (item : Fields) : Prop :=
  if item.has "parameters" ∨ item.has "return_values" then
    ∃ m, o = .method m ∧ ∀ debug path, (Method.read debug item path).outcome = .ok m
  else ∃ a, o = .attribute a ∧ ∀ debug path, (Attribute.read debug item path).outcome = .ok a

theorem info_ofFields (fields : Fields) : (ofFields fields).info = .ofFields fields := by
  rw [ofFields]
  split <;> rfl

/-- An object in which nothing is defective is read as the operator that it describes. -/
theorem readFrom_ofFields {item : Fields} (h : (Entry.mk (operatorKind item) item).Sound) :
    (ofFields item).ReadFrom item := by
  rw [operatorKind] at h
  rw [ReadFrom, ofFields]
  by_cases hm : isMethod item = true
  · rw [if_pos hm] at h
    rw [if_pos hm, if_pos (by simpa [isMethod] using hm)]
    refine ⟨.ofFields item, rfl, fun debug path => ?_⟩
    exact (Method.read_reports debug item path).outcome_eq_ok_iff.2
      ⟨(faults_eq_nil_iff _ path).2 h, rfl⟩
  · rw [if_neg hm] at h
    rw [if_neg hm, if_neg (by simpa [isMethod] using hm)]
    refine ⟨.ofFields item, rfl, fun debug path => ?_⟩
    exact (Attribute.read_reports debug item path).outcome_eq_ok_iff.2
      ⟨(faults_eq_nil_iff _ path).2 h, rfl⟩

end Operator

namespace Class

/-- A class is accepted if its entry is sound, as the class that the object describes. -/
theorem read_eq_ok_iff {debug : Bool} {fields : Fields} {path : Path} {c : Class} :
    (read debug fields path).outcome = .ok c ↔
      (Entry.mk .luaClass fields).Sound ∧ c = .ofFields fields := by
  rw [(Class.read_reports debug fields path).outcome_eq_ok_iff, faults_eq_nil_iff]

/-- The operators of a class are what the objects that are read describe. -/
theorem operators_ofFields (fields : Fields) :
    (ofFields fields).operators = fields.operatorItems.map Operator.ofFields := by
  show ((fields.objects "operators").map Operator.ofFields?).filterMap id = _
  rw [Fields.operatorItems, List.filterMap_map]
  induction fields.objects "operators" with
  | nil => rfl
  | cons g rest ih =>
    rw [List.filterMap_cons, List.filter_cons]
    by_cases hn : IsOperatorName (Fields.value g "name")
    · have hg : (id ∘ Operator.ofFields?) g = some (.ofFields g) := by
        rw [Function.comp, id, Operator.ofFields?, if_pos (Operator.isName_eq_true_iff.2 hn),
          Operator.ofFields, apply_ite some]
      rw [hg, if_pos (decide_eq_true hn), List.map_cons, ih]
    · have hg : (id ∘ Operator.ofFields?) g = none := by
        rw [Function.comp, id, Operator.ofFields?, if_neg (mt Operator.isName_eq_true_iff.1 hn)]
      rw [hg, if_neg (by simpa using hn), ih]

/-- Whether a class is accepted depends on the list of operators by the objects that are read. -/
theorem sound_iff (fields : Fields) : (Entry.mk .luaClass fields).Sound ↔
    (fields.value "name").isNull = false ∧
      (∀ g ∈ fields.objects "images", (Entry.mk .image g).Sound) ∧
      (∀ g ∈ fields.operatorItems, (Entry.mk (operatorKind g) g).Sound) ∧
      (∀ g ∈ fields.objects "methods", (Entry.mk .method g).Sound) ∧
      ∀ g ∈ fields.objects "attributes", (Entry.mk .attribute g).Sound := by
  rw [Entry.sound_iff]
  simp [Fields.mem_operatorItems, Operator.isName_eq_true_iff]

/-- The rest of a class does not depend on the list of operators. -/
theorem ofFields_put (fields : Fields) (v : Json) : ofFields (fields.put "operators" v) =
    { ofFields fields with operators := (ofFields (fields.put "operators" v)).operators } := by
  simp [ofFields, Member.ofFields, Fields.int?, Fields.text?, Fields.flag, Fields.value_put_of_ne,
    Fields.each_put_of_ne, Fields.each?_put_of_ne]

/-- **A class is what it is without the objects that are passed over.** -/
theorem read_put_operatorItems (debug : Bool) (fields : Fields) (path : Path) (c : Class) :
    (read debug (fields.put "operators" (.arr (fields.operatorItems.map .obj))) path).outcome =
        .ok c ↔ (read debug fields path).outcome = .ok c := by
  have hclass : ofFields (fields.put "operators" (.arr (fields.operatorItems.map .obj))) =
      ofFields fields := by
    rw [ofFields_put, operators_ofFields, Fields.operatorItems_put, ← operators_ofFields]
  rw [read_eq_ok_iff, read_eq_ok_iff, hclass, sound_iff, sound_iff, Fields.operatorItems_put]
  simp [Fields.value_put_of_ne, Fields.objects_put_of_ne]

/-! ## Looking up -/

section Lookup

variable {c : Class} {name : Name} (h : ∀ o ∈ c.operators, IsOperatorName o.info.name)
include h

theorem same_name_iff {o : Operator} (ho : o ∈ c.operators) :
    o.info.name.same name = true ↔ o.info.name = name := by
  obtain hn | hn | hn := h o ho <;> rw [hn, Json.same_str_iff, eq_comm]

/-- An operator is found if it is the first of its name. -/
theorem operator?_eq_some_iff {o : Operator} :
    c.operator? name = some o ↔ ∃ before after, c.operators = before ++ o :: after ∧
      o.info.name = name ∧ ∀ b ∈ before, b.info.name ≠ name := by
  rw [operator?, List.find?_eq_some_iff_append]
  constructor
  · rintro ⟨ho, before, after, hsplit, hbefore⟩
    have hmem : ∀ b ∈ before, b ∈ c.operators := fun b hb =>
      hsplit ▸ List.mem_append_left _ hb
    have hown : o ∈ c.operators := hsplit ▸ List.mem_append_right before List.mem_cons_self
    refine ⟨before, after, hsplit, (same_name_iff h hown).1 ho, fun b hb hname => ?_⟩
    have hfalse := hbefore b hb
    rw [(same_name_iff h (hmem b hb)).2 hname] at hfalse
    cases hfalse
  · rintro ⟨before, after, hsplit, ho, hbefore⟩
    have hmem : ∀ b ∈ before, b ∈ c.operators := fun b hb =>
      hsplit ▸ List.mem_append_left _ hb
    have hown : o ∈ c.operators := hsplit ▸ List.mem_append_right before List.mem_cons_self
    refine ⟨(same_name_iff h hown).2 ho, before, after, hsplit, fun b hb => ?_⟩
    rw [Bool.not_eq_true', Bool.eq_false_iff]
    exact mt (same_name_iff h (hmem b hb)).1 (hbefore b hb)

/-- Nothing is found if no operator has the name. -/
theorem operator?_eq_none_iff :
    c.operator? name = none ↔ ∀ o ∈ c.operators, o.info.name ≠ name := by
  rw [operator?, List.find?_eq_none]
  exact forall₂_congr fun o ho => not_congr (same_name_iff h ho)

end Lookup

/-- **The operators of a class are the objects listed under one of their names**, in order, each
read as a method or an attribute by what it has. What else is listed counts for nothing: without it
the same class is accepted. Looking up a name gives the first operator of that name, and nothing if
no object of the name is listed or it is the name of no operator. -/
theorem read_operators (debug : Bool) (fields : Fields) (path : Path) (c : Class) :
    ((read debug fields path).outcome = .ok c ↔
      (read debug (fields.put "operators" (.arr (fields.operatorItems.map .obj))) path).outcome =
        .ok c) ∧
    ((read debug fields path).outcome = .ok c →
      List.Forall₂ (fun item o => o.ReadFrom item ∧ o.info.name = item.value "name")
        fields.operatorItems c.operators ∧
      ∀ name,
        (∀ o, c.operator? name = some o ↔ ∃ before after, c.operators = before ++ o :: after ∧
          o.info.name = name ∧ ∀ b ∈ before, b.info.name ≠ name) ∧
        (IsOperatorName name →
          (c.operator? name = none ↔ ∀ g ∈ fields.objects "operators", g.value "name" ≠ name)) ∧
        (¬ IsOperatorName name → c.operator? name = none)) := by
  refine ⟨(read_put_operatorItems debug fields path c).symm, fun hread => ?_⟩
  obtain ⟨hsound, rfl⟩ := read_eq_ok_iff.1 hread
  have hnames : ∀ o ∈ (ofFields fields).operators, IsOperatorName o.info.name := by
    rw [operators_ofFields]
    intro o ho
    obtain ⟨g, hg, rfl⟩ := List.mem_map.1 ho
    rw [Operator.info_ofFields]
    exact (Fields.mem_operatorItems.1 hg).2
  refine ⟨?_, fun name => ⟨fun o => operator?_eq_some_iff hnames, fun hname => ?_, fun hname => ?_⟩⟩
  -- the operators are the items in order
  · rw [operators_ofFields, List.forall₂_map_right_iff, List.forall₂_same]
    intro g hg
    rw [Operator.info_ofFields]
    exact ⟨Operator.readFrom_ofFields (((sound_iff fields).1 hsound).2.2.1 g hg), rfl⟩
  · rw [operator?_eq_none_iff hnames, operators_ofFields]
    constructor
    · intro hnone g hg he
      have hitem : g ∈ fields.operatorItems := Fields.mem_operatorItems.2 ⟨hg, he ▸ hname⟩
      refine hnone _ (List.mem_map_of_mem hitem) ?_
      rw [Operator.info_ofFields]
      exact he
    · intro hlist o ho
      obtain ⟨g, hg, rfl⟩ := List.mem_map.1 ho
      rw [Operator.info_ofFields]
      exact hlist g (Fields.mem_operatorItems.1 hg).1
  · rw [operator?_eq_none_iff hnames]
    exact fun o ho he => hname (he ▸ hnames o ho)

/-- A class with two operators of one name and several objects that are none: one without a name,
and one of an unknown name with a parameter that could not be read. -/
def mixedOperators : Fields :=
  [("name", .str "Table"),
   ("operators", .arr
     [.obj [("name", .str "call"), ("parameters", .null)], .str "index",
      .obj [("parameters", .arr [])],
      .obj [("name", .str "next"), ("parameters", .arr [.obj []])],
      .obj [("name", .str "index"), ("read_type", .str "uint")], .obj [("name", .str "call")]])]

theorem read_operators_mixed :
    (read false mixedOperators "").outcome = .ok (.ofFields mixedOperators) ∧
      List.Forall₂ (fun item o => o.ReadFrom item ∧ o.info.name = Fields.value item "name")
        [[("name", .str "call"), ("parameters", .null)],
          [("name", .str "index"), ("read_type", .str "uint")], [("name", .str "call")]]
        (ofFields mixedOperators).operators ∧
      (ofFields mixedOperators).operator? (.str "call") ≠ none ∧
      (ofFields mixedOperators).operator? (.str "length") = none ∧
      (ofFields mixedOperators).operator? (.str "next") = none := by
  have hread : (read false mixedOperators "").outcome = .ok (.ofFields mixedOperators) := rfl
  have hobjects : mixedOperators.objects "operators" =
      [[("name", .str "call"), ("parameters", .null)], [("parameters", .arr [])],
        [("name", .str "next"), ("parameters", .arr [.obj []])],
        [("name", .str "index"), ("read_type", .str "uint")], [("name", .str "call")]] := rfl
  have hitems : mixedOperators.operatorItems =
      [[("name", .str "call"), ("parameters", .null)],
        [("name", .str "index"), ("read_type", .str "uint")], [("name", .str "call")]] := rfl
  obtain ⟨hlisted, hlookup⟩ := (read_operators false mixedOperators "" _).2 hread
  rw [hobjects] at hlookup
  refine ⟨hread, hitems ▸ hlisted, ?_, ?_, (hlookup _).2.2 (by decide)⟩
  · refine mt ((hlookup (.str "call")).2.1 (by decide)).1 fun hother => ?_
    exact hother _ List.mem_cons_self rfl
  · refine ((hlookup (.str "length")).2.1 (by decide)).2 ?_
    simp [Fields.value_cons]

end Class
end ApiReference
