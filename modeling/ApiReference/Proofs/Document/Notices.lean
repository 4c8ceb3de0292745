import ApiReference.Proofs.Document.Debug
import ApiReference.Proofs.Document.Notes

/-!
# What reading a document notes

Apart from defaults, which are noted only if they are asked for, a reader of documents notes three
things: a type of an unknown form, an operator of an unknown name, and at the end that the document
was read. The first two are among all that is noted with the debug setting on (`Site.notices`), and
without it nothing but defaults is missing (`Reading.Quiets.leaves`); so what is left with the
setting off needs no look at the readers of the entities.

The summary is the one notice of its level. It comes last, after the notices of everything in the
document, and a document that is refused has none: whoever waits for it knows that there is a
document. It counts objects in the lists of the sections, and of an accepted document these are the
entities; items that are no objects are not counted.

What is not noted follows from the walk. Inside a type of an unknown form there may be another one,
and inside an operator of an unknown name there may be anything; neither is looked at. A literal has
a value that may be spelled like a type and is none.

## What is here

* `Document.read_closes`: the notices of a document, and the summary behind them.
* `Document.read_notices`: the notices of reading a document.
-/

set_option autoImplicit false

namespace ApiReference

open Reading
open TypeExpr (Place)

/-- With the setting off, a reader leaves what it notes with the setting on, apart from defaults. -/
theorem Reading.Quiets.leaves {α : Type} {quiet loud : Reading α} {s : Site}
    (h : quiet.Quiets loud) (hloud : loud.Leaves s.noted) : quiet.Leaves s.notices where
  subperm := by
    rw [h.notices, ← s.filter_not_noted]
    exact hloud.subperm.filter _
  perm a ha := by
    rw [h.notices, ← s.filter_not_noted]
    exact (hloud.perm a (h.outcome ▸ ha)).filter _

/-! ## The summary -/

/-- A list has as many entities as it has objects. -/
theorem Fields.length_each {α : Type} (fields : Fields) (key : String) (f : Fields → α) :
    (fields.each key f).length = (fields.objects key).length :=
  List.length_map _

/-- The note that the document was read. It counts the objects in the lists of the sections. -/
def Entry.summary : Entry → Notice
  | ⟨.prototypeApi, fields⟩ =>
    .readPrototype (fields.int? "api_version") (fields.objects "prototypes").length
      (fields.objects "types").length
  | ⟨_, fields⟩ =>
    .readRuntime (fields.int? "api_version") (fields.objects "classes").length
      (fields.objects "concepts").length (fields.objects "defines").length
      (fields.objects "events").length

/-- The summary is for everyone to see. -/
theorem Entry.level_summary (root : Entry) : root.summary.level = Log.Level.info := by
  rw [summary.eq_def]
  split <;> rfl

/-- The notices in front of the summary are for debugging. -/
theorem Site.level_of_mem_notices {s : Site} {n : Notice} (h : n ∈ s.notices) :
    n.level = Log.Level.debug := by
  obtain ⟨q, -, hq⟩ := List.mem_flatMap.1 h
  rcases q.exists_of_mem_ownNotices hq with ⟨_, _, rfl⟩ | ⟨_, _, rfl⟩ <;> rfl

namespace Document

/-- Reading a document of a known stage leaves what its sites leave, and then the summary. -/
theorem read_closes {d : Json} {root : Entry} (h : Entry.ofDocument? d = some root) :
    (read false d).Closes (Site.entry root "").notices root.summary := by
  obtain ⟨fields, rfl, ⟨hs, rfl⟩ | ⟨hs, rfl⟩⟩ := Entry.ofDocument?_eq_some_iff.1 h
  · have hleaves := (RuntimeApi.read_quiets fields).leaves (RuntimeApi.read_leaves fields)
    have hclose := hleaves.closes (RuntimeApi.read_reports false fields) RuntimeApi.notice
      Document.runtime
    have hlast : (RuntimeApi.ofFields fields).notice = Entry.summary ⟨.runtimeApi, fields⟩ := by
      simp [RuntimeApi.notice, RuntimeApi.ofFields, Header.ofFields, Fields.length_each,
        Entry.summary]
    rw [read, hs, ← hlast]
    exact hclose
  · have hleaves := (PrototypeApi.read_quiets fields).leaves (PrototypeApi.read_leaves fields)
    have hclose := hleaves.closes (PrototypeApi.read_reports false fields) PrototypeApi.notice
      Document.prototype
    have hlast : (PrototypeApi.ofFields fields).notice = Entry.summary ⟨.prototypeApi, fields⟩ := by
      simp [PrototypeApi.notice, PrototypeApi.ofFields, Header.ofFields, Fields.length_each,
        Entry.summary]
    rw [read, hs, ← hlast]
    exact hclose

/-- **The notices of reading a document are exact.** A document that is accepted leaves, in some
order, one notice for each type of an unknown form and one for each operator of an unknown name that
the walk through its sites meets, each with the path at which it was found, and after these the
summary. A document that is refused leaves no summary. The walk does not enter a type of an unknown
form, nor a literal, nor an operator of an unknown name. -/
theorem read_notices (d : Json) :
    (∀ doc, (read false d).outcome = .ok doc → ∃ root found,
      Entry.ofDocument? d = some root ∧ (read false d).notices = found ++ [root.summary] ∧
        found.Perm ((Site.walk.nodes (.entry root "")).flatMap Site.unknownForms ++
          (Site.walk.nodes (.entry root "")).flatMap Site.droppedOperators) ∧
        (∀ n ∈ found, n.level = Log.Level.debug) ∧ root.summary.level = Log.Level.info) ∧
    (∀ fault, (read false d).outcome = .error fault →
      ∀ n ∈ (read false d).notices, n.level ≠ Log.Level.info) ∧
    (∀ (p : Place) (fields : Fields), p.value = .obj fields →
      fields.form? = none ∨ fields.form? = some .literal → Place.walk.nodes p = [p]) ∧
    ∀ e path q p, Site.entry q p ∈ (Part.slot .operators).sites e path →
      Operator.isName (q.fields.value "name") = true := by
  refine ⟨fun doc hdoc => ?_, fun fault hfault n hn => ?_, fun p fields hp => ?_, ?_⟩
  · cases hroot : Entry.ofDocument? d with
    | none =>
      -- what is no document is refused: no object at all, or one of an unknown stage
      rcases read_of_ofDocument?_eq_none false hroot with hd | ⟨stage, hd⟩
      · rw [hd] at hdoc
        cases hdoc
      · rw [hd] at hdoc
        cases hdoc
    | some root =>
      obtain ⟨found, hnotices, hfound⟩ := (read_closes hroot).of_ok doc hdoc
      refine ⟨root, found, rfl, hnotices, ?_, fun n hn => ?_, root.level_summary⟩
      · exact hfound.trans (List.flatMap_append_perm _ _ _).symm
      · exact Site.level_of_mem_notices (hfound.mem_iff.1 hn)
  · have hlevel : n.level = Log.Level.debug := by
      cases hroot : Entry.ofDocument? d with
      | none =>
        rcases read_of_ofDocument?_eq_none false hroot with hd | ⟨stage, hd⟩
        · rw [hd] at hn
          cases hn
        · rw [hd] at hn
          cases hn
      | some root =>
        exact Site.level_of_mem_notices (((read_closes hroot).of_error fault hfault).subset hn)
    rw [hlevel]
    decide
  · exact Place.nodes_of_closed hp
  · intro e path q p hq
    obtain ⟨x, hx, hsite⟩ := List.mem_map.1 hq
    cases hsite
    exact (List.mem_filter.1 hx).2

/-- A result whose type has an unknown form, with a type of another unknown form inside. -/
def oddResult : Fields :=
  [("type", .obj [("complex_type", .str "table"), ("value", .obj [("complex_type", .str "odd")])])]

/-- A class with an operator of a known name and one of an unknown name. -/
def oddClass : Fields :=
  [("name", .str "LuaItem"),
   ("operators", .arr
     [.obj [("name", .str "call"), ("return_values", .arr [.obj oddResult])],
      .obj [("name", .str "add"), ("return_values", .arr [.obj oddResult])]])]

/-- A concept that is a literal, whose value is spelled like a type. -/
def oddConcept : Fields :=
  [("name", .str "Any"),
   ("type", .obj
     [("complex_type", .str "literal"), ("value", .obj [("complex_type", .str "odd")])])]

/-- A document with the class and the concept, and with a list of events. -/
def oddDocument (events : List Json) : Json :=
  .obj [("stage", .str "runtime"), ("api_version", .int 6),
    ("classes", .arr [.null, .obj oddClass]), ("concepts", .arr [.obj oddConcept]),
    ("events", .arr events)]

theorem read_notices_oddDocument :
    (∃ root found, Entry.ofDocument? (oddDocument []) = some root ∧
      (read false (oddDocument [])).notices = found ++ [root.summary] ∧
      found.Perm ((Site.walk.nodes (.entry root "")).flatMap Site.unknownForms ++
        (Site.walk.nodes (.entry root "")).flatMap Site.droppedOperators) ∧
      found = [.unknownForm "LuaItem.call.return_values[0].type" "table",
        .droppedOperator "LuaItem.operators[1]" (.str "add")] ∧
      root.summary = .readRuntime (some 6) 1 1 0 0) ∧
    (∃ fault, (read false (oddDocument [.obj []])).outcome = .error fault) ∧
    ∀ n ∈ (read false (oddDocument [.obj []])).notices, n.level ≠ Log.Level.info := by
  have hrefused : ∃ fault, (read false (oddDocument [.obj []])).outcome = .error fault := ⟨_, rfl⟩
  obtain ⟨doc, hdoc⟩ : ∃ doc, (read false (oddDocument [])).outcome = .ok doc := ⟨_, rfl⟩
  obtain ⟨root, found, hroot, hnotices, hfound, -, -⟩ := (read_notices (oddDocument [])).1 doc hdoc
  have hall : (read false (oddDocument [])).notices =
      [.unknownForm "LuaItem.call.return_values[0].type" "table",
        .droppedOperator "LuaItem.operators[1]" (.str "add")] ++
      [.readRuntime (some 6) 1 1 0 0] := rfl
  obtain ⟨rfl, hlast⟩ := List.append_inj' (hnotices.symm.trans hall) rfl
  refine ⟨⟨root, _, hroot, hnotices, hfound, rfl, List.cons.inj hlast |>.1⟩, hrefused, ?_⟩
  obtain ⟨fault, hfault⟩ := hrefused
  exact (read_notices (oddDocument [.obj []])).2.1 fault hfault

end Document
end ApiReference
