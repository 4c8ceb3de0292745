import ApiReference.Log.Line
import ApiReference.Proofs.Json.RoundTrip
import Mathlib.Data.List.TakeWhile

/-!
# The texts of a record are recovered from its line

The line for programs is one value, written: so it is printable ASCII whatever the record is made of
(`isPlain_of_mem_jsonLine`), and reading it gives the value back. The value consists of strings, and
those come back as they are, with one exception. The text of a record is put together from its
arguments, which may name halves of surrogate pairs by their codes, and two halves that make a pair
are written like the character of the pair. So the text that is read is what comes back of the code
points of the record's text: the text itself exactly if no two halves in it make a pair.

What is left to show is which attributes are in the line. Those of the record itself and the private
ones are left out, the scope stands in front of the others, and the place in the program replaces
what was set under its keys (`get?_withPlace`). Every key occurs once, because attributes are set
one after another (`Call.isDistinct_written`), so that the reader does not lose any.

The theorem speaks of a call of a logger and not of a record. A record has its attributes mixed with
those that every record has, and it has the scope that was worked out for it. A call states these
things on their own: a level, a message with its arguments, the name of the logger, a file and a
line, and extra attributes. What a line shows can then be said from the outside.

* **The scope** is the extra attribute of that name, if there is one that counts as true, and
  otherwise the last part of the logger's name (`IsLastPart`).
* **An extra attribute** is shown under its key, with the value that was set last; a private one is
  left out, and so are the few keys that have a meaning of their own.
* **The place** is shown for the lowest level and for failures, and then hides attributes of its
  keys.

Nothing is said about the time, the level and the program in the line, beyond that they do not get
in the way. A record that has no line is left out as well: one whose time is none, or whose message
does not fit its arguments.

## What is here

* `Record.Call`: what a call of a logger states, and the record that it makes.
* `Record.exists_jsonLine`: a record has a line as soon as all that the line shows is there.
* `Record.texts_recovered`: what a reader finds in the line.
* `Record.pair_read_as_character`: why a text with a pair of halves is not recovered.
-/

set_option autoImplicit false

namespace ApiReference

open Text

namespace Fields

theorem get?_filter (p : String → Bool) (fields : Fields) (key : String) :
    get? (fields.filter fun f => p f.1) key = if p key then get? fields key else none := by
  induction fields with
  | nil => split <;> rfl
  | cons f rest ih =>
    rw [List.filter_cons, get?_cons]
    by_cases hkey : f.1 = key
    · subst hkey
      rw [if_pos rfl]
      split
      · rw [get?_cons, if_pos rfl]
      · next hp => rw [ih, if_neg hp]
    · rw [if_neg hkey]
      split
      · rw [get?_cons, if_neg hkey, ih]
      · exact ih

theorem IsDistinct.filter {fields : Fields} (h : fields.IsDistinct) (p : String × Json → Bool) :
    IsDistinct (List.filter p fields) :=
  h.sublist (List.filter_sublist.map Prod.fst)

end Fields

namespace Log
namespace Record

/-! ## Attributes set one after another

Setting an attribute that every record has replaces a part of the record. The calls below are those
whose attributes do not: their record is the plain one with all attributes put into its list. -/

/-- The record with attributes set one after another. -/
def putAll (record : Record) (extras : Fields) : Record :=
  extras.foldl (fun r e => r.put e.1 e.2) record

/-- The key is none that every record has: setting it sets an attribute. -/
def IsFree (key : String) : Prop :=
  key ∈ ownKeys → key ∈ ["message", "scope", "taskName"]

instance (key : String) : Decidable (IsFree key) :=
  inferInstanceAs (Decidable (_ → _))

theorem put_eq (record : Record) {key : String} (h : IsFree key) (v : Json) :
    record.put key v = { record with attributes := record.attributes.put key v } := by
  rw [put.eq_def]
  split
  iterate 7 exact absurd (h (by decide)) (by decide)
  rfl

theorem putAll_eq (record : Record) {extras : Fields} (h : ∀ e ∈ extras, IsFree e.1) :
    record.putAll extras = { record with attributes := record.attributes.putAll extras } := by
  induction extras generalizing record with
  | nil => rfl
  | cons e rest ih =>
    rw [List.forall_mem_cons] at h
    rw [putAll, List.foldl_cons, put_eq record h.1]
    exact ih _ h.2

/-! ## What is written

The attributes in the line are built in two steps: the scope with the further attributes behind it,
and then the place over them. Both keep the keys distinct. -/

/-- **The line of a record is printable ASCII**, whatever the record is made of. -/
theorem isPlain_of_mem_jsonLine {version : Option String} {record : Record} {line : String}
    (h : record.jsonLine version = .ok line) : ∀ c ∈ line.toList, Json.IsPlain c := by
  rw [jsonLine] at h
  cases hvalue : record.toCoded version with
  | error fault =>
    rw [hvalue] at h
    cases h
  | ok v =>
    rw [hvalue] at h
    obtain rfl : v.write = line := Except.ok.inj h
    exact Coded.isPlain_of_mem_write v

/-- A further attribute: neither one of the record itself nor a private one. -/
def isFurther (key : String) : Bool :=
  !ownKeys.contains key && key.toList.head? != some '_'

theorem isFurther_eq_true_iff {key : String} (h : IsFree key) : isFurther key = true ↔
    key ∉ ["message", "scope", "taskName"] ∧ key.toList.head? ≠ some '_' := by
  have hown : key ∈ ownKeys ↔ key ∈ ["message", "scope", "taskName"] :=
    ⟨h, fun hkey => List.subset_def.1 (by decide) hkey⟩
  rw [← hown]
  simp [isFurther]

/-- The further attributes are those of the record under keys that have no other meaning. -/
theorem get?_extras (record : Record) (key : String) : Fields.get? record.extras key =
    if isFurther key then record.attributes.get? key else none :=
  Fields.get?_filter isFurther record.attributes key

/-- The scope and the further attributes behind it. -/
def withScope (record : Record) (scope : Json) : Fields :=
  ("scope", scope) :: record.extras

theorem isDistinct_withScope {record : Record} (h : record.attributes.IsDistinct) (scope : Json) :
    (record.withScope scope).IsDistinct := by
  refine List.nodup_cons.2 ⟨fun hmem => ?_, h.filter fun f => isFurther f.1⟩
  obtain ⟨f, hf, hkey⟩ := List.mem_map.1 hmem
  have hfurther : isFurther f.1 = true := (List.mem_filter.1 hf).2
  have hscope : isFurther "scope" = false := by decide
  rw [hkey, hscope] at hfurther
  exact Bool.false_ne_true hfurther

/-- Attributes with the place in the program over them, where it is shown. -/
def withPlace (shows : Bool) (file : String) (line : Json) (fields : Fields) : Fields :=
  if shows then (fields.put "code.filepath" (.str (relative file))).put "code.lineno" line
  else fields

section Place

variable (file : String) (line : Json) (fields : Fields)

theorem isDistinct_withPlace {fields : Fields} (h : fields.IsDistinct) (shows : Bool) :
    (withPlace shows file line fields).IsDistinct := by
  rw [withPlace]
  split
  · exact (h.put _ _).put _ _
  · exact h

theorem get?_withPlace_file :
    (withPlace true file line fields).get? "code.filepath" = some (.str (relative file)) := by
  rw [withPlace, if_pos rfl, Fields.get?_put_of_ne (by decide), Fields.get?_put_self]

theorem get?_withPlace_line : (withPlace true file line fields).get? "code.lineno" = some line := by
  rw [withPlace, if_pos rfl, Fields.get?_put_self]

theorem get?_withPlace {shows : Bool} {key : String}
    (h : shows = true → key ∉ ["code.filepath", "code.lineno"]) :
    (withPlace shows file line fields).get? key = fields.get? key := by
  rw [withPlace]
  split
  · next hshows =>
    have hkey := h hshows
    rw [List.mem_cons, List.mem_singleton, not_or] at hkey
    rw [Fields.get?_put_of_ne (Ne.symm hkey.2), Fields.get?_put_of_ne (Ne.symm hkey.1)]
  · rfl

end Place

theorem writtenAttributes_eq {record : Record} {scope : Json} {file : String} {shows : Bool}
    (hscope : record.scope = .ok scope) (hshows : record.showsSource = .ok shows)
    (hfile : record.file = .str file) :
    record.writtenAttributes = .ok (withPlace shows file record.line (record.withScope scope)) := by
  rw [writtenAttributes, hscope, hshows, source, hfile]
  cases shows <;> rfl

/-- A record has a line as soon as all that the line shows is there, and the line is read. -/
theorem exists_jsonLine (version : Option String) {record : Record} {moment : Moment}
    {attributes : Fields} {severity : String} {body : List CodePoint}
    (hmoment : Moment.ofSeconds record.created = .ok moment)
    (hattributes : record.writtenAttributes = .ok attributes)
    (hseverity : record.severity = .ok severity) (htext : record.text = .ok body) :
    ∃ (line : String) (members : Members),
      record.jsonLine version = .ok line ∧ Coded.parse line = some (.obj members) ∧
      members.get? "body" = some (.text (joined body)) ∧
      members.get? "attributes" =
        some (.obj (Coded.rereadMembers (Json.codedFields attributes))) := by
  let members : List (String × Coded) :=
    [("timestamp", .text (codePoints moment.timestamp)),
     ("severityText", .text (codePoints severity)), ("body", .text body),
     ("attributes", (Json.obj attributes).coded), ("resource", (resource version).coded)]
  have hdistinct : (members.map Prod.fst).Nodup := by
    show List.Nodup ["timestamp", "severityText", "body", "attributes", "resource"]
    decide
  have hbody : ("body", Coded.text body) ∈ members := by simp [members]
  have hattribute : ("attributes", (Json.obj attributes).coded) ∈ members := by simp [members]
  refine ⟨(Coded.obj (Members.named members)).write, Coded.rereadMembers (Members.named members),
    ?_, Coded.parse_write _, Members.get?_reread_named hdistinct hbody,
    Members.get?_reread_named hdistinct hattribute⟩
  rw [jsonLine, toCoded, hmoment, hattributes, hseverity, htext]
  rfl

/-! ## The last part of a name

The name of a logger has parts with dots between them. What is meant by the last part is said here
without looking for a dot. -/

/-- The text is the last part of a dotted name: it has no dot, and it is the whole name or stands
behind a dot at its end. -/
def IsLastPart (part name : String) : Prop :=
  '.' ∉ part.toList ∧ (name = part ∨ ∃ front, name = front ++ "." ++ part)

/-- Looking for the last dot from behind finds the last part. -/
theorem isLastPart_lastPart (name : String) : IsLastPart (lastPart name) name := by
  have hsplit := List.takeWhile_append_dropWhile (p := (· != '.')) (l := name.toList.reverse)
  have htoList : (lastPart name).toList = (name.toList.reverse.takeWhile (· != '.')).reverse :=
    String.toList_ofList
  constructor
  · rw [htoList, List.mem_reverse]
    exact fun hdot => absurd (List.mem_takeWhile_imp hdot) (by decide)
  · cases hrest : name.toList.reverse.dropWhile (· != '.') with
    | nil =>
      rw [hrest, List.append_nil] at hsplit
      left
      rw [← String.toList_inj, htoList, hsplit, List.reverse_reverse]
    | cons c rest =>
      have hstop := List.head?_dropWhile_not (· != '.') name.toList.reverse
      rw [hrest] at hstop
      have hc : c = '.' := by simpa using hstop
      right
      refine ⟨String.ofList rest.reverse, ?_⟩
      have hname := congrArg List.reverse hsplit
      rw [hrest, hc, List.reverse_append, List.reverse_cons, List.reverse_reverse] at hname
      rw [← String.toList_inj, String.toList_append, String.toList_append, htoList,
        String.toList_ofList]
      exact hname.symm

/-- A name has one last part. -/
theorem IsLastPart.lastPart_eq {part name : String} (h : IsLastPart part name) :
    lastPart name = part := by
  have hpart : ∀ c ∈ part.toList.reverse, (c != '.') = true := by
    intro c hc
    rw [bne_iff_ne]
    rintro rfl
    exact h.1 (List.mem_reverse.1 hc)
  rw [← String.toList_inj, lastPart, String.toList_ofList]
  rcases h.2 with rfl | ⟨front, rfl⟩
  · rw [List.takeWhile_eq_self_iff.2 hpart, List.reverse_reverse]
  · have hdot : ".".toList = ['.'] := rfl
    rw [String.toList_append, String.toList_append, hdot, List.reverse_append,
      List.reverse_append, List.takeWhile_append_of_pos hpart, List.reverse_singleton,
      List.singleton_append, List.takeWhile_cons_of_neg (by decide), List.append_nil,
      List.reverse_reverse]

/-! ## What a reader finds

`IsReading` has one field for each thing that the line shows. The attributes are looked up by key
and not listed, as a program that reads lines would do. -/

/-- What a call of a logger states. -/
structure Call where
  level : Int
  message : Json
  arguments : Arguments := .each []
  logger : String
  file : String
  line : Int
  created : Json
  extras : Fields := []

namespace Call

/-- The record of a call. The extra attributes are set in their order. -/
def record (call : Call) : Record :=
  putAll
    { level := .int call.level
      message := call.message
      arguments := call.arguments
      logger := .str call.logger
      file := .str call.file
      line := .int call.line
      created := call.created }
    call.extras

/-- The extra attribute under a key: the one that was set last. -/
def extra? (call : Call) (key : String) : Option Json :=
  (Fields.putAll [] call.extras).get? key

/-- The line of the record shows the place in the program. -/
def ShowsPlace (call : Call) : Prop :=
  call.level = Level.debug ∨ Level.error ≤ call.level

instance (call : Call) : Decidable call.ShowsPlace :=
  inferInstanceAs (Decidable (_ ∨ _))

/-- The line of the record has the extra attribute under the key, if there is one. -/
structure Shows (call : Call) (key : String) : Prop where
  isPublic : key.toList.head? ≠ some '_'
  isFurther : key ∉ ["message", "scope", "taskName"]
  isNoPlace : call.ShowsPlace → key ∉ ["code.filepath", "code.lineno"]

/-- The extra attributes state the scope, by a value that counts as true. -/
def StatesScope (call : Call) : Prop :=
  ∃ v, call.extra? "scope" = some v ∧ v.isTruthy = true

/-- The members have what is read of a value under a key. That is the value itself if it has no
doubles, and so it is for all texts. -/
structure HasRead (members : Members) (key : String) (v : Json) : Prop where
  get?_eq : members.get? key = some v.coded.reread
  exact_eq : v.IsExact → members.get? key = some v.coded

/-- What is read of the line of a record whose text is `body`: what comes back of the text, the
scope, the place in the program where it is shown, and the extra attributes. -/
structure IsReading (call : Call) (body : List CodePoint) (members attributes : Members) :
    Prop where
  body_eq : members.get? "body" = some (.text (joined body))
  /-- The text itself is read exactly if no two halves in it make a surrogate pair. -/
  body_eq_iff : members.get? "body" = some (.text body) ↔ IsUnpaired body
  attributes_eq : members.get? "attributes" = some (.obj attributes)
  /-- A scope among the extra attributes is the scope. -/
  stated_scope : ∀ v, call.extra? "scope" = some v → v.isTruthy = true →
    HasRead attributes "scope" v
  /-- Otherwise the last part of the logger's name is. -/
  own_scope : ¬ call.StatesScope → ∃ part, IsLastPart part call.logger ∧
    attributes.get? "scope" = some (.text (codePoints part))
  file_eq : call.ShowsPlace →
    attributes.get? "code.filepath" = some (.text (codePoints (relative call.file)))
  line_eq : call.ShowsPlace → attributes.get? "code.lineno" = some (.int call.line)
  extra : ∀ key v, call.extra? key = some v → call.Shows key → HasRead attributes key v
  left_out : ∀ key, key.toList.head? = some '_' ∨ key ∈ ["message", "taskName"] →
    attributes.get? key = none

section Record

variable {call : Call} (hextras : ∀ e ∈ call.extras, IsFree e.1)

include hextras

theorem record_eq : call.record =
    { level := .int call.level
      message := call.message
      arguments := call.arguments
      logger := .str call.logger
      file := .str call.file
      line := .int call.line
      created := call.created
      attributes := Fields.putAll [] call.extras } :=
  putAll_eq _ hextras

theorem showsSource_record : call.record.showsSource = .ok (decide call.ShowsPlace) := by
  rw [record_eq hextras]
  refine congrArg Except.ok ?_
  show (decide (some call.level = some Level.debug) || decide (Level.error ≤ call.level)) =
    decide (call.level = Level.debug ∨ Level.error ≤ call.level)
  rw [Bool.decide_or, decide_eq_decide.2 Option.some_inj]

/-- A scope that is stated is the scope. -/
theorem scope_record_of_extra {v : Json} (hv : call.extra? "scope" = some v)
    (htruthy : v.isTruthy = true) : call.record.scope = .ok v := by
  have hvalue : Fields.value (Fields.putAll [] call.extras) "scope" = v :=
    congrArg (fun stated : Option Json => stated.getD .null) hv
  rw [record_eq hextras, scope]
  dsimp only
  rw [hvalue, if_pos htruthy]

/-- If no scope is stated, it is the last part of the name of the logger. -/
theorem scope_record_of_not_statesScope (h : ¬ call.StatesScope) :
    call.record.scope = .ok (.str (lastPart call.logger)) := by
  have hvalue : ¬ (Fields.value (Fields.putAll [] call.extras) "scope").isTruthy = true := by
    rw [Fields.value]
    cases hget : Fields.get? (Fields.putAll [] call.extras) "scope" with
    | none => exact Bool.false_ne_true
    | some v => exact fun htruthy => h ⟨v, hget, htruthy⟩
  rw [record_eq hextras, scope]
  dsimp only
  rw [if_neg hvalue]

theorem exists_scope_record : ∃ scope, call.record.scope = .ok scope := by
  by_cases h : call.StatesScope
  · obtain ⟨v, hv, htruthy⟩ := h
    exact ⟨v, scope_record_of_extra hextras hv htruthy⟩
  · exact ⟨_, scope_record_of_not_statesScope hextras h⟩

theorem isDistinct_attributes_record : call.record.attributes.IsDistinct := by
  rw [record_eq hextras]
  have hnil : Fields.IsDistinct [] := List.nodup_nil
  exact hnil.putAll call.extras

/-- The extra attributes that are further ones are written, no other ones are. -/
theorem get?_extras_record (key : String) : Fields.get? call.record.extras key =
    if isFurther key then call.extra? key else none := by
  rw [get?_extras, record_eq hextras]
  rfl

theorem isFree_of_extra? {key : String} {v : Json} (h : call.extra? key = some v) : IsFree key := by
  rcases Fields.mem_of_get?_putAll h with h | h
  · cases h
  · exact hextras (key, v) h

end Record

/-- The attributes in the line of a call. -/
def written (call : Call) (scope : Json) : Fields :=
  withPlace (decide call.ShowsPlace) call.file (.int call.line) (call.record.withScope scope)

section Written

variable {call : Call} (hextras : ∀ e ∈ call.extras, IsFree e.1) (scope : Json)

include hextras

theorem writtenAttributes_record (hscope : call.record.scope = .ok scope) :
    call.record.writtenAttributes = .ok (call.written scope) := by
  have hfile : call.record.file = .str call.file := by rw [record_eq hextras]
  have hline : call.record.line = .int call.line := by rw [record_eq hextras]
  rw [writtenAttributes_eq hscope (showsSource_record hextras) hfile, hline]
  rfl

/-- Every key occurs once among the attributes in the line. -/
theorem isDistinct_written : (call.written scope).IsDistinct :=
  isDistinct_withPlace _ _ (isDistinct_withScope (isDistinct_attributes_record hextras) scope) _

omit hextras in
theorem get?_written_scope : (call.written scope).get? "scope" = some scope := by
  rw [written, get?_withPlace _ _ _ (fun _ => by decide)]
  rfl

theorem get?_written_extra {key : String} {v : Json} (hv : call.extra? key = some v)
    (hshows : call.Shows key) : (call.written scope).get? key = some v := by
  have hscope : "scope" ≠ key := by
    rintro rfl
    exact hshows.isFurther (by decide)
  have hfurther : isFurther key = true := (isFurther_eq_true_iff (isFree_of_extra? hextras hv)).2
    ⟨hshows.isFurther, hshows.isPublic⟩
  rw [written, get?_withPlace _ _ _ fun h => hshows.isNoPlace (of_decide_eq_true h), withScope,
    Fields.get?_cons, if_neg hscope, get?_extras_record hextras, if_pos hfurther, hv]

theorem get?_written_left_out {key : String}
    (h : key.toList.head? = some '_' ∨ key ∈ ["message", "taskName"]) :
    (call.written scope).get? key = none := by
  have hother (other : String) (hpublic : other.toList.head? ≠ some '_')
      (hmem : other ∉ ["message", "taskName"]) : other ≠ key := by
    rintro rfl
    exact h.elim hpublic hmem
  have hplace : key ∉ ["code.filepath", "code.lineno"] := by
    rw [List.mem_cons, List.mem_singleton, not_or]
    exact ⟨(hother _ (by decide) (by decide)).symm, (hother _ (by decide) (by decide)).symm⟩
  have hfurther : ¬ isFurther key = true := by
    rcases h with hprivate | hown
    · simp [isFurther, hprivate]
    · have hown : key ∈ ownKeys := List.subset_def.1 (by decide) hown
      simp [isFurther, hown]
  rw [written, get?_withPlace _ _ _ fun _ => hplace, withScope, Fields.get?_cons,
    if_neg (hother "scope" (by decide) (by decide)), get?_extras_record hextras, if_neg hfurther]

end Written

/-- What is read of the attributes that were written. -/
theorem isReading_written {call : Call} (hextras : ∀ e ∈ call.extras, IsFree e.1) {scope : Json}
    (hscope : call.record.scope = .ok scope) {body : List CodePoint} {members : Members}
    (hbody : members.get? "body" = some (.text (joined body)))
    (hattributes : members.get? "attributes" =
      some (.obj (Coded.rereadMembers (Json.codedFields (call.written scope))))) :
    call.IsReading body members (Coded.rereadMembers (Json.codedFields (call.written scope))) := by
  have hwritten (key : String) :=
    Json.get?_reread_codedFields (isDistinct_written hextras scope) key
  have hget {key : String} {v : Json} (hv : (call.written scope).get? key = some v) :
      HasRead (Coded.rereadMembers (Json.codedFields (call.written scope))) key v := by
    have hread := hwritten key
    rw [hv, Option.map_some] at hread
    exact ⟨hread, fun hexact => by rw [hread, hexact.reread_coded]⟩
  have hscopeRead := hget (get?_written_scope scope)
  exact
    { body_eq := hbody
      body_eq_iff := by
        rw [hbody, Option.some.injEq, Coded.text.injEq]
        exact joined_eq_self_iff
      attributes_eq := hattributes
      stated_scope := fun v hv htruthy => by
        have hstated := scope_record_of_extra hextras hv htruthy
        obtain rfl : scope = v := Except.ok.inj (hscope.symm.trans hstated)
        exact hscopeRead
      own_scope := fun h => by
        have hown := scope_record_of_not_statesScope hextras h
        obtain rfl : scope = .str (lastPart call.logger) := Except.ok.inj (hscope.symm.trans hown)
        exact ⟨_, isLastPart_lastPart call.logger, hscopeRead.exact_eq (.str _)⟩
      file_eq := fun h =>
        (hget (by rw [written, decide_eq_true h, get?_withPlace_file])).exact_eq (.str _)
      line_eq := fun h =>
        (hget (by rw [written, decide_eq_true h, get?_withPlace_line])).exact_eq (.int _)
      extra := fun _ _ hv hshows => hget (get?_written_extra hextras scope hv hshows)
      left_out := fun key h => by
        rw [hwritten, get?_written_left_out hextras scope h, Option.map_none] }

end Call

/-- **The texts of a record are recovered from its line.** The line of any record is printable
ASCII. If a record has a text and a time, and no extra attribute replaces what every record has,
then there is a line, and reading it as JSON gives the text, the scope, the place in the program
where it is shown, and all extra attributes but private ones and those that stand for something
else. Of the text what comes back is read: the text itself if and only if no first half of a
surrogate pair in it is followed by a second one. -/
theorem texts_recovered (version : Option String) :
    (∀ (record : Record) (line : String), record.jsonLine version = .ok line →
      ∀ c ∈ line.toList, Json.IsPlain c) ∧
    ∀ (call : Call) (moment : Moment) (body : List CodePoint),
      Moment.ofSeconds call.created = .ok moment →
      Log.message call.message.inline call.arguments = .ok body →
      (∀ e ∈ call.extras, IsFree e.1) →
      ∃ (line : String) (members attributes : Members),
        call.record.jsonLine version = .ok line ∧ Coded.parse line = some (.obj members) ∧
        call.IsReading body members attributes := by
  refine ⟨fun record line h => isPlain_of_mem_jsonLine h, ?_⟩
  intro call moment body hmoment htext hextras
  have hrecord := Call.record_eq hextras
  obtain ⟨scope, hscope⟩ := Call.exists_scope_record hextras
  obtain ⟨severity, hseverity⟩ : ∃ severity, call.record.severity = .ok severity := by
    rw [hrecord]
    exact ⟨_, rfl⟩
  obtain ⟨line, members, hline, hread, hbody, hattributes⟩ :=
    exists_jsonLine version (by rw [hrecord]; exact hmoment)
      (Call.writtenAttributes_record hextras scope hscope) hseverity (by rw [hrecord]; exact htext)
  exact ⟨line, members, _, hline, hread, Call.isReading_written hextras hscope hbody hattributes⟩

/-- A failure with quotes, line ends, a character above U+FFFF and half of a surrogate pair in its
message and attributes, of which one hides the place in the program, one is private and one is the
scope. -/
def failure : Call where
  level := Level.error
  message := .str "no \"%s\"\n%c"
  arguments := .each [.str "\x7f𝕏", .int 0xD83D]
  logger := "factorio_luadoc.parse"
  file := "/lib/factorio_luadoc/model/base.py"
  line := 64
  created := .int 0
  extras :=
    [("path", .str "«\\»\u2028𝕏"), ("_path", .str "hidden"), ("scope", .str "render"),
     ("code.lineno", .str "none"), ("path", .str "𝕏.\"order\"")]

/-- The text of the failure. -/
def failureText : List CodePoint :=
  codePoints "no \"\x7f𝕏\"\n" ++ [.half 0x3D]

/-- A call without attributes whose message names its characters by their codes. -/
def spelled (message : String) (codes : List Int) : Call where
  level := Level.info
  message := .str message
  arguments := .each (codes.map .int)
  logger := "factorio_luadoc.parse"
  file := ""
  line := 1
  created := .int 0

/-- A call whose message consists of two halves that make no pair, because the second half of one
comes first. -/
def swapped : Call :=
  spelled "%c%c" [0xDE00, 0xD83D]

theorem texts_recovered_failure :
    (∃ (line : String) (members attributes : Members),
      failure.record.jsonLine (some "0.1.0") = .ok line ∧ (∀ c ∈ line.toList, Json.IsPlain c) ∧
      Coded.parse line = some (.obj members) ∧ members.get? "body" = some (.text failureText) ∧
      members.get? "attributes" = some (.obj attributes) ∧
      attributes.get? "scope" = some (.text (codePoints "render")) ∧
      attributes.get? "path" = some (.text (codePoints "𝕏.\"order\"")) ∧
      attributes.get? "_path" = none ∧
      attributes.get? "code.filepath" = some (.text (codePoints "model/base.py")) ∧
      attributes.get? "code.lineno" = some (.int 64)) ∧
    ∃ (line : String) (members attributes : Members),
      swapped.record.jsonLine none = .ok line ∧ Coded.parse line = some (.obj members) ∧
      members.get? "body" = some (.text [.half 0x600, .half 0x3D]) ∧
      members.get? "attributes" = some (.obj attributes) ∧
      attributes.get? "scope" = some (.text (codePoints "parse")) := by
  constructor
  · have htext : Log.message failure.message.inline failure.arguments = .ok failureText := by
      with_unfolding_all rfl
    have hshows : failure.ShowsPlace := by decide
    have hscope : failure.extra? "scope" = some (.str "render") := by rfl
    have hextra : failure.extra? "path" = some (.str "𝕏.\"order\"") := by rfl
    have hfile : relative failure.file = "model/base.py" := by rfl
    obtain ⟨line, members, attributes, hline, hread, h⟩ :=
      (texts_recovered (some "0.1.0")).2 failure ⟨0, 0⟩ _ rfl htext (by decide)
    exact ⟨line, members, attributes, hline, (texts_recovered _).1 _ line hline, hread,
      h.body_eq_iff.2 (by decide), h.attributes_eq,
      (h.stated_scope _ hscope (by decide)).exact_eq (.str _),
      (h.extra _ _ hextra ⟨by decide, by decide, fun _ => by decide⟩).exact_eq (.str _),
      h.left_out _ (Or.inl rfl), hfile ▸ h.file_eq hshows, h.line_eq hshows⟩
  · have htext : Log.message swapped.message.inline swapped.arguments =
        .ok [.half 0x600, .half 0x3D] := by
      with_unfolding_all rfl
    have hnone : swapped.extra? "scope" = none := by rfl
    have hscope : ¬ swapped.StatesScope := by
      rintro ⟨v, hv, -⟩
      cases hnone.symm.trans hv
    have hlast : lastPart swapped.logger = "parse" := by rfl
    obtain ⟨line, members, attributes, hline, hread, h⟩ :=
      (texts_recovered none).2 swapped ⟨0, 0⟩ _ rfl htext (by decide)
    obtain ⟨part, hpart, hown⟩ := h.own_scope hscope
    obtain rfl : "parse" = part := hlast.symm.trans hpart.lastPart_eq
    exact ⟨line, members, attributes, hline, hread, h.body_eq_iff.2 (by decide), h.attributes_eq,
      hown⟩

/-- The record of two halves that make a pair, each named by its code. -/
def pair : Record :=
  (spelled "%c%c" [0xD83D, 0xDE00]).record

/-- The record of the character of the pair. -/
def character : Record :=
  (spelled "%c" [0x1F600]).record

/-- **A pair of halves is read as the character of the pair.** Two halves that are named one after
the other are another text than the character that they make, but the lines are the same. What is
read of it is the character, so the text of the first record is lost. -/
theorem pair_read_as_character :
    pair.text = .ok [.half 0x3D, .half 0x600] ∧ character.text = .ok [.char '😀'] ∧
    ∃ (line : String) (members : Members),
      pair.jsonLine none = .ok line ∧ character.jsonLine none = .ok line ∧
      Coded.parse line = some (.obj members) ∧
      members.get? "body" = some (.text [.char '😀']) ∧
      members.get? "body" ≠ some (.text [.half 0x3D, .half 0x600]) := by
  have hpair : pair.text = .ok [.half 0x3D, .half 0x600] := by with_unfolding_all rfl
  have hcharacter : character.text = .ok [.char '😀'] := by with_unfolding_all rfl
  have htime : Moment.ofSeconds pair.created = .ok ⟨0, 0⟩ := by rfl
  have hattributes : pair.writtenAttributes = .ok [("scope", .str "parse")] := by rfl
  have hseverity : pair.severity = .ok "INFO" := by rfl
  obtain ⟨line, members, hline, hread, hbody, -⟩ :=
    exists_jsonLine none htime hattributes hseverity hpair
  have hsame : character.jsonLine none = pair.jsonLine none := by with_unfolding_all rfl
  have hother : joined [.half 0x3D, .half 0x600] ≠ [.half 0x3D, .half 0x600] := by decide
  refine ⟨hpair, hcharacter, line, members, hline, hsame.trans hline, hread, hbody, fun h => ?_⟩
  exact hother (Coded.text.inj (Option.some.inj (hbody.symm.trans h)))

end Record
end Log
end ApiReference
