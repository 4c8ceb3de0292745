import ApiReference.Declaration.Function
import ApiReference.Proofs.Document.Described
import ApiReference.Proofs.Reading

/-!
# What a function is called with

The annotations of a global function say twice what it is called with: the lines in front of its
declaration have one for each argument, and the declaration lists the names. Each of the two goes
through the parameters on its own, and each has a case of its own for a function that takes a table
and for one that takes any number of arguments. `Method.arguments` is the list that they have to
agree on. It is told by the parameters alone and knows of no lines.

The end of a parameter line is cut, so its type and its description may leave nothing behind; what
is left always has the name and the mark of the argument (`declaredBy_paramLine`), because these end
in no blank. `functionLines_declare_arguments` puts the parts together.

What has to be assumed is collected in `Method.Declarable`. The names must be such that an argument
can be told from other text. A name that is empty or has blanks in it would make a line that
declares something else, and a parameter that is itself called `...` would be taken for the sign for
further arguments. The types must have texts, for a line without one is not written. Of a function
that takes a table the further arguments are never asked for, so nothing is assumed of their type.

## What is here

* `Argument`, `Method.arguments`: what a function is called with.
* `Argument.DeclaredBy`: a line starts with the name of an argument and its mark.
* `functionLines_declare_arguments`: lines and declaration agree with the arguments, and with each
  other.
-/

set_option autoImplicit false

namespace ApiReference

open Declaration

/-! ## Arguments

A line is compared with an argument by how it starts. After the name and the mark a space has to
follow, or the end of the line, so that a longer name would not do. -/

/-- Something that a function is called with. -/
structure Argument where
  name : String
  optional : Bool

/-- What a function is called with: one table, or its parameters in order and, for a function of
any number of arguments, the sign for the others, which none of them needs. -/
def Method.arguments (m : Method) : List Argument :=
  if m.format.takesTable then [⟨"param", m.format.tableOptional.getD false⟩]
  else
    (m.parameters.getD []).map (fun p => ⟨p.name.inline, p.optional⟩) ++
      m.variadicParameter.toList.map fun _ => ⟨"...", false⟩

/-- The name of a parameter under which an argument can be told from others: a text that is not
empty, has no blanks and is not the sign for further arguments. -/
def IsArgumentName (name : Name) : Prop :=
  ∃ s, name = .str s ∧ s ≠ "" ∧ (∀ c ∈ s.toList, Text.isBlank c = false) ∧ s ≠ "..."

/-- The parameters of the function can be told apart from other text, and whatever the function
takes or gives has a type with a text. The type of further arguments does not count for a function
that takes a table. -/
structure Method.Declarable (m : Method) : Prop where
  names : ∀ p ∈ m.parameters.getD [], IsArgumentName p.name
  parameterTypes : ∀ p ∈ m.parameters.getD [], ∃ text, TypeExpr.renderOptional p.type = .ok text
  variadicType : m.format.takesTable = false →
    ∀ p ∈ m.variadicParameter, ∃ text, TypeExpr.renderOptional p.type = .ok text
  returnTypes : ∀ p ∈ m.returnValues.getD [], ∃ text, TypeExpr.renderOptional p.type = .ok text

/-- The line declares the argument: the name comes after the tag, the mark of what may be left out
comes next if the argument may be, and then the line ends or a space follows. -/
def Argument.DeclaredBy (a : Argument) (line : String) : Prop :=
  ∃ rest : List Char,
    line.toList = ("---@param " ++ a.name ++ optionalMark a.optional).toList ++ rest ∧
      ∀ c ∈ rest.head?, c = ' '

/-- Of a given text it can be computed that no character is blank. -/
theorem Text.isBlank_eq_false_of_all {s : String} (h : (s.toList.all fun c => !isBlank c) = true) :
    ∀ c ∈ s.toList, isBlank c = false := by
  simpa using h

/-- The text does not end in a blank. -/
def Text.IsTrimmed (s : String) : Prop :=
  ∀ c ∈ s.toList.getLast?, isBlank c = false

theorem Text.isTrimmed_trimEnd (s : String) : IsTrimmed (trimEnd s) := by
  rw [IsTrimmed, trimEnd, String.toList_ofList]
  exact getLast?_trimEndChars s.toList

/-- The name after a text ends in no blank, be it marked or not. -/
theorem Text.isTrimmed_marked {name : String} (hne : name ≠ "")
    (hname : ∀ c ∈ name.toList, isBlank c = false) (before : String) (optional : Bool) :
    IsTrimmed (before ++ name ++ optionalMark optional) := by
  intro c hc
  rw [String.toList_append, String.toList_append, List.getLast?_append, List.getLast?_append] at hc
  cases optional with
  | true =>
    obtain rfl : '?' = c := Option.some.inj hc
    decide
  | false =>
    obtain ⟨last, hlast⟩ := Option.isSome_iff_exists.1
      (List.getLast?_isSome.2 (mt String.toList_eq_nil_iff.1 hne))
    rw [hlast] at hc
    obtain rfl : last = c := Option.some.inj hc
    exact hname last (List.mem_of_getLast? hlast)

/-- **The line of a parameter declares the argument of that name**, whatever is cut from its end. -/
theorem declaredBy_paramLine {name : String} (hne : name ≠ "")
    (hname : ∀ c ∈ name.toList, Text.isBlank c = false) (optional : Bool)
    (type description : String) :
    Argument.DeclaredBy ⟨name, optional⟩ (paramLine name optional type description) := by
  have hsplit : "---@param " ++ name ++ optionalMark optional ++ " " ++ type ++ " " ++
      Text.firstLine description =
      ("---@param " ++ name ++ optionalMark optional) ++
        (" " ++ type ++ " " ++ Text.firstLine description) := by
    simp only [String.append_assoc]
  rw [Argument.DeclaredBy, paramLine, hsplit, Text.trimEnd, String.toList_ofList,
    String.toList_append]
  refine ⟨_, Text.trimEndChars_append (Text.isTrimmed_marked hne hname _ _) _, fun c hc => ?_⟩
  obtain ⟨kept, hkept⟩ := List.head?_eq_some_iff.1 hc
  obtain ⟨cut, hcut⟩ := Text.isPrefix_trimEndChars
    (" " ++ type ++ " " ++ Text.firstLine description).toList
  rw [hkept] at hcut
  have hhead : some c = some ' ' := by simpa using congrArg List.head? hcut
  exact Option.some.inj hhead

/-! ## Lines of arguments

Lists of arguments and of lines are compared with `List.Forall₂`, which carries order and number
along; what is shown of one parameter then holds of all of them. -/

section Lines

variable {m : Method} {p : Parameter}

/-- A parameter has a line, which is trimmed and declares it. -/
theorem exists_parameterParamLine (hname : IsArgumentName p.name)
    (htype : ∃ text, TypeExpr.renderOptional p.type = .ok text) :
    ∃ line, parameterParamLine p = .ok line ∧
      Text.IsTrimmed line ∧ Argument.DeclaredBy ⟨p.name.inline, p.optional⟩ line := by
  obtain ⟨s, hs, hne, hblank, -⟩ := hname
  obtain ⟨type, htype⟩ := htype
  rw [parameterParamLine, htype, hs]
  exact ⟨_, rfl, Text.isTrimmed_trimEnd _, declaredBy_paramLine hne hblank _ _ _⟩

/-- A variadic parameter has the line of the sign for further arguments. -/
theorem exists_variadicLines {v : Option VariadicParameter}
    (htype : ∀ p ∈ v, ∃ text, TypeExpr.renderOptional p.type = .ok text) :
    ∃ lines, variadicLines v = .ok lines ∧
      List.Forall₂ (fun a line => Text.IsTrimmed line ∧ Argument.DeclaredBy a line)
        (v.toList.map fun _ => ⟨"...", false⟩) lines := by
  cases v with
  | none => exact ⟨[], rfl, .nil⟩
  | some p =>
    obtain ⟨type, htype⟩ := htype p rfl
    rw [variadicLines, htype]
    exact ⟨_, rfl, .cons ⟨Text.isTrimmed_trimEnd _,
      declaredBy_paramLine (by decide) (Text.isBlank_eq_false_of_all (by decide)) _ _ _⟩ .nil⟩

/-- Each returned value has a line, and the line is trimmed. -/
theorem exists_returnLines
    (htypes : ∀ p ∈ m.returnValues.getD [], ∃ text, TypeExpr.renderOptional p.type = .ok text) :
    ∃ lines, returnLines m = .ok lines ∧ ∀ line ∈ lines, Text.IsTrimmed line := by
  obtain ⟨lines, hlines, -⟩ := exists_mapM_eq_ok (f := returnedLine) (R := fun _ _ => True)
    fun p hp => by
      obtain ⟨type, htype⟩ := htypes p hp
      rw [returnedLine, htype]
      exact ⟨_, rfl, trivial⟩
  refine ⟨lines, hlines, forall_mem_of_mapM_eq_ok hlines fun p _ line hline => ?_⟩
  obtain ⟨type, -, hline⟩ := bind_eq_ok_iff.1 hline
  rw [← Except.ok.inj hline]
  exact Text.isTrimmed_trimEnd _

/-- Each argument has its line, and each line is trimmed. -/
theorem Method.Declarable.exists_paramLines (h : m.Declarable) :
    ∃ lines, paramLines m = .ok lines ∧
      List.Forall₂ (fun a line => Text.IsTrimmed line ∧ a.DeclaredBy line)
        m.arguments lines := by
  rw [paramLines, arguments]
  dsimp only
  split
  · obtain ⟨fields, hfields, -⟩ := exists_mapM_eq_ok (f := tableField) (R := fun _ _ => True)
      fun p hp => by
        obtain ⟨type, htype⟩ := h.parameterTypes p hp
        rw [tableField, htype]
        exact ⟨_, rfl, trivial⟩
    rw [hfields]
    exact ⟨_, rfl, .cons ⟨Text.isTrimmed_trimEnd _,
      declaredBy_paramLine (by decide) (Text.isBlank_eq_false_of_all (by decide)) _ _ _⟩ .nil⟩
  · next hformat =>
    obtain ⟨lines, hlines, hall⟩ := exists_mapM_eq_ok fun p hp =>
      exists_parameterParamLine (h.names p hp) (h.parameterTypes p hp)
    obtain ⟨last, hlast, hvariadic⟩ :=
      exists_variadicLines (h.variadicType (Bool.eq_false_iff.2 hformat))
    rw [hlines, ok_bind, hlast]
    exact ⟨_, rfl, List.rel_append (List.forall₂_map_left_iff.2 hall) hvariadic⟩

/-- The declaration lists the names of the arguments. -/
theorem Method.Declarable.argumentNames_eq (h : m.Declarable) :
    argumentNames m = .ok (m.arguments.map (·.name)) := by
  rw [argumentNames, arguments]
  split
  · rfl
  · have hnames : (m.parameters.getD []).mapM (fun p => nameText p.name) =
        .ok ((m.parameters.getD []).map fun p => p.name.inline) := by
      rw [mapM_eq_ok_iff, List.forall₂_map_right_iff, List.forall₂_same]
      intro p hp
      obtain ⟨s, hs, -⟩ := h.names p hp
      rw [hs]
      rfl
    rw [hnames, ok_bind, List.map_append, List.map_map]
    cases m.variadicParameter <;> rfl

theorem Method.Declarable.name_ne (h : m.Declarable) {a : Argument}
    (ha : a ∈ (m.parameters.getD []).map fun p => (⟨p.name.inline, p.optional⟩ : Argument)) :
    a.name ≠ "..." := by
  obtain ⟨p, hp, rfl⟩ := List.mem_map.1 ha
  obtain ⟨s, hs, -, -, hne⟩ := h.names p hp
  rw [hs]
  exact hne

/-- The sign for further arguments stands at the end only. -/
theorem Method.Declarable.name_ne_of_mem_dropLast (h : m.Declarable) :
    ∀ a ∈ m.arguments.dropLast, a.name ≠ "..." := by
  rw [arguments]
  split
  · nofun
  · intro a ha
    cases hv : m.variadicParameter with
    | none =>
      rw [hv, Option.toList_none, List.map_nil, List.append_nil] at ha
      exact h.name_ne (List.dropLast_subset _ ha)
    | some v =>
      rw [hv, Option.toList_some, List.map_singleton, List.dropLast_concat] at ha
      exact h.name_ne ha

/-- The sign for further arguments has no mark. -/
theorem Method.Declarable.optional_eq_false (h : m.Declarable) :
    ∀ a ∈ m.arguments, a.name = "..." → a.optional = false := by
  rw [arguments]
  split
  · have htable : ("param" : String) ≠ "..." := by decide
    exact List.forall_mem_singleton.2 fun hname => absurd hname htable
  · intro a ha hname
    obtain ha | ha := List.mem_append.1 ha
    · exact absurd hname (h.name_ne ha)
    · obtain ⟨v, -, rfl⟩ := List.mem_map.1 ha
      rfl

end Lines

/-- **The lines of a function and its declaration agree on what it is called with.** Each argument
that the declaration lists has one line, in the same order, which starts with its name and has the
mark of what may be left out exactly if it may be. The sign for further arguments comes last if at
all, and unmarked. No line about an argument or a returned value ends in a blank. -/
theorem functionLines_declare_arguments {m : Method} (h : m.Declarable) :
    ∃ params returns,
      paramLines m = .ok params ∧ returnLines m = .ok returns ∧
      functionLines m = .ok (params ++ returns ++
        ["function " ++ m.info.name.inline ++ "(" ++
          ", ".intercalate (m.arguments.map (·.name)) ++ ") end"]) ∧
      List.Forall₂ Argument.DeclaredBy m.arguments params ∧
      (∀ a ∈ m.arguments.dropLast, a.name ≠ "...") ∧
      (∀ a ∈ m.arguments, a.name = "..." → a.optional = false) ∧
      ∀ line ∈ params ++ returns, Text.IsTrimmed line := by
  obtain ⟨params, hparams, hall⟩ := h.exists_paramLines
  obtain ⟨returns, hreturns, htrimmed⟩ := exists_returnLines h.returnTypes
  obtain ⟨hown, hdeclared⟩ := (List.forall₂_and_left params m.arguments).1 hall.flip
  refine ⟨params, returns, hparams, hreturns, ?_, hdeclared.flip, h.name_ne_of_mem_dropLast,
    h.optional_eq_false, List.forall_mem_append.2 ⟨hown, htrimmed⟩⟩
  rw [functionLines, hparams, hreturns, h.argumentNames_eq]
  rfl

/-- A function whose first parameter has an empty type and a description of blanks, and which takes
any number of further arguments. -/
def reportFields : Fields :=
  [("name", .str "report"),
   ("parameters", .arr [.obj
     [("name", .str "message"), ("optional", .bool true),
      ("type", .obj [("complex_type", .str "")]), ("description", .str " \t\nmore")]]),
   ("variadic_parameter", .obj [("type", .str "string")]),
   ("return_values", .arr [.obj [("type", .str "boolean")]])]

theorem functionLines_declare_arguments_report :
    ∃ m params returns, (Method.read false reportFields "").outcome = .ok m ∧ m.Declarable ∧
      m.arguments = [⟨"message", true⟩, ⟨"...", false⟩] ∧ returns = ["---@return boolean"] ∧
      functionLines m = .ok (params ++ returns ++ ["function report(message, ...) end"]) ∧
      List.Forall₂ Argument.DeclaredBy [⟨"message", true⟩, ⟨"...", false⟩] params ∧
      ∀ line ∈ params ++ returns, Text.IsTrimmed line := by
  have hread : (Method.read false reportFields "").outcome = .ok (.ofFields reportFields) := rfl
  have hdeclarable : (Method.ofFields reportFields).Declarable :=
    { names := List.forall_mem_singleton.2
        ⟨"message", rfl, by decide, Text.isBlank_eq_false_of_all (by decide), by decide⟩
      parameterTypes := List.forall_mem_singleton.2 ⟨"", rfl⟩
      variadicType := fun _ p hp => by cases hp; exact ⟨"string", rfl⟩
      returnTypes := List.forall_mem_singleton.2 ⟨"boolean", rfl⟩ }
  have hboolean : returnLines (.ofFields reportFields) = .ok ["---@return boolean"] := by
    with_unfolding_all rfl
  obtain ⟨params, returns, -, hreturns, hlines, hparams, -, -, htrimmed⟩ :=
    functionLines_declare_arguments hdeclarable
  have hreturn : returns = ["---@return boolean"] := Except.ok.inj (hreturns.symm.trans hboolean)
  exact ⟨_, params, returns, hread, hdeclarable, rfl, hreturn, hlines, hparams, htrimmed⟩

end ApiReference
