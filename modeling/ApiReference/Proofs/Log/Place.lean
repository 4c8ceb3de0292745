import ApiReference.Proofs.Log.Line

/-!
# The place in the program that a line names

A record states the file that it comes from with its whole path, and a line names the file from the
directory of the program on. That directory is looked for from the front of the path, by the name of
the program and the slash behind it. So the first directory whose name *ends* in the program's is
taken for it, and the line names what lies behind that one (`Record.relative_below`). This is the
path inside the program as long as no directory around the program has such a name; otherwise the
line names more than that (`shownPlace_eq_iff`).

Both lines take the place from there, and nothing else in the line for people depends on the file
(`Record.terminalLine_eq`), so the one question of directories settles what both of them show.

There are two slips in that search, and they add up. It takes the first directory that fits where
the last one would be the program's, as nothing inside the program has its name. And it looks for
the name with a slash behind it but none in front, so a directory `my_factorio_luadoc` fits as well.
A checkout of the program in a directory of its own name is the usual case of the first.

The search is over characters. It is compared with directories in two steps: a path is split at its
slashes (`installed_eq_below`), and the search is followed over one directory at a time
(`Record.afterFirst?_below`). A name and a slash can only stand at the end of a directory's name,
because no name has a slash in it; and this is where ending in the program's name comes from.

## What is here

* `directories`, `below`, `installed`: paths as directories and a file.
* `LooksLikeProgram`, `shownPlace`: what is taken for the directory of the program, and what is
  shown.
* `Record.place_in_lines`: what both lines show.
* `Record.place_in_checkout`: a program in a directory of its own name.
-/

set_option autoImplicit false

namespace ApiReference

open Text

namespace Log

/-! ## Paths as directories and a file -/

/-- The directories that a path leads through, from the outside in. -/
def directories (path : String) : List String :=
  (path.toList.splitOn '/').map String.ofList

/-- The path of a file below directories. -/
def below (names : List String) (file : String) : String :=
  names.foldr (fun name rest => name ++ "/" ++ rest) file

/-- The path of a file of the program, where the program lies in `dir`. -/
def installed (dir file : String) : String :=
  dir ++ "/" ++ serviceName ++ "/" ++ file

theorem toList_below (names : List String) (file : String) :
    (below names file).toList =
      names.flatMap (fun name => name.toList ++ ['/']) ++ file.toList := by
  induction names with
  | nil => rfl
  | cons name rest ih =>
    have hcons : below (name :: rest) file = name ++ "/" ++ below rest file := rfl
    rw [hcons, String.toList_append, String.toList_append, ih, List.flatMap_cons,
      ← List.append_assoc]
    rfl

theorem splitOn_slash (cs : List Char) : ('/' :: cs).splitOn '/' = [] :: cs.splitOn '/' :=
  List.splitOn_append_cons_self_of_not_mem List.not_mem_nil cs

theorem exists_splitOn_cons {c : Char} (hc : c ≠ '/') (cs : List Char) : ∃ part parts,
    cs.splitOn '/' = part :: parts ∧ (c :: cs).splitOn '/' = (c :: part) :: parts := by
  obtain ⟨part, parts, hsplit⟩ := List.exists_cons_of_ne_nil (List.splitOn_ne_nil '/' cs)
  refine ⟨part, parts, hsplit, ?_⟩
  rw [List.splitOn_cons_eq_if_modifyHead, if_neg (by simpa using hc), hsplit,
    List.modifyHead_cons]

theorem flatMap_splitOn (cs : List Char) :
    (cs.splitOn '/').flatMap (· ++ ['/']) = cs ++ ['/'] := by
  induction cs with
  | nil => rfl
  | cons c cs ih =>
    by_cases hc : c = '/'
    · rw [hc, splitOn_slash, List.flatMap_cons, ih]
      rfl
    · obtain ⟨part, parts, hcs, hcons⟩ := exists_splitOn_cons hc cs
      rw [hcs, List.flatMap_cons] at ih
      rw [hcons, List.flatMap_cons, List.cons_append, List.cons_append, ih, List.cons_append]

theorem slash_not_mem_of_mem_splitOn {cs part : List Char} (h : part ∈ cs.splitOn '/') :
    '/' ∉ part := by
  induction cs generalizing part with
  | nil =>
    rw [List.mem_singleton.1 h]
    exact List.not_mem_nil
  | cons c cs ih =>
    by_cases hc : c = '/'
    · rw [hc, splitOn_slash] at h
      rcases List.mem_cons.1 h with rfl | h
      · exact List.not_mem_nil
      · exact ih h
    · obtain ⟨first, parts, hcs, hcons⟩ := exists_splitOn_cons hc cs
      rw [hcs] at ih
      rw [hcons] at h
      rcases List.mem_cons.1 h with rfl | h
      · rw [List.mem_cons, not_or]
        exact ⟨Ne.symm hc, ih List.mem_cons_self⟩
      · exact ih (List.mem_cons_of_mem first h)

theorem slash_not_mem_of_mem_directories {path name : String} (h : name ∈ directories path) :
    '/' ∉ name.toList := by
  obtain ⟨part, hpart, rfl⟩ := List.mem_map.1 h
  rw [String.toList_ofList]
  exact slash_not_mem_of_mem_splitOn hpart

/-- A file of the program lies below the directories around the program and that of the program. -/
theorem installed_eq_below (dir file : String) :
    installed dir file = below (directories dir ++ [serviceName]) file := by
  have hdir : (directories dir).flatMap (fun name => name.toList ++ ['/']) =
      dir.toList ++ ['/'] := by
    rw [directories, List.flatMap_map]
    simp only [String.toList_ofList]
    exact flatMap_splitOn dir.toList
  rw [← String.toList_inj, toList_below, List.flatMap_append, hdir, installed]
  simp

theorem below_eq_self_iff {names : List String} {file : String} :
    below names file = file ↔ names = [] := by
  rw [← String.toList_inj, toList_below, List.append_left_eq_self]
  cases names with
  | nil => simp
  | cons name rest => simp

/-! ## The directory of the program

What is shown is defined by directories, without a search: those behind the first one that fits. -/

/-- A directory that is taken for that of the program: its name ends in the program's. -/
def LooksLikeProgram (name : String) : Prop :=
  serviceName.toList <:+ name.toList

instance (name : String) : Decidable (LooksLikeProgram name) :=
  inferInstanceAs (Decidable (_ <:+ _))

/-- The directories behind the first one that is taken for that of the program. -/
def behindProgram (names : List String) : List String :=
  (names.dropWhile fun name => !decide (LooksLikeProgram name)).tail

theorem behindProgram_cons (name : String) (rest : List String) :
    behindProgram (name :: rest) = if LooksLikeProgram name then rest else behindProgram rest := by
  rw [behindProgram, List.dropWhile_cons]
  by_cases h : LooksLikeProgram name <;> simp [h, behindProgram]

theorem looksLikeProgram_serviceName : LooksLikeProgram serviceName :=
  List.suffix_refl _

/-- Nothing is left in front of a file of the program if no directory around the program is taken
for that of the program. -/
theorem behindProgram_append_eq_nil_iff {names : List String} :
    behindProgram (names ++ [serviceName]) = [] ↔ ∀ name ∈ names, ¬ LooksLikeProgram name := by
  induction names with
  | nil =>
    rw [List.nil_append, behindProgram_cons, if_pos looksLikeProgram_serviceName]
    simp
  | cons name rest ih =>
    rw [List.cons_append, behindProgram_cons, List.forall_mem_cons]
    by_cases h : LooksLikeProgram name
    · simp [h]
    · simp [h, ih]

/-- What a line names of a file of the program, where the program lies in `dir`. -/
def shownPlace (dir file : String) : String :=
  below (behindProgram (directories dir ++ [serviceName])) file

/-- **The path inside the program is shown exactly if no directory around it fits.** -/
theorem shownPlace_eq_iff {dir file : String} :
    shownPlace dir file = file ↔ ∀ name ∈ directories dir, ¬ LooksLikeProgram name :=
  below_eq_self_iff.trans behindProgram_append_eq_nil_iff

namespace Record

section Marker

variable {name part : List Char} (hname : '/' ∉ name) (hpart : '/' ∉ part) (rest : List Char)

include hname hpart

/-- A name and a slash stand at the head of a path if the first directory has just that name. -/
theorem append_slash_prefix_iff : name ++ ['/'] <+: part ++ '/' :: rest ↔ name = part := by
  constructor
  · rintro ⟨others, h⟩
    -- what stands in front of the first slash is the same on both sides
    rw [List.append_assoc] at h
    have hsplit := congrArg (List.splitOn '/') h
    rw [List.singleton_append, List.splitOn_append_cons_self_of_not_mem hname,
      List.splitOn_append_cons_self_of_not_mem hpart] at hsplit
    exact (List.cons.inj hsplit).1
  · rintro rfl
    exact ⟨rest, by rw [List.append_assoc, List.singleton_append]⟩

/-- The first directory of a path is found if its name ends in the one that is looked for. -/
theorem afterFirst?_append : afterFirst? (name ++ ['/']) (part ++ '/' :: rest) =
    if name <:+ part then some rest else afterFirst? (name ++ ['/']) rest := by
  -- a name that the directory ends in is found where it starts, after as many steps
  induction part with
  | nil =>
    have hhead := append_slash_prefix_iff hname hpart rest
    rw [List.nil_append] at hhead
    rw [List.nil_append, afterFirst?]
    simp only [List.isPrefixOf_iff_prefix, hhead, List.suffix_nil]
    split
    · next h => rw [h]; rfl
    · rfl
  | cons c part ih =>
    have hhead := append_slash_prefix_iff hname hpart rest
    rw [List.cons_append] at hhead
    rw [List.cons_append, afterFirst?]
    simp only [List.isPrefixOf_iff_prefix, hhead, List.suffix_cons_iff]
    split
    · next h => simp [h]
    · next h => simp [h, ih (List.not_mem_of_not_mem_cons hpart)]

end Marker

/-- What the first directory does to the search for the program's. -/
theorem afterFirst?_below {name : String} (hname : '/' ∉ name.toList) (rest : List String)
    (file : String) : afterFirst? (serviceName ++ "/").toList (below (name :: rest) file).toList =
      if LooksLikeProgram name then some (below rest file).toList
      else afterFirst? (serviceName ++ "/").toList (below rest file).toList := by
  have hservice : '/' ∉ serviceName.toList := by decide
  rw [toList_below, List.flatMap_cons, List.append_assoc, List.append_assoc, List.singleton_append,
    ← toList_below, String.toList_append]
  exact afterFirst?_append hservice hname _

/-- The path of a file is shown from behind the first directory that is taken for the program's. -/
theorem relative_below {names : List String} (hnames : ∀ name ∈ names, '/' ∉ name.toList)
    (hprogram : ∃ name ∈ names, LooksLikeProgram name) (file : String) :
    relative (below names file) = below (behindProgram names) file := by
  have hfind : afterFirst? (serviceName ++ "/").toList (below names file).toList =
      some (below (behindProgram names) file).toList := by
    induction names with
    | nil =>
      obtain ⟨name, hname, -⟩ := hprogram
      cases hname
    | cons name rest ih =>
      rw [List.forall_mem_cons] at hnames
      rw [afterFirst?_below hnames.1, behindProgram_cons]
      split
      · rfl
      · next h =>
        obtain ⟨other, hother, hlooks⟩ := hprogram
        rcases List.mem_cons.1 hother with rfl | hother
        · exact absurd hlooks h
        · exact ih hnames.2 ⟨other, hother, hlooks⟩
  rw [relative, hfind, Option.getD_some, String.ofList_toList]

/-- The path of a file of the program is shown as the place. -/
theorem relative_installed (dir file : String) :
    relative (installed dir file) = shownPlace dir file := by
  rw [installed_eq_below]
  refine relative_below (fun name hname => ?_)
    ⟨serviceName, List.mem_append_right _ List.mem_cons_self, looksLikeProgram_serviceName⟩ file
  rcases List.mem_append.1 hname with hname | hname
  · exact slash_not_mem_of_mem_directories hname
  · rw [List.mem_singleton.1 hname]
    decide

/-! ## Lines that show the place

Whether there is a line at all depends on the rest of the record, and is assumed: a record without a
time or a text has no line and shows nothing. -/

/-- The record is for debugging, or that of an error or worse: its lines show the place. -/
def ShowsPlace (record : Record) : Prop :=
  record.level? = some Level.debug ∨ record.level.isAtLeast? Level.error.toNat = some true

/-- What a record needs to be written, apart from the place: a time, a scope, a text, and attributes
of different names. -/
structure IsComplete (record : Record) : Prop where
  time : ∃ moment, Moment.ofSeconds record.created = .ok moment
  scope : ∃ scope, record.scope = .ok scope
  text : ∃ text, record.text = .ok text
  distinct : record.attributes.IsDistinct

/-- The record, coming from another file. -/
def ofFile (record : Record) (path : String) : Record :=
  { record with file := .str path }

theorem exists_isAtLeast? {record : Record} {level : Level} (h : record.level? = some level)
    (n : Nat) : ∃ b, record.level.isAtLeast? n = some b := by
  rw [level?] at h
  cases hlevel : record.level with
  | float x => exact ⟨_, rfl⟩
  | int m => exact ⟨_, rfl⟩
  | bool b => exact ⟨_, rfl⟩
  | _ =>
    rw [hlevel] at h
    cases h

/-- The level of the record decides whether the place is shown. -/
theorem showsSource_of_showsPlace {record : Record} (h : record.ShowsPlace) :
    record.showsSource = .ok true := by
  rw [showsSource]
  rcases h with h | h
  · obtain ⟨isError, hleast⟩ := exists_isAtLeast? h Level.error.toNat
    rw [hleast, h]
    rfl
  · rw [h]
    exact congrArg Except.ok (Bool.or_true _)

theorem exists_severity {record : Record} (h : record.ShowsPlace) :
    ∃ severity, record.severity = .ok severity := by
  have hshows := showsSource_of_showsPlace h
  rw [showsSource] at hshows
  rw [severity]
  split
  · next hlevel =>
    rw [hlevel] at hshows
    cases hshows
  · next hlevel =>
    rw [hlevel] at hshows
    cases hshows
  · exact ⟨_, rfl⟩

/-- The line for people up to the place. -/
def front (colors : Bool) (record : Record) : Except Fault (List CodePoint) := do
  let moment ← Moment.ofSeconds record.created
  let severity ← record.severity
  let scope ← record.scope
  let text ← record.text
  return codePoints (moment.clock ++ " " ++
      Color.paint colors (record.level?.bind Color.ofLevel) (padRight severity) ++ " " ++
      Color.paint colors (some .cyan) ("[" ++ scope.inline ++ "]") ++ " ") ++
    text ++ codePoints record.pathText

/-- The line for people is what stands in front of the place, and the place. -/
theorem terminalLine_eq (colors : Bool) (record : Record) : record.terminalLine colors = (do
    let front ← record.front colors
    let place ← record.placeText colors
    return front ++ codePoints place) := by
  simp only [terminalLine, front, bind_assoc, pure_bind, codePoints_append, List.append_assoc]

section Lines

variable {record : Record} (hshows : record.ShowsPlace)

include hshows

theorem placeText_eq {path : String} (hfile : record.file = .str path) (colors : Bool) :
    record.placeText colors = .ok (Color.paint colors (some .dim)
      (" [" ++ relative path ++ ":" ++ record.line.inline ++ "]")) := by
  rw [placeText, showsSource_of_showsPlace hshows, source, hfile]
  rfl

variable (hcomplete : record.IsComplete)

include hcomplete

theorem exists_front (colors : Bool) : ∃ front, record.front colors = .ok front := by
  obtain ⟨moment, hmoment⟩ := hcomplete.time
  obtain ⟨severity, hseverity⟩ := exists_severity hshows
  obtain ⟨scope, hscope⟩ := hcomplete.scope
  obtain ⟨text, htext⟩ := hcomplete.text
  rw [front, hmoment, hseverity, hscope, htext]
  exact ⟨_, rfl⟩

/-- The line for people ends in the place, and the file shows nowhere else in it. -/
theorem exists_terminalLine (colors : Bool) : ∃ front : List CodePoint, ∀ path : String,
    (record.ofFile path).terminalLine colors = .ok (front ++ codePoints
      (Color.paint colors (some .dim)
        (" [" ++ relative path ++ ":" ++ record.line.inline ++ "]"))) := by
  obtain ⟨front, hfront⟩ := exists_front hshows hcomplete colors
  refine ⟨front, fun path => ?_⟩
  have hfront : (record.ofFile path).front colors = .ok front := hfront
  have hplace := @placeText_eq (record.ofFile path) hshows path rfl colors
  rw [terminalLine_eq, hfront, hplace]
  rfl

/-- The line for programs has the place among its attributes. -/
theorem exists_jsonLine_place (version : Option String) {path : String}
    (hfile : record.file = .str path) :
    ∃ (line : String) (members attributes : Members),
      record.jsonLine version = .ok line ∧ Coded.parse line = some (.obj members) ∧
      members.get? "attributes" = some (.obj attributes) ∧
      attributes.get? "code.filepath" = some (.text (codePoints (relative path))) := by
  obtain ⟨moment, hmoment⟩ := hcomplete.time
  obtain ⟨severity, hseverity⟩ := exists_severity hshows
  obtain ⟨scope, hscope⟩ := hcomplete.scope
  obtain ⟨text, htext⟩ := hcomplete.text
  have hwritten := writtenAttributes_eq hscope (showsSource_of_showsPlace hshows) hfile
  have hdistinct := isDistinct_withPlace path record.line
    (isDistinct_withScope hcomplete.distinct scope) true
  obtain ⟨line, members, hline, hread, -, hattributes⟩ :=
    exists_jsonLine version hmoment hwritten hseverity htext
  refine ⟨line, members, _, hline, hread, hattributes, ?_⟩
  rw [Json.get?_reread_codedFields hdistinct, get?_withPlace_file]
  exact congrArg (some ∘ Coded.text) (joined_codePoints _)

end Lines

/-- **The lines name the place behind the first directory that is taken for the program's.** Let the
program lie in `dir`. The place that a record of one of its files states is the path inside the
program if and only if no directory of `dir` has a name that ends in the program's, whatever the
file is called. Where a line shows the place, it shows the one that the record states: the line for
programs under a key of its own, and the line for people at its end, in front of which nothing
depends on the file. -/
theorem place_in_lines (version : Option String) (record : Record) :
    (∀ dir file : String,
      (record.ofFile (installed dir file)).source = .ok (shownPlace dir file) ∧
      (shownPlace dir file = file ↔ ∀ name ∈ directories dir, ¬ LooksLikeProgram name)) ∧
    (record.ShowsPlace → record.IsComplete →
      (∀ dir file : String, ∃ (line : String) (members attributes : Members),
        (record.ofFile (installed dir file)).jsonLine version = .ok line ∧
        Coded.parse line = some (.obj members) ∧
        members.get? "attributes" = some (.obj attributes) ∧
        attributes.get? "code.filepath" = some (.text (codePoints (shownPlace dir file)))) ∧
      ∀ colors : Bool, ∃ front : List CodePoint, ∀ dir file : String,
        (record.ofFile (installed dir file)).terminalLine colors =
          .ok (front ++ codePoints (Color.paint colors (some .dim)
            (" [" ++ shownPlace dir file ++ ":" ++ record.line.inline ++ "]")))) := by
  constructor
  · intro dir file
    exact ⟨congrArg Except.ok (relative_installed dir file), shownPlace_eq_iff⟩
  · intro hshows hcomplete
    constructor
    · intro dir file
      rw [← relative_installed]
      exact @exists_jsonLine_place (record.ofFile _) hshows
        ⟨hcomplete.time, hcomplete.scope, hcomplete.text, hcomplete.distinct⟩ version _ rfl
    · intro colors
      obtain ⟨front, hfront⟩ := exists_terminalLine hshows hcomplete colors
      exact ⟨front, fun dir file => by rw [← relative_installed, hfront]⟩

/-- A record with a level and a message, and no more than that. -/
def plain (level : Level) : Record where
  level := .int level
  message := .str "m"

theorem isComplete_plain (level : Level) : (plain level).IsComplete where
  time := ⟨⟨0, 0⟩, rfl⟩
  scope := ⟨.str serviceName, rfl⟩
  text := ⟨codePoints "m", rfl⟩
  distinct := List.nodup_nil

theorem place_in_lines_library :
    (∀ name ∈ directories "/usr/lib/luadoc", ¬ LooksLikeProgram name) ∧
    (plain Level.error).ShowsPlace ∧ (plain Level.error).IsComplete ∧
    let record := (plain Level.error).ofFile (installed "/usr/lib/luadoc" "model/base.py")
    record.source = .ok "model/base.py" ∧
    (∃ (line : String) (members attributes : Members),
      record.jsonLine none = .ok line ∧ Coded.parse line = some (.obj members) ∧
      members.get? "attributes" = some (.obj attributes) ∧
      attributes.get? "code.filepath" = some (.text (codePoints "model/base.py"))) ∧
    ∃ front, record.terminalLine false =
      .ok (front ++ codePoints (" [" ++ "model/base.py" ++ ":" ++ "1" ++ "]")) := by
  have hnames : ∀ name ∈ directories "/usr/lib/luadoc", ¬ LooksLikeProgram name := by
    decide +kernel
  have hshows : (plain Level.error).ShowsPlace := Or.inr rfl
  have hcomplete := isComplete_plain Level.error
  obtain ⟨hplace, hlines⟩ := place_in_lines none (plain Level.error)
  obtain ⟨hjson, hterminal⟩ := hlines hshows hcomplete
  obtain ⟨hsource, hfile⟩ := hplace "/usr/lib/luadoc" "model/base.py"
  replace hfile := hfile.2 hnames
  refine ⟨hnames, hshows, hcomplete, ?_, ?_, ?_⟩
  · rw [hsource, hfile]
  · have h := hjson "/usr/lib/luadoc" "model/base.py"
    rwa [hfile] at h
  · obtain ⟨front, hfront⟩ := hterminal false
    have h := hfront "/usr/lib/luadoc" "model/base.py"
    rw [hfile] at h
    exact ⟨front, h⟩

/-- In a program that lies in a directory of its own name, both lines name that directory too. -/
theorem place_in_checkout :
    installed "/opt/factorio_luadoc" "core.py" = "/opt/factorio_luadoc/factorio_luadoc/core.py" ∧
    ¬ (serviceName ++ "/").toList <:+: "core.py".toList ∧
    let record := (plain Level.debug).ofFile "/opt/factorio_luadoc/factorio_luadoc/core.py"
    record.source = .ok "factorio_luadoc/core.py" ∧
    (∃ fields, record.writtenAttributes = .ok fields ∧
      fields.get? "code.filepath" = some (.str "factorio_luadoc/core.py")) ∧
    record.terminalLine false =
      .ok (codePoints "00:00:00 DEBUG [factorio_luadoc] m [factorio_luadoc/core.py:1]") := by
  refine ⟨rfl, by decide +kernel, rfl, ⟨_, rfl, rfl⟩, ?_⟩
  with_unfolding_all rfl

end Record
end Log
end ApiReference
