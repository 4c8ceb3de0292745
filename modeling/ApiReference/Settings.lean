import ApiReference.Fault

/-!
# Settings

Two settings can be changed while the library is in use: the prefixes that are stripped from the
types in signatures, and whether defaults taken while reading are noted. A setting takes only
values of its own kind; one that is refused leaves all settings as they were.

A change states its value as JSON, since it may be any value, and is either made or refused with a
report about the setting. There is no state in between: the list of prefixes is checked to its end
before any of it is taken over. Several changes are made one by one and are not undone if a later
one is refused.
-/

set_option autoImplicit false

namespace ApiReference

/-- The settings. Their defaults hold until they are changed. -/
structure Settings where
  strippedPrefixes : List String := ["defines."]
  debug : Bool := false
  deriving DecidableEq

namespace Settings

/-- A change of the settings, to a value that may be unfit. -/
inductive Change where
  | strippedPrefixes (value : Json)
  | debug (value : Json)
  | reset

/-- The prefixes that the items of a list state: strings that are not empty. -/
def prefixesOf : List Json → Except Fault (List String)
  | [] => .ok []
  | v :: rest =>
    match v.text? with
    | some p => do
      let ps ← prefixesOf rest
      return p :: ps
    | none => .error (.notAPrefix v)

/-- The settings after a change. -/
def apply (settings : Settings) : Change → Except Fault Settings
  | .strippedPrefixes (.arr items) => do
    let prefixes ← prefixesOf items
    return { settings with strippedPrefixes := prefixes }
  | .strippedPrefixes v => .error (.prefixesNotAList v)
  | .debug (.bool b) => .ok { settings with debug := b }
  | .debug v => .error (.debugNotAFlag v)
  | .reset => .ok {}

/-- The settings after changes made one by one, up to the first that is refused, and the fault of
that one. -/
def applyAll (settings : Settings) : List Change → Settings × Option Fault
  | [] => (settings, none)
  | change :: rest =>
    match settings.apply change with
    | .ok changed => changed.applyAll rest
    | .error fault => (settings, some fault)

/-- Prefixes on one line, in parentheses. -/
def displayPrefixes : List String → String
  | [one] => "(" ++ Text.quoted one ++ ",)"
  | all => "(" ++ ", ".intercalate (all.map Text.quoted) ++ ")"

/-- The settings on one line. -/
def display (settings : Settings) : String :=
  "LuaDocConfig(stripped_prefixes=" ++ displayPrefixes settings.strippedPrefixes ++ ", debug=" ++
    (Json.bool settings.debug).display ++ ")"

end Settings
end ApiReference
