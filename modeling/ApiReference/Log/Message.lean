import ApiReference.Log.Conversion

/-!
# Messages with arguments

A template is filled from its arguments: each place takes the next one, and none may be left over.
A record may also have a single argument that is no list of arguments. The first place takes it, and
a list or an object may be left over; a place with a key looks into an object, and puts what it
finds in the place of the arguments.

A template without places is its own text (`fill_eq_of_noPlace`).

The text of a message is a list of code points. The characters of the template and everything that
is shown of an argument are characters; a half of a surrogate pair can only come from a place with
the letter `c`.

Places are filled from left to right, and the arguments that are left are handed on (`Supply`). A
width or a precision may itself be taken from the arguments, ahead of the argument of its place. A
message without arguments is not looked at: it may have any number of percent signs.
-/

set_option autoImplicit false

namespace ApiReference

open Text

namespace Log

/-- What the places of a message are filled from. -/
inductive Arguments where
  /-- One argument for each place. -/
  | each (items : List Json)
  /-- A single argument, which may be looked into by key. -/
  | single (v : Json)

namespace Arguments

/-- The arguments that a list states: an object alone in the list is a single argument, unless it is
empty. -/
def ofList : List Json → Arguments
  | [.obj (f :: fs)] => .single (.obj (f :: fs))
  | items => .each items

/-- Whether there are none: then a message is taken as it is. -/
def isNone : Arguments → Bool
  | .each items => items.isEmpty
  | .single v => !v.isTruthy

end Arguments

/-- The arguments that are left while a message is filled. -/
structure Supply where
  next : List Json
  /-- The list or the object that was given as a single argument. -/
  source : Option Json := none

namespace Supply

/-- All arguments. -/
def ofArguments : Arguments → Supply
  | .each items => { next := items }
  | .single (.arr items) => { next := [.arr items], source := some (.arr items) }
  | .single (.obj fields) => { next := [.obj fields], source := some (.obj fields) }
  | .single v => { next := [v] }

/-- The next argument, and the others. -/
def take (supply : Supply) : Except Fault (Json × Supply) :=
  match supply.next with
  | v :: rest => .ok (v, { supply with next := rest })
  | [] => .error .unfilledMessage

/-- The arguments at a place with a key: what the object has under the key. -/
def select (supply : Supply) : Option String → Except Fault Supply
  | none => .ok supply
  | some key =>
    match supply.source with
    | some (.obj fields) =>
      match Fields.get? fields key with
      | some v => .ok { supply with next := [v] }
      | none => .error .noSuchKey
    | _ => .error .unfilledMessage

/-- Whether the message may end here: no argument is left, or those that are left may be. -/
def mayEnd (supply : Supply) : Bool :=
  supply.next.isEmpty || supply.source.isSome

/-- A whole number taken from the arguments, which must lie below `limit` in magnitude. -/
def takeExtent (limit : Nat) (supply : Supply) : Except Fault (Int × Supply) := do
  let (v, rest) ← supply.take
  let n ← exactWholeOf v
  if -Int.ofNat limit ≤ n && n < Int.ofNat limit then return (n, rest) else .error .numberTooLarge

/-- A width or a precision, which must lie below `limit`; a missing one is zero. -/
def extent (limit : Nat) (supply : Supply) : Option Extent → Except Fault (Int × Supply)
  | none => .ok (0, supply)
  | some (.stated n) => if n < limit then .ok (Int.ofNat n, supply) else .error .malformedPlace
  | some .taken => supply.takeExtent limit

end Supply

/-- The greatest width that can be stated, plus one. -/
def widthLimit : Nat := twoPow 63

/-- The greatest precision that can be stated, plus one. No text has room for that many characters,
be it as a precision or as a width. -/
def precisionLimit : Nat := twoPow 31

/-- What a place shows, and the arguments that are left after it. A negative width stands for a
place that is filled up behind the argument, a negative precision for zero. -/
def fillPlace (place : Place) (supply : Supply) : Except Fault (List CodePoint × Supply) := do
  let supply ← supply.select place.key
  let (width, supply) ← supply.extent widthLimit place.width
  let (precision, supply) ← supply.extent precisionLimit place.precision
  let flags := Layout.ofFlags place.flags
  let layout : Layout :=
    { flags with
      left := flags.left || width < 0
      width := width.natAbs
      precision := place.precision.map fun _ => precision.toNat }
  match place.letter with
  | none => .error .malformedPlace
  | some letter => do
    let (v, supply) ← supply.take
    if precisionLimit ≤ layout.width then .error .noRoom
    else
      let shown ← convert layout letter v
      return (shown, supply)

/-- The pieces of a template, filled from the arguments. -/
def fill : List Piece → Supply → Except Fault (List CodePoint)
  | [], supply => if supply.mayEnd then .ok [] else .error .unfilledMessage
  | .char c :: rest, supply => do
    let text ← fill rest supply
    return .char c :: text
  | .openKey :: _, supply =>
    .error (if supply.source.isSome then .malformedPlace else .unfilledMessage)
  | .place p :: rest, supply => do
    let (shown, supply) ← fillPlace p supply
    let text ← fill rest supply
    return shown ++ text

theorem fill_eq_of_noPlace (cs : List Char) {supply : Supply} (h : supply.mayEnd = true) :
    fill (cs.map .char) supply = .ok (cs.map .char) := by
  induction cs with
  | nil => simp [fill, h]
  | cons c cs ih => simp [fill, ih, bind, Except.bind, pure, Except.pure]

/-- The text of a message. Without arguments it is taken as it is. -/
def message (template : String) (arguments : Arguments) : Except Fault (List CodePoint) :=
  if arguments.isNone then .ok (codePoints template)
  else fill (pieces template.toList) (Supply.ofArguments arguments)

end Log
end ApiReference
