import ApiReference.Fault

/-!
# Templates of log messages

A message is a template: a text with places for its arguments. A place begins with a percent sign
and may go on with a key in parentheses, flags, a width, a precision after a dot and a letter of
length, which has no meaning; it ends with the letter that says how the argument is shown.

`pieces` cuts a template into characters and places. It does not judge the letters, and nothing of a
text without a percent sign is a place (`pieces_eq_map_char`).

Cutting is separate from filling so that it can be said of a template on its own where its places
are. A place that is not finished at the end of the template is a piece as well, one without a
letter, and it is a fault only once it is to be filled.
-/

set_option autoImplicit false

namespace ApiReference
namespace Log

/-- A width or a precision: stated in the place, or taken from the arguments. -/
inductive Extent where
  | stated (n : Nat)
  | taken
  deriving DecidableEq

/-- A place for an argument. -/
structure Place where
  key : Option String := none
  flags : List Char := []
  width : Option Extent := none
  precision : Option Extent := none
  /-- How the argument is shown; none if the template ends before the place does. -/
  letter : Option Char := none
  deriving DecidableEq

/-- A piece of a template. -/
inductive Piece where
  | char (c : Char)
  | place (p : Place)
  /-- A place with a key that is not closed; the rest of the template belongs to the key. -/
  | openKey
  deriving DecidableEq

namespace Place

/-- The characters up to the parenthesis that closes a key, and what follows it. Parentheses inside
the key, of which `depth` are open, come in pairs. -/
def readKey : Nat → List Char → Option (List Char × List Char)
  | _, [] => none
  | depth, c :: rest =>
    if c = ')' then
      match depth with
      | 0 => some ([], rest)
      | depth + 1 => (readKey depth rest).map fun r => (c :: r.1, r.2)
    else (readKey (if c = '(' then depth + 1 else depth) rest).map fun r => (c :: r.1, r.2)

/-- Whether the character is a flag. -/
def isFlag (c : Char) : Bool :=
  c = '-' || c = '+' || c = ' ' || c = '#' || c = '0'

/-- The number that decimal digits stand for. -/
def number (digits : List Char) : Nat :=
  digits.foldl (fun n c => 10 * n + (c.toNat - 48)) 0

/-- A width or a precision, and what follows it. -/
def readExtent : List Char → Option Extent × List Char
  | '*' :: rest => (some .taken, rest)
  | cs =>
    match cs.takeWhile Char.isDigit with
    | [] => (none, cs)
    | digits => (some (.stated (number digits)), cs.dropWhile Char.isDigit)

/-- A precision, and what follows it. A dot without a number states zero. -/
def readPrecision : List Char → Option Extent × List Char
  | '.' :: rest => (some ((readExtent rest).1.getD (.stated 0)), (readExtent rest).2)
  | cs => (none, cs)

/-- The characters after a letter of length. -/
def skipLength : List Char → List Char
  | 'h' :: rest => rest
  | 'l' :: rest => rest
  | 'L' :: rest => rest
  | cs => cs

/-- The place after its percent sign and key, and what follows it. -/
def read (key : Option String) (cs : List Char) : Place × List Char :=
  let (width, rest) := readExtent (cs.dropWhile isFlag)
  let (precision, rest) := readPrecision rest
  let rest := skipLength rest
  ({ key, flags := cs.takeWhile isFlag, width, precision, letter := rest.head? }, rest.tail)

theorem length_readExtent_le (cs : List Char) : (readExtent cs).2.length ≤ cs.length := by
  rw [readExtent.eq_def]
  split
  · simp
  · split
    · exact Nat.le_refl _
    · exact (List.dropWhile_suffix _).length_le

theorem length_readPrecision_le (cs : List Char) : (readPrecision cs).2.length ≤ cs.length := by
  rw [readPrecision.eq_def]
  split
  · exact Nat.le_succ_of_le (length_readExtent_le _)
  · exact Nat.le_refl _

theorem length_skipLength_le (cs : List Char) : (skipLength cs).length ≤ cs.length := by
  rw [skipLength.eq_def]
  split <;> simp

theorem length_read_le (key : Option String) (cs : List Char) :
    (read key cs).2.length ≤ cs.length := by
  have h₁ := (List.dropWhile_suffix (l := cs) isFlag).length_le
  have h₂ := length_readExtent_le (cs.dropWhile isFlag)
  have h₃ := length_readPrecision_le (readExtent (cs.dropWhile isFlag)).2
  have h₄ := length_skipLength_le (readPrecision (readExtent (cs.dropWhile isFlag)).2).2
  simp only [read, List.length_tail]
  omega

theorem length_readKey_le {depth : Nat} {cs key rest : List Char}
    (h : readKey depth cs = some (key, rest)) : rest.length ≤ cs.length := by
  induction cs generalizing depth key with
  | nil => simp [readKey] at h
  | cons c cs ih =>
    rw [readKey.eq_def] at h
    dsimp only at h
    split at h
    · split at h
      · simp only [Option.some.injEq, Prod.mk.injEq] at h
        simp [h.2]
      · obtain ⟨r, hr, he⟩ := Option.map_eq_some_iff.1 h
        obtain ⟨_, rfl⟩ := Prod.mk.inj he
        exact Nat.le_succ_of_le (ih hr)
    · obtain ⟨r, hr, he⟩ := Option.map_eq_some_iff.1 h
      obtain ⟨_, rfl⟩ := Prod.mk.inj he
      exact Nat.le_succ_of_le (ih hr)

end Place

/-- The pieces of a template. Two percent signs stand for one. -/
def pieces : List Char → List Piece
  | [] => []
  | '%' :: '%' :: cs => .char '%' :: pieces cs
  | '%' :: '(' :: cs =>
    match _h : Place.readKey 0 cs with
    | some (key, rest) =>
      .place (Place.read (some (String.ofList key)) rest).1 ::
        pieces (Place.read (some (String.ofList key)) rest).2
    | none => [.openKey]
  | '%' :: cs => .place (Place.read none cs).1 :: pieces (Place.read none cs).2
  | c :: cs => .char c :: pieces cs
termination_by cs => cs.length
decreasing_by
  · simp only [List.length_cons]
    omega
  · have h₁ := Place.length_readKey_le _h
    have h₂ := Place.length_read_le (some (String.ofList key)) rest
    simp only [List.length_cons]
    omega
  · have h := Place.length_read_le none cs
    simp only [List.length_cons]
    omega
  · simp

theorem pieces_eq_map_char {cs : List Char} (h : '%' ∉ cs) : pieces cs = cs.map .char := by
  induction cs with
  | nil => simp [pieces]
  | cons c cs ih =>
    have hc : c ≠ '%' := fun e => h (e ▸ List.mem_cons_self)
    rw [pieces.eq_def]
    split <;> simp_all

end Log
end ApiReference
