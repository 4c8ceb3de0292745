/-!
# Paths of entities

A path says where in a document something stands: the names of the enclosing entities and the key,
joined with dots, and a position in brackets for an item of a list that has no name yet, as in
`LuaEntity.teleport.parameters[2]`. Once the name of an item is known its path ends in the name
instead of the list position (`Path.member`).

Paths are texts because they are shown to users, in reports and in notes, and never taken apart for
another purpose but one: the reader of a member is given the path of a list position and has to put
the name in its place. `Path.member` undoes the position by cutting the text at its last dot, which
takes the key of the list and the position away together.

A name may have dots and brackets in it. Nothing is escaped, so a path with such a name can be read
in several ways.
-/

set_option autoImplicit false

namespace ApiReference

/-- Where something stands in a document; the empty path is the document itself. -/
abbrev Path := String

namespace Path

/-- The path of a part of what `path` names. -/
def join (path : Path) (part : String) : Path :=
  if path.isEmpty then part else path ++ "." ++ part

/-- The path of the item at position `i` of the list that `path` names. -/
def item (path : Path) (i : Nat) : Path :=
  path ++ "[" ++ toString i ++ "]"

/-- The characters in front of the last dot; none if there is no dot. -/
def beforeLastDot (cs : List Char) : List Char :=
  ((cs.reverse.dropWhile (· != '.')).drop 1).reverse

/-- What contains the thing that `path` names: the path without its last part. -/
def parent (path : Path) : Path :=
  String.ofList (beforeLastDot path.toList)

/-- The path of a named item: a list position at the end of `path`, with the key of the list, gives
way to the name. -/
def member (path : Path) (name : String) : Path :=
  join (if path.toList.getLast? = some ']' then parent path else path) name

@[simp] theorem join_empty (part : String) : join "" part = part := by
  simp [join]

theorem join_of_ne_empty {path : Path} (h : path ≠ "") (part : String) :
    join path part = path ++ "." ++ part := by
  simp [join, h]

end Path
end ApiReference
