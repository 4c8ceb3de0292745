import ApiReference.Field

/-!
# What every documented member has

A name, a place in the order of display, a description, and further lists, code examples and images.

The name is the one thing that every member must have, and it may be any value but `null`, which is
kept as it is. An image needs a file name in the same way.

The common part is read at the path at which the object of the member was found. From its name the
path of the member follows (`Member.path`), at which the readers of the single kinds go on.
-/

set_option autoImplicit false

namespace ApiReference

/-- An image shown next to a member. -/
structure Image where
  filename : Json
  caption : Option String

/-- The image that an object describes. -/
def Image.read (fields : Fields) (path : Path) : Reading Image := do
  let filename ← fields.require "filename" path
  return { filename, caption := fields.text? "caption" }

/-- The common part of members. -/
structure Member where
  name : Name
  order : Option Int
  description : String
  lists : Option (List String)
  examples : Option (List String)
  images : Option (List Image)

namespace Member

/-- The common part of the member that an object describes; `path` is the place of the object. -/
def read (debug : Bool) (fields : Fields) (path : Path) : Reading Member := do
  let name ← fields.require "name" path
  let description ← fields.description debug "description" path
  let lists ← fields.strings? debug "lists" path
  let examples ← fields.strings? debug "examples" path
  let images ← fields.list? debug "images" Image.read path
  return { name, order := fields.int? "order", description, lists, examples, images }

/-- The path of a member that was found at `path`. -/
def path (member : Member) (path : Path) : Path :=
  path.member member.name.inline

end Member
end ApiReference
