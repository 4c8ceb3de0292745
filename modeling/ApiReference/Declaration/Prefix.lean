import ApiReference.Text.Word

/-!
# Stripping name spaces from types

Names of types may start with a name space, such as `defines.`, that is not wanted in a signature. A
prefix is removed where it stands at the start of a token, that is, where the character in front of
it in the given text is neither a word character nor a dot; of several prefixes that fit there the
first one is removed. What is removed is not looked at again, and an empty prefix never fits.

The scan goes over the characters once (`stripChars`). It carries along the character behind it and
the number of characters that are still to be removed, so that it is structural although it removes
several characters at a time. That it looks back at the given text, and not at what is left of it,
is what keeps it from removing a name space that has come to stand at the start of a token only now.
-/

set_option autoImplicit false

namespace ApiReference
namespace Declaration

/-- Whether a token can start after the given character; there is none at the start of a text. -/
def startsToken (previous : Option Char) : Bool :=
  previous.all fun c => !Text.isWord c && c != '.'

/-- The first of the prefixes that is not empty and that the text starts with. -/
def prefixAt? (prefixes : List (List Char)) (cs : List Char) : Option (List Char) :=
  prefixes.find? fun p => !p.isEmpty && p.isPrefixOf cs

/-- The text without the prefixes at its token starts; `skip` more characters are removed first, and
`previous` is the character in front of the text. -/
def stripChars (prefixes : List (List Char)) : Nat → Option Char → List Char → List Char
  | _, _, [] => []
  | skip + 1, _, c :: rest => stripChars prefixes skip (some c) rest
  | 0, previous, c :: rest =>
    match if startsToken previous then prefixAt? prefixes (c :: rest) else none with
    | some p => stripChars prefixes (p.length - 1) (some c) rest
    | none => c :: stripChars prefixes 0 (some c) rest

/-- The text without the prefixes that its tokens start with. -/
def stripPrefixes (prefixes : List String) (text : String) : String :=
  String.ofList (stripChars (prefixes.map String.toList) 0 none text.toList)

end Declaration
end ApiReference
