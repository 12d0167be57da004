import DatabaseSync.Library.Text

/-! # Spatial type names

The last part of a PostgreSQL type name, read with its quotes, and the PostGIS types among
these names.
-/

namespace DatabaseSync.ChangeEvent

open Text

/-- The characters of a type name after its last dot and before its modifiers. Dots and
parentheses inside quotes do not count. -/
def scanTypeName : List Char → Bool → List Char → Option (List Char)
  | [], quoted, name => if quoted then none else some name.reverse
  | c :: rest, quoted, name =>
    if c = '"' then scanTypeName rest (!quoted) (c :: name)
    else if c = '(' ∧ !quoted then some name.reverse
    else if c = '.' ∧ !quoted then scanTypeName rest quoted []
    else scanTypeName rest quoted (c :: name)

/-- The unqualified name of a type, and whether it is quoted. -/
def unqualifiedTypeName (nativeType : String) : Option (String × Bool) := do
  let name ← scanTypeName (trim nativeType).toList false []
  let name := trim (String.ofList name)
  match name.toList with
  | '"' :: rest =>
    match rest.reverse with
    | '"' :: inner => some (String.ofList inner.reverse, true)
    | _ => none
  | _ => if containsChar name '"' then none else some (name, false)

inductive PostgisKind
  | geometry
  | geography
deriving DecidableEq, Repr

/-- A quoted identifier is case-sensitive. -/
def postgisNativeKind (nativeType : String) : Option PostgisKind := do
  let (name, quoted) ← unqualifiedTypeName nativeType
  let name := if quoted then name else toAsciiLowercase name
  if name = "geometry" then some .geometry
  else if name = "geography" then some .geography
  else none

def isGeographyNativeType (nativeType : String) : Bool :=
  postgisNativeKind nativeType = some .geography

example : postgisNativeKind "public.geometry(Point,4326)" = some .geometry := by decide +kernel
example : postgisNativeKind "\"Public\".\"Geography\"" = none := by decide +kernel

end DatabaseSync.ChangeEvent
