import PageRouter.Url.Reference

/-!
# Locations

A location is where navigation stands: a path, which alone decides the route, with an optional query and an
optional fragment.  `Location.parse` reads one from an address or from a path.  Dot segments are resolved and
repeated slashes are collapsed, so that `//make` and `/order/../make` are both `/make`.
-/

set_option autoImplicit false

namespace PageRouter

/-- Where navigation stands. -/
structure Location where
  path : String
  query : Option String
  fragment : Option String
deriving DecidableEq, Repr, Inhabited

namespace Location

/-- Why a text is not a location. -/
structure Fault where
  input : String
  cause : Url.Fault
deriving DecidableEq, Repr

/-- The wording of a fault. -/
def Fault.message (f : Fault) : String :=
  "invalid location `" ++ f.input ++ "`: " ++ f.cause.message

/-- The location with nothing but the root path. -/
def root : Location := ⟨"/", none, none⟩

/-- Whether a text begins with a slash of either kind. -/
def isRooted (text : String) : Bool :=
  match text.toList with
  | c :: _ => c == '/' || c == '\\'
  | [] => false

/-- The reference that a text stands for.  A text that begins with slashes is a path, so that nothing in it
is read as a host. -/
def reference (text : String) : String := if isRooted text then "." ++ text else text

/-- What a location keeps of an address. -/
def ofParts (parts : Url.Parts) : Location where
  path := String.ofList (Path.collapseChars parts.path)
  query := parts.query.map String.ofList
  fragment := parts.fragment.map String.ofList

/-- Read a location. -/
def parse (input : String) : Except Fault Location :=
  match Url.resolve (reference input) with
  | .ok parts => .ok (ofParts parts)
  | .error cause => .error ⟨input, cause⟩

/-- A location as a text, from which it can be read again. -/
def display (l : Location) : String :=
  l.path ++ (l.query.elim "" ("?" ++ ·)) ++ (l.fragment.elim "" ("#" ++ ·))

end Location

end PageRouter
