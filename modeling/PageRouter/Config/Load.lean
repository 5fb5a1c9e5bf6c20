import PageRouter.Config.Encoding
import PageRouter.Config.Faults
import PageRouter.Toml.Document

/-!
# Loading configurations

A configuration is a TOML text that has no faults against the standard views.  It comes from a file, or is the
standard one when no file is named.
-/

set_option autoImplicit false

namespace PageRouter.Config

/-- What is found at the path of a file. -/
inductive File where
  | missing
  | directory
  | content (bytes : ByteArray)

/-- Why a file cannot be read as text. -/
inductive FileFault where
  | noSuchFile
  | isDirectory
  | notUnicode
deriving DecidableEq, Repr

/-- The wording of a file fault. -/
def FileFault.message : FileFault → String
  | .noSuchFile => "No such file or directory (os error 2)"
  | .isDirectory => "Is a directory (os error 21)"
  | .notUnicode => "stream did not contain valid UTF-8"

/-- Why a configuration cannot be loaded. -/
inductive LoadError where
  | unreadable (fault : FileFault)
  /-- The text is no TOML, or is no configuration. -/
  | malformed
  | invalid (faults : List Fault)
deriving DecidableEq, Repr

/-- The wording of a load error.  What is wrong with a malformed text is not told. -/
def LoadError.message : LoadError → String
  | .unreadable fault => "IO error: " ++ fault.message
  | .malformed => "Parse error"
  | .invalid faults => "Validation failed: " ++ joinFaults faults

/-- A configuration that has no faults against the standard views. -/
def checked (c : Config) : Except LoadError Config :=
  match c.validate .standard with
  | .ok () => .ok c
  | .error faults => .error (.invalid faults)

/-- Read a configuration from a TOML text, without looking for faults. -/
def ofToml? (text : String) : Option Config := (Toml.parse? text).bind (ofValue? .toml)

/-- Read a configuration from a TOML text. -/
def parse (text : String) : Except LoadError Config :=
  match ofToml? text with
  | some c => c.checked
  | none => .error .malformed

/-- The text of a file. -/
def File.text : File → Except FileFault String
  | .missing => .error .noSuchFile
  | .directory => .error .isDirectory
  | .content bytes =>
    match String.fromUTF8? bytes with
    | some text => .ok text
    | none => .error .notUnicode

/-- Load a configuration from a file. -/
def load (file : File) : Except LoadError Config := do
  parse (← file.text.mapError .unreadable)

/-- Load a configuration from a file, or take the standard one if there is none. -/
def loadOrStandard : Option File → Except LoadError Config
  | some file => load file
  | none => standard.checked

end PageRouter.Config
