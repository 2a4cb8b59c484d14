import PauseWatch.Config.Validation
import PauseWatch.Toml.Document

/-!
# Loading configurations

The configuration is read from the first file that exists: one that is named, or one in the working
directory and then one in the directory that the user keeps configurations in. Without a file the
defaults hold. How a text stands for a configuration is left to a decoder, and what it says against
a text is kept. What is loaded always makes sense.
-/

namespace PauseWatch

/-- What is found under a path. -/
inductive FileRead where
  /-- Nothing. -/
  | missing
  /-- Something that cannot be read, and why. -/
  | unreadable (cause : String)
  /-- A file with its bytes. -/
  | content (bytes : List UInt8)
  deriving DecidableEq, Repr

namespace Config

/-- Makes a configuration from a text, or says why the text is none. -/
abbrev Decoder := String → Except String Config

/-- A name in a document. A table stands for the name of its only entry if that is empty. -/
def plainName : Json → Json
  | .obj [(name, .obj [])] => .str name
  | .obj [(name, .arr [])] => .str name
  | value => value

/-- A scenario in a document, with the names in it as texts. -/
def plainScenario : Json → Json
  | .obj entries => .obj (entries.map fun (key, value) =>
      (key, if key ∈ ["mode", "stream"] then plainName value else value))
  | value => value

/-- The configuration that a document stands for. -/
def ofDocument? : Json → Option Config
  | .obj entries => ofJson? (.obj (entries.map fun (key, value) =>
      match key, value with
      | "scenario", .arr items => (key, .arr (items.map plainScenario))
      | _, _ => (key, value)))
  | value => ofJson? value

/-- The configuration in a TOML text. -/
def ofToml : Decoder := fun text =>
  match Toml.ofText? text with
  | none => .error "the text is no TOML document"
  | some document =>
    match ofDocument? document with
    | none => .error "the document is no configuration"
    | some c => .ok c

/-- The configuration in a file, which has to be text, of the right form, and to make sense. -/
def ofFile (decode : Decoder) (path : String) : FileRead → Except ConfigError Config
  | .missing => validate {}
  | .unreadable cause => .error (.unreadable path cause)
  | .content bytes =>
    match Text.Utf8.decode? bytes with
    | none => .error (.unreadable path "stream did not contain valid UTF-8")
    | some text =>
      match decode text with
      | .error cause => .error (.malformed path cause)
      | .ok c => c.validate

/-- The first path under which there is something. -/
def findFile? (look : String → FileRead) (paths : List String) : Option String :=
  paths.find? fun path => look path != .missing

/-- The configuration in the first file that exists, or the defaults. -/
def load (decode : Decoder) (look : String → FileRead) (paths : List String) :
    Except ConfigError Config :=
  match findFile? look paths with
  | none => .ok {}
  | some path => ofFile decode path (look path)

/-- The file in the working directory. -/
def localFile : String := ".gc-harness.toml"

/-- The directory that the user keeps configurations in. A directory that the environment names has
to be absolute to count. -/
def userDirectory? (env : Environment) : Option (List UInt8) :=
  match env.get? "XDG_CONFIG_HOME" with
  | some (47 :: rest) => some (47 :: rest)
  | _ =>
    match env.get? "HOME" with
    | some (byte :: bytes) => some (below (byte :: bytes) ".config")
    | _ => none

/-- Where a configuration is looked for when no file is named. -/
def searchPaths (env : Environment) : List String :=
  localFile :: ((userDirectory? env).map fun dir =>
    Text.Utf8.decode (below dir "gc-harness/config.toml")).toList

/-- Where a configuration is looked for. -/
def pathsFor (env : Environment) : Option String → List String
  | some path => [path]
  | none => searchPaths env

end Config

end PauseWatch
