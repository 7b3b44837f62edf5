import LogicalNet.Document.Codec
import LogicalNet.Document.JsonReader
import LogicalNet.Document.YamlReader
import LogicalNet.Document.YamlWriter
import LogicalNet.Text.Pieces

/-!
# Formats of files

A file holds JSON when its name ends in `.json`, in any case, and YAML otherwise.
A name that starts with its only dot has no ending.
-/

namespace LogicalNet
namespace Document

inductive Format where
  | json
  | yaml
  deriving DecidableEq

namespace Format

def text : Format → String
  | json => "json"
  | yaml => "yaml"

/-- The last part of a path that is not a bare dot. -/
def fileName (path : List Char) : List Char :=
  let parts := (Text.pieces '/' path).filter fun s => !(s.isEmpty || s == ['.'])
  parts.getLastD []

def ofPath (path : String) : Format :=
  match Text.cutLast? '.' (fileName path.toList) with
  | some (stem, ending) =>
      if !stem.isEmpty && String.ofList (ending.map Char.toLower) == "json" then json else yaml
  | none => yaml

def read? : Format → String → Option Document
  | json, s => ofPassableJson? s
  | yaml, s => ofYaml? s

def write : Format → Document → String
  | json, d => d.indented
  | yaml, d => d.yaml

end Format

/-! ## Loading -/

/-- What a file is loaded as. -/
inductive FileRole where
  | settings
  | securityGroup
  deriving DecidableEq

def FileRole.text : FileRole → String
  | settings => "northbound config"
  | securityGroup => "security group"

inductive LoadError where
  | missing (role : FileRole)
  | malformed (role : FileRole) (format : Format)
  deriving DecidableEq

def LoadError.message : LoadError → String
  | missing role => "could not read " ++ role.text
  | malformed role format => "parsing " ++ role.text ++ " " ++ format.text

variable {α : Type}

def load [Codec α] (role : FileRole) (format : Format) (text : String) : Except LoadError α :=
  match (format.read? text).bind decode? with
  | some a => .ok a
  | none => .error (.malformed role format)

end Document
end LogicalNet
