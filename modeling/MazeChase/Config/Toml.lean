import MazeChase.Toml.Document

/-!
# Configurations as TOML

A configuration file is a TOML document that assigns values to the fields of a configuration.

* `Toml.dialect`: what TOML decides about settings;
* `Config.ofToml?`.
-/

set_option autoImplicit false

namespace MazeChase

/-- TOML ignores surplus items, and an empty table or list stands for the lack of a value. -/
def Toml.dialect : Dialect where
  ignoresSurplus := true
  isUnit
    | .table [] => true
    | .list [] => true
    | _ => false

/-- The configuration that a text describes. -/
def Config.ofToml? (text : String) : Option Config :=
  (Toml.settings? text).bind (Config.ofSettings? Toml.dialect)

end MazeChase
