/-
# Options of generation

The options are read field by field from an object that nobody has checked, so each
keeps the value it was given; what an option means is decided where it is used.
-/
import CatalogClasses.Fault
import CatalogClasses.Text.Search

namespace CatalogClasses

/-! ## Looking for a value in another -/

/-- The value holds the item: a list holds its elements, a text the texts inside it, an
object its keys.  Nothing else holds anything. -/
def Json.holds : Json → Json → Fallible Bool
  | .arr elements, item => .ok (elements.any (·.same item))
  | .str text, .str part => .ok (Text.occursIn part.toList text.toList)
  | .obj fields, .str key => .ok (Json.lookup key fields).isSome
  | .obj _, .arr _ => malformed .notAKey
  | .obj _, .obj _ => malformed .notAKey
  | .obj _, _ => .ok false
  | _, _ => malformed .noMembership

/-- The parts of a value, in order: the elements of a list, the characters of a text,
the keys of an object. -/
def Json.parts : Json → Fallible (List Json)
  | .arr elements => .ok elements
  | .str text => .ok (text.toList.map fun c => .str (String.singleton c))
  | .obj fields => .ok (fields.map fun field => .str field.1)
  | _ => malformed .noParts

/-! ## The options -/

/-- The options of generation. -/
structure Options where
  /-- The names of arguments to leave out everywhere. -/
  exclude : Json
  /-- Generate hidden arguments too. -/
  includeHidden : Json
  /-- Generate a collection as a single value that is wrapped on assignment. -/
  lift : Json
  /-- Put a comment at the top of the file. -/
  addComment : Json
  /-- The namespace around the classes; an empty one is none. -/
  namespaceName : Json
  /-- The namespaces that the file opens. -/
  usings : Json
  /-- The ending of every class name. -/
  classSuffix : Json
  /-- What a setting has put in the place of the test for excluded names. -/
  exclusionTest? : Option Json
  /-- What a setting has put in the place of the list of settings. -/
  listing? : Option Json
deriving Repr

namespace Options

/-- The options when nothing is set. -/
def standard : Options where
  exclude := .arr []
  includeHidden := .bool false
  lift := .bool true
  addComment := .bool true
  namespaceName := .str ""
  usings := .arr (["System", "System.Linq", "Microsoft.ML", "Microsoft.ML.CommandLine",
    "Microsoft.ML.Data", "Microsoft.ML.Internal.Internallearn"].map .str)
  classSuffix := .str ""
  exclusionTest? := none
  listing? := none

/-! ## Settings -/

/-- The options with one setting changed.  A key that is no setting changes nothing. -/
def set (options : Options) (key : String) (value : Json) : Options :=
  match key with
  | "exclude" => { options with exclude := value }
  | "include_hidden" => { options with includeHidden := value }
  | "lift_generic_collections" => { options with lift := value }
  | "add_generation_comment" => { options with addComment := value }
  | "csharp_namespace" => { options with namespaceName := value }
  | "csharp_usings" => { options with usings := value }
  | "class_suffix" => { options with classSuffix := value }
  | "is_excluded" => { options with exclusionTest? := some value }
  | "to_dict" => { options with listing? := some value }
  | _ => options

/-- The options with each setting of a list changed in turn. -/
def setAll (options : Options) (settings : List (String × Json)) : Options :=
  settings.foldl (fun options setting => options.set setting.1 setting.2) options

/-- The options that a table of all attributes makes up.  What is not in the table has its
standing value, but for the names to leave out and the namespaces to open, which have none. -/
def ofAttributes (table : List (String × Json)) : Fallible Options :=
  if (Json.lookup "exclude" table).isSome && (Json.lookup "csharp_usings" table).isSome
  then .ok (standard.setAll table)
  else malformed .notAnObject

/-- The options after one setting of an object.  A key may also name what options are made
of: their class and the references to them, which are not to be set, and the table of
their attributes, which only another table can take the place of. -/
def assign (options : Options) (key : String) (value : Json) : Fallible Options :=
  match key with
  | "__class__" => malformed .noMembership
  | "__weakref__" => malformed .notAnObject
  | "__dict__" => match value with
    | .obj table => ofAttributes table
    | _ => malformed .noMembership
  | _ => .ok (options.set key value)

/-- The options after each setting of an object in turn. -/
def assignAll (options : Options) : List (String × Json) → Fallible Options
  | [] => .ok options
  | (key, value) :: rest => do
      let options ← options.assign key value
      options.assignAll rest

/-- The options that an object gives. -/
def ofJson : Json → Fallible Options
  | .obj fields => standard.assignAll fields
  | _ => malformed .notAnObject

/-- The settings that make up the options, each under its key. -/
def settings (options : Options) : List (String × Json) :=
  [("exclude", options.exclude), ("include_hidden", options.includeHidden),
    ("lift_generic_collections", options.lift),
    ("add_generation_comment", options.addComment),
    ("csharp_namespace", options.namespaceName), ("csharp_usings", options.usings),
    ("class_suffix", options.classSuffix)]

/-- The settings as an object. -/
def toJson (options : Options) : Fallible Json :=
  match options.listing? with
  | some _ => malformed .notCallable
  | none => .ok (.obj options.settings)

/-! ## Excluded names -/

/-- The name is to be left out. -/
def isExcluded (options : Options) (name : Json) : Fallible Bool :=
  match options.exclusionTest? with
  | some _ => malformed .notCallable
  | none => options.exclude.holds name

/-- The test for excluded names, for use while a catalog is read.  There is none if a
setting has put null in its place. -/
def exclusion? (options : Options) : Option (Json → Fallible Bool) :=
  match options.exclusionTest? with
  | some .null => none
  | _ => some options.isExcluded

end Options

end CatalogClasses
