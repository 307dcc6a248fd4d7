/-
# Reading the command line

The words of a command line are options, values of options, and positional values.
Options may stand anywhere; after a double dash everything is a positional value.
-/
import CatalogClasses.Text.Search

namespace CatalogClasses.CommandLine

/-! ## Options -/

/-- The options that take a value. -/
inductive ValueOption where
  | config
  | exclude
  | component
  | namespaceName
deriving DecidableEq, Repr

/-- The options that take none. -/
inductive Switch where
  | verbose
  | help
deriving DecidableEq, Repr

/-- An option. -/
inductive OptionName where
  | value (option : ValueOption)
  | switch (switch : Switch)
deriving DecidableEq, Repr

/-- The option with this long name. -/
def longOption? : String → Option OptionName
  | "--config" => some (.value .config)
  | "--exclude" => some (.value .exclude)
  | "--component" => some (.value .component)
  | "--namespace" => some (.value .namespaceName)
  | "--verbose" => some (.switch .verbose)
  | "--help" => some (.switch .help)
  | _ => none

/-- The option with this letter. -/
def shortOption? : Char → Option OptionName
  | 'c' => some (.value .config)
  | 'x' => some (.value .exclude)
  | 'k' => some (.value .component)
  | 'n' => some (.value .namespaceName)
  | 'v' => some (.switch .verbose)
  | _ => none

/-! ## What is given -/

/-- All that a command line gives. -/
structure Given where
  config? : Option String
  exclude : List String
  component : List String
  namespaceName? : Option String
  verbose : Bool
  help : Bool
  positional : List String
deriving Repr

namespace Given

/-- Nothing is given. -/
def nothing : Given := ⟨none, [], [], none, false, false, []⟩

/-- One more value of an option.  The last value counts, unless the option may be
repeated. -/
def addValue (given : Given) (value : String) : ValueOption → Given
  | .config => { given with config? := some value }
  | .exclude => { given with exclude := given.exclude ++ [value] }
  | .component => { given with component := given.component ++ [value] }
  | .namespaceName => { given with namespaceName? := some value }

/-- A switch is set. -/
def addSwitch (given : Given) : Switch → Given
  | .verbose => { given with verbose := true }
  | .help => { given with help := true }

/-- More positional values. -/
def addPositional (given : Given) (values : List String) : Given :=
  { given with positional := given.positional ++ values }

end Given

/-! ## Words -/

/-- What one word says: switches, and then perhaps an option that takes a value, with
the value if it stands in the same word. -/
structure Word where
  switches : List Switch
  option? : Option (ValueOption × Option String)

/-- A word of one option, and the value in the same word, if there is one.  A switch
takes no value. -/
def wordOf : OptionName → Option String → Option Word
  | .value option, value? => some ⟨[], some (option, value?)⟩
  | .switch switch, none => some ⟨[switch], none⟩
  | .switch _, some _ => none

/-- The parts of a word before and after the first equals sign, if it has one. -/
def splitEquals : List Char → List Char × Option (List Char)
  | [] => ([], none)
  | c :: rest =>
      if c = '=' then ([], some rest)
      else
        let (name, value?) := splitEquals rest
        (c :: name, value?)

/-- What a word with a long option says. -/
def longWord? (word : List Char) : Option Word := do
  let (name, value?) := splitEquals word
  let option ← longOption? (String.ofList name)
  wordOf option (value?.map String.ofList)

/-- What the letters after a single dash say.  What follows the letter of an option that
takes a value is its value. -/
def shortWord? : List Char → Option Word
  | [] => some ⟨[], none⟩
  | letter :: rest => match shortOption? letter with
    | none => none
    | some (.value option) =>
        some ⟨[], some (option, if rest.isEmpty then none else some (String.ofList rest))⟩
    | some (.switch switch) => do
        let word ← shortWord? rest
        return { word with switches := switch :: word.switches }

/-- What a word says that starts with a dash and goes on. -/
def optionWord? : List Char → Option Word
  | '-' :: '-' :: rest => longWord? ('-' :: '-' :: rest)
  | '-' :: rest => shortWord? rest
  | _ => none

/-- The word is an option: a dash with something after it. -/
def isOption : List Char → Bool
  | '-' :: _ :: _ => true
  | _ => false

/-! ## The command line -/

/-- All that the words of a command line give, added to what is given already; none if
an option is unknown or lacks its value. -/
def readWords (given : Given) : List String → Option Given
  | [] => some given
  | word :: rest =>
      if word = "--" then some (given.addPositional rest)
      else if isOption word.toList then
        match optionWord? word.toList with
        | none => none
        | some ⟨switches, option?⟩ =>
            let given := switches.foldl Given.addSwitch given
            match option?, rest with
            | none, rest => readWords given rest
            | some (option, some value), rest => readWords (given.addValue value option) rest
            | some (option, none), value :: rest =>
                readWords (given.addValue value option) rest
            | some (_, none), [] => none
      else readWords (given.addPositional [word]) rest

end CatalogClasses.CommandLine
