/-
# Members of a generated class

The lines of the three parts that are generated for an argument: the field that
stores its value, the property that gives access to it, and the statement that
assigns it into the object of arguments.
-/
import CatalogClasses.Layout
import CatalogClasses.Json.Text
import CatalogClasses.Shape
import CatalogClasses.Text.Markup

namespace CatalogClasses

/-- A text that begins with something visible is not blank. -/
theorem visible_append {first : String} (h : Text.allBlank first.toList = false)
    (second : String) : Text.allBlank (first ++ second).toList = false := by
  rw [String.toList_append, Text.allBlank_append, h]
  rfl

/-! ## Fields -/

/-- A private field, with its initial value if it has one, and an empty line. -/
def fieldLines (typeName : Json) (name : String) (initial? : Option String) : List String :=
  let initial := match initial? with
    | some literal => " = " ++ literal
    | none => ""
  ["private " ++ typeName.text ++ " " ++ name ++ initial ++ ";", ""]

/-- The declaration of a field is not blank, and the line after it is empty. -/
theorem visible_fieldLines (typeName : Json) (name : String) (initial? : Option String) :
    ∀ line ∈ fieldLines typeName name initial?,
      line = "" ∨ Text.allBlank line.toList = false := by
  intro line h
  simp only [fieldLines, String.append_assoc, List.mem_cons, List.not_mem_nil, or_false] at h
  rcases h with rfl | rfl
  · exact Or.inr (visible_append (by decide) _)
  · exact Or.inl rfl

/-! ## Summary comments -/

/-- The text without the white space at its end. -/
def trimmedEnd (text : String) : String := String.ofList (Text.trimEnd text.toList)

/-- The lines of a summary after its first one. -/
def summaryTail : List String → List String
  | [] => []
  | [last] => ["/// " ++ last ++ " </summary>"]
  | line :: rest => trimmedEnd ("/// " ++ line) :: summaryTail rest

/-- The summary comment of some lines: every line is a comment line of its own. -/
def summaryOfLines : List String → List String
  | [] => ["/// <summary>  </summary>"]
  | [only] => ["/// <summary> " ++ only ++ " </summary>"]
  | first :: rest => trimmedEnd ("/// <summary> " ++ first) :: summaryTail rest

/-- The summary comment of a text, which is written as text inside markup. -/
def summaryLines (text : String) : List String :=
  summaryOfLines ((Text.splitLines (Text.escapeMarkup text.toList)).map String.ofList)

/-- A comment line whose end is trimmed is not blank. -/
theorem visible_trimmedEnd {first : String} (h : Text.allBlank first.toList = false)
    (hend : Text.trimEnd first.toList = first.toList) (second : String) :
    Text.allBlank (trimmedEnd (first ++ second)).toList = false := by
  rw [trimmedEnd, String.toList_ofList, String.toList_append, Text.trimEnd_append]
  split
  · rw [hend]
    exact h
  · rw [Text.allBlank_append, h]
    rfl

/-- No line of a summary after its first one is blank. -/
theorem visible_summaryTail (lines : List String) :
    ∀ line ∈ summaryTail lines, Text.allBlank line.toList = false := by
  induction lines with
  | nil => intro line h; cases h
  | cons first rest ih =>
    intro line h
    cases rest with
    | nil =>
      rw [summaryTail, List.mem_singleton] at h
      rw [h, String.append_assoc]
      exact visible_append (by decide) _
    | cons second rest =>
      rw [summaryTail] at h
      rcases List.mem_cons.1 h with rfl | h
      · rw [show "/// " ++ first = "///" ++ (" " ++ first) from by
          rw [← String.append_assoc]; rfl]
        exact visible_trimmedEnd (by decide) (by decide) _
      · exact ih line h
      · exact fun hnil => List.cons_ne_nil _ _ hnil

/-- No line of a summary comment is blank. -/
theorem visible_summaryOfLines (lines : List String) :
    ∀ line ∈ summaryOfLines lines, Text.allBlank line.toList = false := by
  intro line h
  cases lines with
  | nil =>
    rw [summaryOfLines, List.mem_singleton] at h
    rw [h]
    decide
  | cons first rest =>
    cases rest with
    | nil =>
      rw [summaryOfLines, List.mem_singleton] at h
      rw [h, String.append_assoc]
      exact visible_append (by decide) _
    | cons second rest =>
      rw [summaryOfLines] at h
      rcases List.mem_cons.1 h with rfl | h
      · rw [show "/// <summary> " ++ first = "/// <summary>" ++ (" " ++ first) from by
          rw [← String.append_assoc]; rfl]
        exact visible_trimmedEnd (by decide) (by decide) _
      · exact visible_summaryTail _ line h
      · exact fun hnil => List.cons_ne_nil _ _ hnil

/-! ## Properties -/

/-- What the summary of a property says before the text about the argument. -/
def propertyPhrase (isBoolean : Bool) : String :=
  if isBoolean then "Gets or sets a value indicating whether " else "Gets or sets "

/-- The name with its first letter as a capital. -/
def capitalized (name : String) : String := String.ofList (Text.capitalize name.toList)

/-- A documented public property that reads and writes the field with its name.  The
name of the field takes the place of a missing help text. -/
def propertyLines (typeName : Json) (name : String) (isBoolean : Bool) (help : Json) :
    List String :=
  let subject := match help with
    | .null => name
    | help => help.text
  summaryLines (propertyPhrase isBoolean ++ subject) ++
    ["public " ++ typeName.text ++ " " ++ capitalized name,
      "\x7b",
      "    get \x7b return " ++ name ++ "; \x7d",
      "    set \x7b " ++ name ++ " = value; \x7d",
      "\x7d",
      ""]

/-- No line of a property is blank, and the line after it is empty. -/
theorem visible_propertyLines (typeName : Json) (name : String) (isBoolean : Bool)
    (help : Json) :
    ∀ line ∈ propertyLines typeName name isBoolean help,
      line = "" ∨ Text.allBlank line.toList = false := by
  intro line h
  rcases List.mem_append.1 h with h | h
  · exact Or.inr (visible_summaryOfLines _ line h)
  · simp only [String.append_assoc, List.mem_cons, List.not_mem_nil, or_false] at h
    rcases h with rfl | rfl | rfl | rfl | rfl | rfl
    · exact Or.inr (visible_append (by decide) _)
    · exact Or.inr (by decide)
    · exact Or.inr (visible_append (by decide) _)
    · exact Or.inr (visible_append (by decide) _)
    · exact Or.inr (by decide)
    · exact Or.inl rfl

/-! ## Assignments -/

/-- The name of the object of arguments with a suffix. -/
def argumentsObject (suffix : String) : String := "args" ++ suffix

/-- The statement that assigns a member into the object of arguments.  Columns are read
one by one by their type; a single value that stands for a collection is wrapped. -/
def assignmentLine (shape : Shape) (longName name suffix : String) (columnType : Json)
    (lifted : Bool) : String :=
  let target := argumentsObject suffix ++ "." ++ longName
  match shape, lifted with
  | .columnCollection, _ =>
      target ++ " = " ++ name ++ ".Select(" ++ columnType.text ++ ".Parse).ToArray();"
  | .genericCollection, true => target ++ " = new[] \x7b " ++ name ++ " \x7d;"
  | _, _ => target ++ " = " ++ name ++ ";"

/-- The statement that makes the object of arguments of a group. -/
def groupOpenLine (typeName : Json) (suffix : String) : String :=
  "var " ++ argumentsObject suffix ++ " = new " ++ typeName.text ++ "();"

/-- The statement that assigns the object of arguments of a group into the one around
it. -/
def groupCloseLine (longName parentSuffix suffix : String) : String :=
  argumentsObject parentSuffix ++ "." ++ longName ++ " = " ++ argumentsObject suffix ++ ";"

theorem visible_assignmentLine (shape : Shape) (longName name suffix : String)
    (columnType : Json) (lifted : Bool) :
    Text.allBlank (assignmentLine shape longName name suffix columnType lifted).toList =
      false := by
  unfold assignmentLine
  split <;> simp only [argumentsObject, String.append_assoc] <;>
    exact visible_append (by decide) _

theorem visible_groupOpenLine (typeName : Json) (suffix : String) :
    Text.allBlank (groupOpenLine typeName suffix).toList = false := by
  simp only [groupOpenLine, String.append_assoc]
  exact visible_append (by decide) _

theorem visible_groupCloseLine (longName parentSuffix suffix : String) :
    Text.allBlank (groupCloseLine longName parentSuffix suffix).toList = false := by
  simp only [groupCloseLine, argumentsObject, String.append_assoc]
  exact visible_append (by decide) _

end CatalogClasses
