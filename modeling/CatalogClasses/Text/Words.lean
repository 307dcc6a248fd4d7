/-
# Words of a name

A component is named by words in one of several spellings (`text_normalizer`,
`linearSvm`, `first 3 rows`); its class is named by the same words, each with a
capital, run together.
-/

namespace CatalogClasses.Text

/-! ## Cutting a name into words -/

/-- The words of a name: a letter with the small letters that follow it, or a run of
digits.  Only the letters and digits of ASCII make words; all else separates them. -/
def words : List Char → List (List Char)
  | [] => []
  | c :: rest =>
      if c.isAlpha then (c :: rest.takeWhile Char.isLower) :: words (rest.dropWhile Char.isLower)
      else if c.isDigit then
        (c :: rest.takeWhile Char.isDigit) :: words (rest.dropWhile Char.isDigit)
      else words rest
  termination_by name => name.length
  decreasing_by
    · exact Nat.lt_succ_of_le (List.dropWhile_sublist _).length_le
    · exact Nat.lt_succ_of_le (List.dropWhile_sublist _).length_le
    · simp

/-! ## Running words together -/

/-- A word with its first letter as a capital and the others small. -/
def capitalizeWord : List Char → List Char
  | [] => []
  | c :: rest => c.toUpper :: rest.map Char.toLower

/-- The words of a name, capitalized and run together. -/
def pascalCase (name : List Char) : List Char := (words name).flatMap capitalizeWord

end CatalogClasses.Text
