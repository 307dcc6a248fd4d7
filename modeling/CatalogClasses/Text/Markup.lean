/-
# Text inside markup

A documentation comment is markup, so the three characters that markup gives a
meaning are written as entities.
-/

namespace CatalogClasses.Text

/-- The text with `&`, `<` and `>` written as entities. -/
def escapeMarkup : List Char → List Char
  | [] => []
  | '&' :: rest => '&' :: 'a' :: 'm' :: 'p' :: ';' :: escapeMarkup rest
  | '<' :: rest => '&' :: 'l' :: 't' :: ';' :: escapeMarkup rest
  | '>' :: rest => '&' :: 'g' :: 't' :: ';' :: escapeMarkup rest
  | c :: rest => c :: escapeMarkup rest

/-- The text with the three entities read back; every other character, also an `&`
that begins no entity, stays as it is. -/
def unescapeMarkup : List Char → List Char
  | [] => []
  | '&' :: 'a' :: 'm' :: 'p' :: ';' :: rest => '&' :: unescapeMarkup rest
  | '&' :: 'l' :: 't' :: ';' :: rest => '<' :: unescapeMarkup rest
  | '&' :: 'g' :: 't' :: ';' :: rest => '>' :: unescapeMarkup rest
  | c :: rest => c :: unescapeMarkup rest

end CatalogClasses.Text
