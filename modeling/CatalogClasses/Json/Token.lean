/-
# Tokens of JSON text

JSON text is cut into tokens: marks, literals, numbers and texts.  The three names
for numbers without a decimal form (`NaN`, `Infinity`, `-Infinity`) are literals too.
-/
import CatalogClasses.Json.Basic
import CatalogClasses.Number.Digits
import CatalogClasses.Number.Nearest

namespace CatalogClasses.Json

open Number

/-! ## The type -/

/-- A token of JSON text. -/
inductive Token where
  | openArray
  | closeArray
  | openObject
  | closeObject
  | comma
  | colon
  | scalar (value : Json)
deriving Repr

/-! ## Texts -/

/-- The value of a digit of base sixteen. -/
def hexValue? (c : Char) : Option Nat :=
  if c.isDigit then some (c.toNat - 48)
  else if 'a' ≤ c ∧ c ≤ 'f' then some (c.toNat - 87)
  else if 'A' ≤ c ∧ c ≤ 'F' then some (c.toNat - 55)
  else none

/-- The value of four digits of base sixteen. -/
def hexQuad? (a b c d : Char) : Option Nat := do
  let a ← hexValue? a
  let b ← hexValue? b
  let c ← hexValue? c
  let d ← hexValue? d
  return ((a * 16 + b) * 16 + c) * 16 + d

/-- The character that a backslash followed by this letter stands for. -/
def shortEscape? : Char → Option Char
  | '"' => some '"'
  | '\\' => some '\\'
  | '/' => some '/'
  | 'b' => some '\x08'
  | 'f' => some '\x0c'
  | 'n' => some '\n'
  | 'r' => some '\r'
  | 't' => some '\t'
  | _ => none

/-- One piece of a text in JSON: a character, half of a character beyond the basic
plane, or the closing quote. -/
inductive Piece where
  | char (c : Char)
  | half (code : Nat)
  | close

/-- The first piece of a text and what follows it; none if the text is cut short, holds
a control character or an escape that there is none of. -/
def piece? : List Char → Option (Piece × List Char)
  | '"' :: rest => some (.close, rest)
  | '\\' :: 'u' :: a :: b :: c :: d :: rest => do
      let code ← hexQuad? a b c d
      if 0xD800 ≤ code ∧ code ≤ 0xDFFF then return (.half code, rest)
      return (.char (Char.ofNat code), rest)
  | '\\' :: c :: rest => do
      let c ← shortEscape? c
      return (.char c, rest)
  | c :: rest => if c.toNat < 32 then none else some (.char c, rest)
  | [] => none

/-- A piece takes at least one character off the text. -/
theorem length_lt_of_piece? {text rest : List Char} {p : Piece}
    (h : piece? text = some (p, rest)) : rest.length < text.length := by
  unfold piece? at h
  split at h
  · cases h; simp
  · obtain ⟨code, -, h⟩ := Option.bind_eq_some_iff.1 h
    split at h <;> cases h <;> simp <;> omega
  · obtain ⟨c, -, h⟩ := Option.bind_eq_some_iff.1 h
    cases h
    simp only [List.length_cons]
    omega
  · split at h <;> cases h; simp
  · cases h

/-- The character made of a first and a second half; halves that do not fit together
have no character of their own and stand for the replacement character. -/
def joinHalves (high low : Nat) : Option Char :=
  if 0xD800 ≤ high ∧ high ≤ 0xDBFF ∧ 0xDC00 ≤ low ∧ low ≤ 0xDFFF
  then some (Char.ofNat (0x10000 + (high - 0xD800) * 0x400 + (low - 0xDC00))) else none

/-- The characters of a text up to its closing quote, and what follows the quote.
The text before is given in reverse; `pending` is a half that waits for its other
half. -/
def textBody? (pending : Option Nat) (done : List Char) (text : List Char) :
    Option (List Char × List Char) :=
  let settled := if pending.isSome then '\uFFFD' :: done else done
  match _h : piece? text with
  | none => none
  | some (.close, rest) => some (settled.reverse, rest)
  | some (.char c, rest) => textBody? none (c :: settled) rest
  | some (.half code, rest) =>
      match pending.bind (joinHalves · code) with
      | some c => textBody? none (c :: done) rest
      | none => textBody? (some code) settled rest
  termination_by text.length
  decreasing_by all_goals exact length_lt_of_piece? _h

/-! ## Numbers -/

/-- A run of digits and what follows it. -/
def digitRun (text : List Char) : List Char × List Char := text.span Char.isDigit

/-- The digits after a decimal point, if there is a point with digits after it. -/
def fractionPart : List Char → Option (List Char) × List Char
  | '.' :: rest => match digitRun rest with
    | ([], _) => (none, '.' :: rest)
    | (ds, rest) => (some ds, rest)
  | rest => (none, rest)

/-- A sign and what follows it. -/
def signPart : List Char → Bool × List Char
  | '-' :: rest => (true, rest)
  | '+' :: rest => (false, rest)
  | rest => (false, rest)

/-- The exponent, if the text goes on with one. -/
def exponentPart : List Char → Option Int × List Char
  | c :: rest =>
      if c = 'e' ∨ c = 'E' then
        let (negative, afterSign) := signPart rest
        match digitRun afterSign with
        | ([], _) => (none, c :: rest)
        | (ds, after) =>
            let e : Int := ofDigits ds
            (some (if negative then -e else e), after)
      else (none, c :: rest)
  | [] => (none, [])

/-- The digits before the point: a zero alone, or digits that do not start with one. -/
def wholePart : List Char → List Char × List Char
  | '0' :: rest => (['0'], rest)
  | text => digitRun text

/-- A number without its sign, and what follows it.  It is an integer unless it has a
fraction or an exponent. -/
def number? (negative : Bool) (text : List Char) : Option (Json × List Char) :=
  match wholePart text with
  | ([], _) => none
  | (whole, rest) =>
      let (fraction, rest) := fractionPart rest
      let (exponent, rest) := exponentPart rest
      match fraction, exponent with
      | none, none =>
          let n : Int := ofDigits whole
          some (.int (if negative then -n else n), rest)
      | _, _ =>
          let ds := whole ++ fraction.getD []
          let power := exponent.getD 0 - (fraction.getD []).length
          some (.float (Binary64.ofDecimal negative (ofDigits ds) power), rest)

/-! ## Tokens -/

/-- The first token of a text that starts with neither white space nor a quote. -/
def plainToken? : List Char → Option (Token × List Char)
  | '[' :: rest => some (.openArray, rest)
  | ']' :: rest => some (.closeArray, rest)
  | '{' :: rest => some (.openObject, rest)
  | '}' :: rest => some (.closeObject, rest)
  | ',' :: rest => some (.comma, rest)
  | ':' :: rest => some (.colon, rest)
  | 'n' :: 'u' :: 'l' :: 'l' :: rest => some (.scalar .null, rest)
  | 't' :: 'r' :: 'u' :: 'e' :: rest => some (.scalar (.bool true), rest)
  | 'f' :: 'a' :: 'l' :: 's' :: 'e' :: rest => some (.scalar (.bool false), rest)
  | 'N' :: 'a' :: 'N' :: rest => some (.scalar (.float .nan), rest)
  | 'I' :: 'n' :: 'f' :: 'i' :: 'n' :: 'i' :: 't' :: 'y' :: rest =>
      some (.scalar (.float (.infinity false)), rest)
  | '-' :: 'I' :: 'n' :: 'f' :: 'i' :: 'n' :: 'i' :: 't' :: 'y' :: rest =>
      some (.scalar (.float (.infinity true)), rest)
  | '-' :: rest => (number? true rest).map fun (value, rest) => (.scalar value, rest)
  | text => (number? false text).map fun (value, rest) => (.scalar value, rest)

/-- The first token of a text that starts with no white space. -/
def token? : List Char → Option (Token × List Char)
  | '"' :: rest =>
      (textBody? none [] rest).map fun (s, rest) => (.scalar (.str (String.ofList s)), rest)
  | text => plainToken? text

/-- The white space between tokens. -/
def isSpace (c : Char) : Bool := c == ' ' || c == '\t' || c == '\n' || c == '\r'

/-- The tokens of a text; none if some part of it is no token.  Every token takes a
character at least, so a text has at most as many tokens as characters. -/
def tokensWithin : Nat → List Char → Option (List Token)
  | _, [] => some []
  | 0, _ :: _ => none
  | fuel + 1, c :: rest =>
      if isSpace c then tokensWithin fuel rest
      else do
        let (token, rest) ← token? (c :: rest)
        let tokens ← tokensWithin fuel rest
        return token :: tokens

/-- The tokens of a text. -/
def tokens? (text : List Char) : Option (List Token) := tokensWithin text.length text

end CatalogClasses.Json
