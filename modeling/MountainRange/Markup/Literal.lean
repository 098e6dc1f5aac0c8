import MountainRange.Text.Digit
import MountainRange.Text.Split
set_option autoImplicit false

/-!
# Literals

The parameters of an action in markup are a name, which may be followed by a literal in
brackets, or a literal alone: a constant, a number, strings, or a sequence or table of
literals.  Only whether a text is one matters, for nothing is ever done with it.
-/

namespace MountainRange.Markup.Literal

/-- A lexical unit. -/
inductive Token where
  /-- A number; `imaginary` if it is a multiple of the imaginary unit. -/
  | number (imaginary : Bool)
  | text
  | word (name : Text)
  | mark (c : Letter)
  deriving DecidableEq, Repr

/-! ## Lexical units -/

/-- Whether a character may stand in a word. -/
def isWordChar (c : Letter) : Bool := c.isAlphanum || c = '_' || 0x80 ≤ c.toNat

/-- What follows the end of a string, given the quote that opened it. -/
def skipString (quote : Letter) : Text → Option Text
  | [] => none
  | .char '\\' :: _ :: rest => skipString quote rest
  | c :: rest => if c = quote then some rest else if c = '\n' then none else skipString quote rest

/-- Whether digits of a numeral have single underscores between them only. -/
def areDigits (t : Text) : Bool :=
  (Text.splitAt (· = '_') t).all fun part => !part.isEmpty && part.all Letter.isDigit

/-- Whether a text is a numeral without exponent. -/
def isDecimal (t : Text) : Bool :=
  match Text.splitAt (· = '.') t with
  | [whole] => areDigits whole && (whole.head? ≠ some '0' || whole.all fun c => c = '0' || c = '_')
  | [whole, fraction] =>
      (whole.isEmpty || areDigits whole) && (fraction.isEmpty || areDigits fraction) && 1 < t.length
  | _ => false

/-- The numeral that a run of characters is, if it is one. -/
def number? (t : Text) : Option Token :=
  let imaginary := t.getLast? = some 'j' || t.getLast? = some 'J'
  let body := if imaginary then t.dropLast else t
  if isDecimal body || (imaginary && areDigits body) then some (.number imaginary) else none

/-- The unit of a run of characters. -/
def runToken? (t : Text) : Option Token :=
  if t.head?.any fun (c : Letter) => c.isDigit || c = '.' then number? t else some (.word t)

/-- The units of a text. -/
def tokens? : Text → Option (List Token)
  | [] => some []
  | c :: rest =>
      if c = ' ' || c = '\t' then tokens? rest
      else if c.toNat = 0x22 || c.toNat = 0x27 then
        match skipString c rest with
        | none => none
        | some after =>
            if after.length < (c :: rest).length then (tokens? after).map (.text :: ·) else none
      else if isWordChar c || c = '.' then
        let run := (c :: rest).takeWhile fun c => isWordChar c || c = '.'
        match runToken? run with
        | none => none
        | some token => (tokens? (rest.drop (run.length - 1))).map (token :: ·)
      else (tokens? rest).map (.mark c :: ·)
termination_by cs => cs.length
decreasing_by
  · exact Nat.lt_succ_self _
  · assumption
  · rw [List.length_cons, List.length_drop]
    omega
  · exact Nat.lt_succ_self _

/-! ## Literals -/

/-- What follows the second part of a number that has two, if it has. -/
def dropImaginary : List Token → List Token
  | .mark sign :: .number true :: rest =>
      if sign = '+' || sign = '-' then rest else .mark sign :: .number true :: rest
  | tokens => tokens

/-- What follows a number. -/
def dropNumber? : List Token → Option (List Token)
  | .number true :: rest => some rest
  | .number false :: rest => some (dropImaginary rest)
  | _ => none

/-- The words that are literals. -/
def constants : List Text := ["None", "True", "False"]

mutual

/-- What follows a literal; `fuel` bounds the depth. -/
def dropLiteral? : (fuel : Nat) → List Token → Option (List Token)
  | 0, _ => none
  | _, .text :: rest => some (rest.dropWhile (· = .text))
  | fuel + 1, .mark c :: rest =>
      if c = '+' || c = '-' then dropNumber? rest
      else if c = '(' then
        if rest.head? = some (.mark ')') then some (rest.drop 1) else dropItems? fuel ')' rest
      else if c = '\x7b' then
        if rest.head? = some (.mark '\x7d') then some (rest.drop 1) else dropItems? fuel '\x7d' rest
      else none
  | _, .word name :: rest =>
      if constants.contains name then some rest
      else if name = "set" && rest.take 2 = [.mark '(', .mark ')'] then some (rest.drop 2)
      else none
  | _, tokens => dropNumber? tokens

/-- What follows literals between commas and the bracket at their end. -/
def dropItems? : (fuel : Nat) → (close : Letter) → List Token → Option (List Token)
  | 0, _, _ => none
  | fuel + 1, close, tokens =>
      match dropItem? fuel close tokens with
      | some (.mark c :: rest) =>
          if c = close then some rest
          else if c ≠ ',' then none
          else if rest.head? = some (.mark close) then some (rest.drop 1)
          else dropItems? fuel close rest
      | _ => none

/-- What follows a literal, or between braces a literal and what it stands for. -/
def dropItem? : (fuel : Nat) → (close : Letter) → List Token → Option (List Token)
  | 0, _, _ => none
  | fuel + 1, close, tokens =>
      match dropLiteral? fuel tokens with
      | some (.mark (.char ':') :: rest) => if close = '\x7d' then dropLiteral? fuel rest else none
      | rest => rest

end

/-- Whether a text is a literal; behind a comma it may end. -/
def isLiteral (t : Text) : Bool :=
  match tokens? t with
  | none => false
  | some tokens => dropItems? (3 * tokens.length + 6) ')' (tokens ++ [.mark ')']) = some []

/-- Whether a text is what an action may have for parameters: a name with or without a
literal in brackets behind it, or a literal. -/
def isAction (text : Text) : Bool :=
  let text := Text.trim text
  let rest := text.dropWhile fun c => isWordChar c || c = '.'
  rest.isEmpty ||
    if rest.head? = some '(' && rest.getLast? = some ')' then isLiteral rest else isLiteral text

end MountainRange.Markup.Literal
