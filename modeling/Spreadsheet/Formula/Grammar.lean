import Spreadsheet.Formula.Expr
import Spreadsheet.Formula.Lexeme
import Spreadsheet.Formula.SyntaxError

/-!
# The grammar of formulas

Reading an expression off the lexemes of a formula:

    formula    = "=" comparison?
    comparison = concat ( ("=" | "<>" | "<" | ">" | "<=" | ">=") concat )*
    concat     = sum ( "&" sum )*
    sum        = product ( ("+" | "-") product )*
    product    = power ( ("*" | "/") power )*
    power      = signed ( "^" power )?
    signed     = ("-" | "+")? operand
    operand    = number | text | boolean | error | cell | range
               | name "(" ( comparison ("," comparison)* )? ")" | "(" comparison ")"

Parentheses, calls and the right side of `^` are nested places. `Grammar.nesting n` reads
expressions with at most `n` of them around any place, so the recursion is on the nesting that is
still allowed.
-/

namespace Spreadsheet
namespace Formula

/-- The state of reading: what is left, and how many signs and operators have been read. -/
structure Cursor where
  /-- The lexemes that are not read yet. -/
  rest : List Lexeme
  /-- The byte offset of the end of the text. -/
  size : Nat
  /-- The signs and operators read so far. -/
  operators : Nat

namespace Cursor

/-- The token to be read next; there is none at the end of the text. -/
def token? (c : Cursor) : Option Token := c.rest.head?.map Lexeme.token

/-- The byte offset of the token to be read next. -/
def position (c : Cursor) : Nat := (c.rest.head?.map Lexeme.start).getD c.size

/-- Passes over one token. -/
def advance (c : Cursor) : Cursor := { c with rest := c.rest.tail }

/-- Stops reading at the current token. -/
def fail {α : Type} (c : Cursor) (cause : SyntaxError.Cause) : Except SyntaxError α :=
  .error ⟨cause, c.position⟩

/-- The symbol to be read next, if the next token is one. -/
def symbol? (c : Cursor) : Option Symbol :=
  match c.token? with
  | some (.symbol s) => some s
  | _ => none

/-- Passes over a certain symbol. -/
def expect (c : Cursor) (s : Symbol) : Except SyntaxError Cursor :=
  if c.symbol? = some s then .ok c.advance else c.fail (.expected s c.token?)

/-- Passes over a sign or an operator and counts it. -/
def passOperator (c : Cursor) : Except SyntaxError Cursor :=
  if maxOperators ≤ c.operators then c.fail .tooManyOperators
  else .ok { c.advance with operators := c.operators + 1 }

end Cursor

/-- Reads one expression off the front of the lexemes. -/
abbrev Parser := Cursor → Except SyntaxError (Expr × Cursor)

/-- The operator of a symbol on the level of comparisons. -/
def comparison? : Symbol → Option Operator
  | .equal => some (.compare .equal)
  | .notEqual => some (.compare .notEqual)
  | .less => some (.compare .less)
  | .greater => some (.compare .greater)
  | .lessEqual => some (.compare .lessEqual)
  | .greaterEqual => some (.compare .greaterEqual)
  | _ => none

/-- The operator of a symbol on the level of concatenation. -/
def concat? : Symbol → Option Operator
  | .ampersand => some .concat
  | _ => none

/-- The operator of a symbol on the level of sums. -/
def sum? : Symbol → Option Operator
  | .plus => some (.arithmetic .add)
  | .minus => some (.arithmetic .subtract)
  | _ => none

/-- The operator of a symbol on the level of products. -/
def product? : Symbol → Option Operator
  | .asterisk => some (.arithmetic .multiply)
  | .slash => some (.arithmetic .divide)
  | _ => none

/-- The sign that a symbol is in front of an operand. -/
def sign? : Symbol → Option Sign
  | .minus => some .minus
  | .plus => some .plus
  | _ => none

/-- Reads the operators of one level that follow `left`, each with its right operand. Every round
passes over a token, so as many rounds as there are tokens are enough. -/
def chainRest (operand : Parser) (operator? : Symbol → Option Operator) : Nat → Expr → Parser
  | 0, left, c => .ok (left, c)
  | rounds + 1, left, c =>
    match c.symbol?.bind operator? with
    | none => .ok (left, c)
    | some operator => do
      let afterOperator ← c.passOperator
      let (right, afterRight) ← operand afterOperator
      chainRest operand operator? rounds (.binary operator left right) afterRight

/-- Reads one level of operators that associate to the left. -/
def chain (operand : Parser) (operator? : Symbol → Option Operator) : Parser := fun c => do
  let (left, afterLeft) ← operand c
  chainRest operand operator? afterLeft.rest.length left afterLeft

/-- Reads at a nested place, if the nesting still allows one. -/
def enter (inner : Option Parser) : Parser := fun c =>
  match inner with
  | some parser => parser c
  | none => c.fail .tooDeep

/-- Reads the arguments behind the first one. As many rounds as there are tokens are enough. -/
def moreArguments (argument : Parser) : Nat → Cursor → Except SyntaxError (List Expr × Cursor)
  | 0, c => .ok ([], c)
  | rounds + 1, c =>
    if c.symbol? = some .comma then do
      let (first, afterFirst) ← argument c.advance
      let (others, afterOthers) ← moreArguments argument rounds afterFirst
      .ok (first :: others, afterOthers)
    else
      .ok ([], c)

/-- Reads at least one argument. -/
def someArguments (argument : Parser) (c : Cursor) : Except SyntaxError (List Expr × Cursor) := do
  let (first, afterFirst) ← argument c
  let (others, afterOthers) ← moreArguments argument afterFirst.rest.length afterFirst
  .ok (first :: others, afterOthers)

/-- Reads a call behind its name. -/
def call (inner : Option Parser) (name : String) : Parser := fun c => do
  let inside ← c.expect .openParen
  match inner with
  | none => inside.fail .tooDeep
  | some argument =>
    if inside.symbol? = some .closeParen then .ok (.call name [], inside.advance)
    else do
      let (arguments, afterArguments) ← someArguments argument inside
      let afterCall ← afterArguments.expect .closeParen
      .ok (.call name arguments, afterCall)

/-- Reads what stands in parentheses, from behind the opening one. -/
def parenthesized (inner : Option Parser) : Parser := fun c => do
  let (e, afterExpression) ← enter inner c
  let afterParenthesis ← afterExpression.expect .closeParen
  .ok (e, afterParenthesis)

/-- Reads an operand without a sign. -/
def operand (inner : Option Parser) : Parser := fun c =>
  match c.token? with
  | none => c.fail .unexpectedEnd
  | some (.number value) => .ok (.literal (.number value), c.advance)
  | some (.text content) => .ok (.literal (.text content), c.advance)
  | some (.boolean value) => .ok (.literal (.boolean value), c.advance)
  | some (.error code) => .ok (.literal (.error code), c.advance)
  | some (.cell word) =>
    match Address.ofText? word with
    | some address => .ok (.cell address, c.advance)
    | none => c.fail (.badCell word)
  | some (.range word) =>
    match Range.ofText? word with
    | some block => .ok (.range block, c.advance)
    | none => c.fail (.badRange word)
  | some (.function name) => call inner name c.advance
  | some (.symbol .openParen) => parenthesized inner c.advance
  | some (.symbol s) => c.fail (.unexpected (.symbol s))
  | some (.illegal character) => c.fail (.illegal character)

/-- Reads an operand with at most one sign. -/
def signed (inner : Option Parser) : Parser := fun c =>
  match c.symbol?.bind sign? with
  | none => operand inner c
  | some sign => do
    let afterSign ← c.passOperator
    let (e, afterOperand) ← operand inner afterSign
    .ok (.unary sign e, afterOperand)

/-- Reads a power; its exponent is a nested power. -/
def power (inner innerPower : Option Parser) : Parser := fun c => do
  let (base, afterBase) ← signed inner c
  if afterBase.symbol? = some .caret then do
    let afterOperator ← afterBase.passOperator
    let (exponent, afterExponent) ← enter innerPower afterOperator
    .ok (.binary (.arithmetic .power) base exponent, afterExponent)
  else
    .ok (base, afterBase)

/-- The two parsers that nested places need. -/
structure Grammar where
  /-- Reads a whole expression. -/
  expression : Parser
  /-- Reads a power. -/
  power : Parser

namespace Grammar

/-- The grammar around the grammar of its nested places. Without the latter no nesting is
allowed. -/
def around (inner : Option Grammar) : Grammar :=
  let power := Formula.power (inner.map expression) (inner.map Grammar.power)
  { expression := chain (chain (chain (chain power product?) sum?) concat?) comparison?
    power }

/-- The grammar with at most `n` nested places around any place. -/
def nesting : Nat → Grammar
  | 0 => around none
  | n + 1 => around (some (nesting n))

end Grammar

/-- Reads the expression behind the equals sign of a formula; nothing at all is the empty text. -/
def body (c : Cursor) : Except SyntaxError Expr :=
  if c.rest.isEmpty then .ok (.literal (.text ""))
  else do
    let (e, afterExpression) ← (Grammar.nesting maxNesting).expression c
    match afterExpression.token? with
    | none => .ok e
    | some token => afterExpression.fail (.afterExpression token)

/-- Reads a formula. -/
def parse (text : String) : Except SyntaxError Expr :=
  if maxChars < text.length then .error ⟨.tooLong text.length, 0⟩
  else
    let start : Cursor := ⟨lexemes text, Text.size text.toList, 0⟩
    if start.symbol? = some .equal then body start.advance else start.fail .noEqualsSign

end Formula
end Spreadsheet
