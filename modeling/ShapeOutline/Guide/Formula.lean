import ShapeOutline.Guide.Error

/-!
# Guide formulas

A formula is an operator and its operands, numbers or names, separated by blanks:

* `val` and one operand, or one of the other operators and any number of operands;
* a number is an optional sign, digits, and optionally a point and digits; it is not followed by a
  letter or an underscore, so that a name may begin with digits;
* a name consists of ASCII letters, digits and underscores.

Blanks and tabs may stand before, between and behind the parts, and are needed only where two parts
would run together. Reading reports the furthest place it came to and what it looked for there.
`Formula.parse` also requires the number of operands to be the operator's, and `Formula.evaluate`
that all operands are numbers or angle constants and that the result is finite.
-/

namespace ShapeOutline

/-- An operand: a number, or a name with the bytes it covers. -/
inductive Operand (α : Type) where
  | literal (value : α)
  | name (name : String) (start stop : Nat)

/-- A formula of a guide: the operator, its operands, and the text they were read from. -/
structure Formula (α : Type) where
  guide : String
  source : String
  op : Operator
  args : List (Operand α)

/-- A place in a formula: what is left to read, and the bytes before it. -/
structure Cursor where
  offset : Nat
  rest : List Char

namespace Cursor

/-- The number of bytes of some text. -/
def bytes : List Char → Nat
  | [] => 0
  | c :: cs => c.utf8Size + bytes cs

/-- Behind the next characters, which were read as `taken`. -/
def after (c : Cursor) (taken rest : List Char) : Cursor := ⟨c.offset + bytes taken, rest⟩

/-- Whether a character may stand between parts of a formula. -/
def isBlank (c : Char) : Bool := c == ' ' || c == '\t'

/-- Behind the blanks. -/
def skipBlanks (c : Cursor) : Cursor :=
  c.after (c.rest.takeWhile isBlank) (c.rest.dropWhile isBlank)

end Cursor

namespace Formula

/-- Whether a character belongs to a name. -/
def isNameChar (c : Char) : Bool := c.isAlphanum || c == '_'

/-- Whether a character behind digits makes a name of them. -/
def isNameLetter (c : Char) : Bool := c.isAlpha || c == '_'

/-- The value of decimal digits, of which the last `places` stand behind the point. -/
def decimalValue {α : Type} [Scalar α] (negative : Bool) (digits : List Char) (places : Nat) : α :=
  let units := digits.foldl (fun n c => 10 * n + (c.toNat - '0'.toNat)) 0
  let value : α := Scalar.ofScientific units true places
  if negative then -value else value

/-- The sign of a number and what follows it. -/
def splitSign : List Char → List Char × List Char
  | '-' :: rest => (['-'], rest)
  | '+' :: rest => (['+'], rest)
  | cs => ([], cs)

/-- The fraction of a number with its point, if digits follow the point, and what is behind. -/
def splitFraction : List Char → List Char × List Char
  | '.' :: rest =>
    match rest.takeWhile Char.isDigit with
    | [] => ([], '.' :: rest)
    | digits => ('.' :: digits, rest.dropWhile Char.isDigit)
  | cs => ([], cs)

/-- The parts of a number: sign, digits, fraction with its point. -/
structure NumberText where
  sign : List Char
  whole : List Char
  fraction : List Char

/-- The characters of a number. -/
def NumberText.chars (n : NumberText) : List Char := n.sign ++ n.whole ++ n.fraction

/-- The value of a number. -/
def NumberText.value {α : Type} [Scalar α] (n : NumberText) : α :=
  decimalValue (n.sign == ['-']) (n.whole ++ n.fraction.drop 1) (n.fraction.length - 1)

/-- Reads a number, and gives what is behind it. -/
def number? (cs : List Char) : Option (NumberText × List Char) :=
  let (sign, unsigned) := splitSign cs
  let whole := unsigned.takeWhile Char.isDigit
  let (fraction, rest) := splitFraction (unsigned.dropWhile Char.isDigit)
  if whole.isEmpty || rest.head?.any isNameLetter then none
  else some (⟨sign, whole, fraction⟩, rest)

variable {α : Type} [Scalar α]

/-- Reads an operand, and gives the place behind it. -/
def operand? (c : Cursor) : Option (Operand α × Cursor) :=
  match number? c.rest with
  | some (n, rest) => some (.literal n.value, c.after n.chars rest)
  | none =>
    let name := c.rest.takeWhile isNameChar
    if name.isEmpty then none
    else
      let behind := c.after name (c.rest.dropWhile isNameChar)
      some (.name (String.ofList name) c.offset behind.offset, behind)

/-- Reads operands until there is none, at most `fuel` of them; gives the place behind the blanks
that follow the last. -/
def operands : (fuel : Nat) → Cursor → List (Operand α) × Cursor
  | 0, c => ([], c.skipBlanks)
  | fuel + 1, c =>
    match operand? c.skipBlanks with
    | none => ([], c.skipBlanks)
    | some (arg, behind) =>
      let (args, stop) := operands fuel behind
      (arg :: args, stop)

/-- The characters behind a token, if they begin with it. -/
def behindToken? (token cs : List Char) : Option (List Char) :=
  if token.isPrefixOf cs then some (cs.drop token.length) else none

/-- Reads one of the listed operators. -/
def operator? (c : Cursor) : Option (Operator × Cursor) :=
  Operator.listed.findSome? fun op =>
    (behindToken? op.token.toList c.rest).map fun rest => (op, c.after op.token.toList rest)

/-- What the grammar accepts: an operator and operands, whatever their number. Otherwise the
furthest place and what was looked for there. -/
def read (text : String) : Except (Expected × Nat) (Operator × List (Operand α)) :=
  let start := (Cursor.mk 0 text.toList).skipBlanks
  match behindToken? Operator.val.token.toList start.rest with
  | some rest =>
    let place := (start.after Operator.val.token.toList rest).skipBlanks
    match operand? place with
    | none => .error (.operand, place.offset)
    | some (arg, behind) =>
      let stop := behind.skipBlanks
      if stop.rest.isEmpty then .ok (.val, [arg]) else .error (.endOfText, stop.offset)
  | none =>
    match operator? start with
    | none => .error (if start.offset = 0 then .formula else .valueOrOperator, start.offset)
    | some (op, behind) =>
      let (args, stop) := operands behind.rest.length behind
      if stop.rest.isEmpty then .ok (op, args) else .error (.endOfTextOrOperand, stop.offset)

/-- Reads the formula of a guide. -/
def parse (guide text : String) : Except GuideError (Formula α) :=
  match read text with
  | .error (expected, offset) => .error ⟨guide, text, .malformed expected offset⟩
  | .ok (op, args) =>
    if args.length = op.arity then .ok ⟨guide, text, op, args⟩
    else .error ⟨guide, text, .arity op args.length⟩

/-- Whether the formula is `val` and a number. -/
def isLiteral (f : Formula α) : Bool :=
  match f.op, f.args with
  | .val, [.literal _] => true
  | _, _ => false

/-- The angles that have a name, in 60000ths of a degree. -/
def angleConstant? (name : String) : Option α :=
  match name with
  | "cd2" => some 10800000
  | "cd4" => some 5400000
  | "cd8" => some 2700000
  | "3cd4" => some 16200000
  | "3cd8" => some 8100000
  | "5cd8" => some 13500000
  | "7cd8" => some 18900000
  | _ => none

/-- The value of an operand, or why it has none. -/
def operandValue : Operand α → Except GuideFault α
  | .literal v => .ok v
  | .name n start stop =>
    match angleConstant? n with
    | some v => .ok v
    | none => .error (.unresolvedOperand n start stop)

/-- The value of an operator on operands, or why there is none. -/
def valueOf (op : Operator) (args : List (Operand α)) : Except GuideFault α := do
  let values ← args.mapM operandValue
  match op.value? values with
  | none => throw (.arity op values.length)
  | some v => if Scalar.isFinite v then return v else throw .nonFinite

/-- The value of a formula. -/
def evaluate (f : Formula α) : Except GuideError α :=
  (valueOf f.op f.args).mapError fun fault => ⟨f.guide, f.source, fault⟩

end Formula

/-- The value of the formula of a guide, in document units. -/
def guideValue {α : Type} [Scalar α] (guide text : String) : Except GuideError α := do
  (← Formula.parse guide text).evaluate

end ShapeOutline
