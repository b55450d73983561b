import Bindery.Initializer.Expression
import Bindery.Initializer.Token
import Bindery.Naming.Basic
import Bindery.Text.Identifier.Spelling

/-!
# The grammar of expressions

Respelled initializers follow the grammar of Python expressions, which the generated modules are
written in. Most forms have no value, yet an expression in them can still be followed by a point and
a name, so all of them are recognised, and their heights are kept. A reader takes an expression off
the front of tokens. It decides by the next token alone which form it reads, so it never goes back.
Readers of inner expressions are passed down as a level; a level for each token is enough, since
whatever encloses an inner expression takes at least one token.

Slashes come in pairs only, so neither true division nor positional parameters occur.
-/

namespace Bindery.Initializer

open Bindery.Text

/-- Reads something off the front of tokens. -/
abbrev Reader (α : Type) := List Token → Option (α × List Token)

/-- The readers of inner expressions, from those that take most to those that take least. -/
structure Level where
  /-- Any expression but a named one. -/
  expression : Reader Expr
  /-- An expression without condition. -/
  disjunction : Reader Expr
  /-- An operand of the word not. -/
  inversion : Reader Expr
  /-- An operand of comparisons. -/
  operand : Reader Expr
  /-- An operand of signs. -/
  factor : Reader Expr
  /-- A name, a constant or brackets, with what follows it directly. -/
  primary : Reader Expr

/-- Takes one mark. -/
def takeMark (m : String) : List Token → Option (List Token)
  | .mark t :: ts => if t = m then some ts else none
  | _ => none

/-- Takes one reserved word. -/
def takeWord (w : String) : List Token → Option (List Token)
  | .word t :: ts => if t = w then some ts else none
  | _ => none

/-- Whether a mark comes next. -/
def startsMark (m : String) (ts : List Token) : Bool :=
  (takeMark m ts).isSome

/-- Whether a word comes next. -/
def startsWord (w : String) (ts : List Token) : Bool :=
  (takeWord w ts).isSome

/-- Takes a name. Reserved words are no names. -/
def takeName : Reader String
  | .word t :: ts => if Naming.reservedWords.contains t then none else some (t, ts)
  | _ => none

/-- Reads the items behind a first one, each behind a comma; `ends` tells where no further item can
come, so that a comma may stand behind the last one. Also tells whether there was a comma. -/
def readMore {α : Type} (item : Reader α) (ends : List Token → Bool) : Nat → Reader (List α × Bool)
  | 0, _ => none
  | steps + 1, ts =>
    match takeMark "," ts with
    | none => some (([], false), ts)
    | some ts =>
      if ends ts then some (([], true), ts)
      else do
        let (x, ts) ← item ts
        let ((xs, _), ts) ← readMore item ends steps ts
        some ((x :: xs, true), ts)

/-- Reads items parted by commas, at least one. Also tells whether there was a comma. -/
def readList {α : Type} (item : Reader α) (ends : List Token → Bool) : Reader (List α × Bool) :=
  fun ts => do
    let (x, ts) ← item ts
    let ((xs, comma), ts) ← readMore item ends (ts.length + 1) ts
    some ((x :: xs, comma), ts)

/-- Reads operands with operators between them, from the left. -/
def readChain (operand : Reader Expr) (operator? : Reader (Expr → Expr → Expr)) :
    Nat → Expr → List Token → Option (Expr × List Token)
  | 0, left, ts => some (left, ts)
  | steps + 1, left, ts =>
    match operator? ts with
    | none => some (left, ts)
    | some (combine, ts) => do
      let (right, ts) ← operand ts
      readChain operand operator? steps (combine left right) ts

/-- Reads a first operand and those that operators join to it. -/
def chainOf (operand : Reader Expr) (operator? : Reader (Expr → Expr → Expr)) : Reader Expr :=
  fun ts => do
    let (left, ts) ← operand ts
    readChain operand operator? ts.length left ts

/-- Reads operands of an operator without value. However many there are, they lie side by side. -/
def flatChainOf (operand : Reader Expr) (operator? : List Token → Option (List Token)) :
    Reader Expr := fun ts => do
  let (left, ts) ← operand ts
  match operator? ts with
  | none => some (left, ts)
  | some _ =>
    let next : Reader (Expr → Expr → Expr) := fun ts =>
      (operator? ts).map fun ts => (fun l r => .other (max l.height (r.height + 1)), ts)
    readChain operand next ts.length (.around [left.height]) ts

/-- An operator among marks. -/
def markOperator (table : List (String × (Expr → Expr → Expr))) : Reader (Expr → Expr → Expr)
  | .mark t :: ts => (table.find? (·.1 == t)).map fun e => (e.2, ts)
  | _ => none

/-- An operator without value. -/
def joinOther (l r : Expr) : Expr := .around [l.height, r.height]

/-- The operators between operands, from those that bind least to those that bind most. -/
def operatorTables : List (List (String × (Expr → Expr → Expr))) :=
  [[("|", .binary .bitOr)],
    [("^", .binary .bitXor)],
    [("&", .binary .bitAnd)],
    [("<<", .binary .shiftLeft), (">>", .binary .shiftRight)],
    [("+", .binary .add), ("-", .binary .subtract)],
    [("*", .binary .multiply), ("//", .binary .divide), ("%", .binary .remainder),
      ("@", joinOther)]]

/-- The operators that compare. -/
def comparison? : List Token → Option (List Token)
  | .mark t :: ts => if ["==", "!=", "<", "<=", ">", ">="].contains t then some ts else none
  | .word "in" :: ts => some ts
  | .word "not" :: .word "in" :: ts => some ts
  | .word "is" :: .word "not" :: ts => some ts
  | .word "is" :: ts => some ts
  | _ => none

/-- The spelling under which a name is known. -/
def canonicalName (name : String) : String :=
  String.ofList (canonicalIdentifier name.toList)

namespace Level

variable (inner : Level)

/-- Reads an expression that may be given a name. -/
def named : Reader Expr
  | .word n :: .mark ":=" :: ts => do
    let _ ← takeName [.word n]
    let (e, ts) ← inner.expression ts
    some (.around [e.height], ts)
  | ts => inner.expression ts

/-- Reads an expression that may have a star before it. -/
def starNamed : Reader Expr := fun ts =>
  match takeMark "*" ts with
  | some ts => do
    let (e, ts) ← inner.operand ts
    some (.starred e.isAssignable (e.height + 1), ts)
  | none => inner.named ts

/-- Reads an item that is given away by the word yield. -/
def starExpression : Reader Expr := fun ts =>
  match takeMark "*" ts with
  | some ts => do
    let (e, ts) ← inner.operand ts
    some (.starred e.isAssignable (e.height + 1), ts)
  | none => inner.expression ts

/-- Reads what a loop assigns to: its height. -/
def target : Reader Nat := fun ts => do
  let (e, ts) ← inner.primary ((takeMark "*" ts).getD ts)
  if e.isAssignable then some (e.height, ts) else none

/-- Reads the conditions of a loop: the greatest height. -/
def conditions : Nat → Reader Nat
  | 0, ts => some (0, ts)
  | steps + 1, ts =>
    match takeWord "if" ts with
    | none => some (0, ts)
    | some ts => do
      let (e, ts) ← inner.disjunction ts
      let (height, ts) ← conditions steps ts
      some (max e.height height, ts)

/-- Whether a loop comes next. -/
def startsLoop (ts : List Token) : Bool :=
  startsWord "for" ts || startsWord "async" ts

/-- Reads the loops of a comprehension, at least one: the greatest height. -/
def loops : Nat → Reader Nat
  | 0, _ => none
  | steps + 1, ts => do
    let ts ← takeWord "for" ((takeWord "async" ts).getD ts)
    let ((targets, comma), ts) ← readList inner.target (startsWord "in") ts
    let ts ← takeWord "in" ts
    let (source, ts) ← inner.disjunction ts
    let (condition, ts) ← inner.conditions ts.length ts
    let target := Expr.highest targets + if comma then 1 else 0
    let height := Expr.highest [target, source.height, condition] + 1
    if startsLoop ts then
      let (further, ts) ← loops steps ts
      some (max height further, ts)
    else some (height, ts)

/-- Reads the loops and the bracket that closes a comprehension. -/
def comprehension (closer : String) (element : Expr) : Reader Expr := fun ts => do
  if element.isStarred then none
  else
    let (height, ts) ← inner.loops ts.length ts
    let ts ← takeMark closer ts
    some (.around [element.height, height], ts)

/-- The height of items side by side: one node more around them if there was a comma. -/
def itemsHeight (items : List Expr) (comma : Bool) : Nat :=
  Expr.highest (items.map (·.height)) + if comma then 1 else 0

/-- Reads what the word yield gives away: its height. -/
def yielded : Reader Nat := fun ts =>
  match takeWord "from" ts with
  | some ts => (inner.expression ts).map fun r => (r.1.height, r.2)
  | none =>
    if startsMark ")" ts then some (0, ts)
    else do
      let ((items, comma), ts) ← readList inner.starExpression (startsMark ")") ts
      some (itemsHeight items comma, ts)

/-- Several expressions as one. -/
def sequenceOf (items : List Expr) : Expr :=
  .sequence (items.all (·.isAssignable)) (itemsHeight items true)

/-- Reads what follows an opening parenthesis: nothing, an expression, several of them, or a
comprehension. -/
def parenthesis : Reader Expr := fun ts =>
  match takeMark ")" ts with
  | some ts => some (sequenceOf [], ts)
  | none =>
    match takeWord "yield" ts with
    | some ts => do
      let (height, ts) ← inner.yielded ts
      let ts ← takeMark ")" ts
      some (.around [height], ts)
    | none => do
      let (first, ts) ← inner.starNamed ts
      if startsLoop ts then inner.comprehension ")" first ts
      else
        let ((items, comma), ts) ← readMore inner.starNamed (startsMark ")") (ts.length + 1) ts
        let ts ← takeMark ")" ts
        if comma then some (sequenceOf (first :: items), ts)
        else if first.isStarred then none
        else some (first, ts)

/-- Reads what follows an opening bracket where an operand begins. -/
def bracket : Reader Expr := fun ts =>
  match takeMark "]" ts with
  | some ts => some (sequenceOf [], ts)
  | none => do
    let (first, ts) ← inner.starNamed ts
    if startsLoop ts then inner.comprehension "]" first ts
    else
      let ((items, _), ts) ← readMore inner.starNamed (startsMark "]") (ts.length + 1) ts
      let ts ← takeMark "]" ts
      some (sequenceOf (first :: items), ts)

/-- Reads the value of a key, behind the colon before it: its height. -/
def entryValue : Reader Nat := fun ts => do
  let ts ← takeMark ":" ts
  let (e, ts) ← inner.expression ts
  some (e.height, ts)

/-- Reads a key and its value, or a mapping behind two stars: the greatest height. -/
def entry : Reader Nat := fun ts =>
  match takeMark "**" ts with
  | some ts => (inner.operand ts).map fun r => (r.1.height, r.2)
  | none => do
    let (key, ts) ← inner.expression ts
    let (value, ts) ← inner.entryValue ts
    some (max key.height value, ts)

/-- Reads the entries of a mapping behind a first one of some height, and the closing brace. -/
def moreEntries (first : Nat) : Reader Expr := fun ts => do
  let ((entries, _), ts) ← readMore inner.entry (startsMark "\x7d") (ts.length + 1) ts
  let ts ← takeMark "\x7d" ts
  some (.around (first :: entries), ts)

/-- Reads what follows an opening brace: the entries of a mapping or the items of a set. -/
def brace : Reader Expr := fun ts =>
  match takeMark "\x7d" ts with
  | some ts => some (.around [], ts)
  | none =>
    if startsMark "**" ts then do
      let (first, ts) ← inner.entry ts
      inner.moreEntries first ts
    else do
      let isNamed :=
        match ts with
        | .word _ :: .mark ":=" :: _ => true
        | _ => false
      let (first, ts) ← inner.starNamed ts
      if startsMark ":" ts then
        if isNamed || first.isStarred then none
        else
          let (value, ts) ← inner.entryValue ts
          let height := max first.height value
          if startsLoop ts then inner.comprehension "\x7d" (.other height) ts
          else inner.moreEntries height ts
      else if startsLoop ts then inner.comprehension "\x7d" first ts
      else
        let ((items, _), ts) ← readMore inner.starNamed (startsMark "\x7d") (ts.length + 1) ts
        let ts ← takeMark "\x7d" ts
        some (.other (itemsHeight (first :: items) true), ts)

end Level

/-- How far the arguments of a call have come. -/
inductive ArgumentStage where
  /-- Arguments may come in any form. -/
  | positional
  /-- An argument had a name; plain arguments cannot follow. -/
  | keyword
  /-- An argument had two stars; neither plain nor starred ones can follow. -/
  | mapping
deriving DecidableEq, Repr

namespace Level

variable (inner : Level)

/-- Reads one argument at a stage: the stage behind it, and its height. -/
def argument (stage : ArgumentStage) : Reader (ArgumentStage × Nat)
  | .mark "**" :: ts => (inner.expression ts).map fun r => ((.mapping, r.1.height + 1), r.2)
  | .mark "*" :: ts =>
    if stage = .mapping then none
    else (inner.expression ts).map fun r => ((stage, r.1.height + 1), r.2)
  | .word n :: .mark "=" :: ts => do
    let _ ← takeName [.word n]
    let (e, ts) ← inner.expression ts
    some ((if stage = .mapping then .mapping else .keyword, e.height + 1), ts)
  | ts =>
    if stage = .positional then (inner.named ts).map fun r => ((stage, r.1.height), r.2)
    else none

/-- Reads the arguments behind a first one, up to the closing parenthesis: the greatest height. -/
def moreArguments : Nat → ArgumentStage → Reader Nat
  | 0, _, _ => none
  | steps + 1, stage, ts =>
    match takeMark "," ts with
    | none => (takeMark ")" ts).map fun ts => (0, ts)
    | some ts =>
      match takeMark ")" ts with
      | some ts => some (0, ts)
      | none => do
        let ((stage, height), ts) ← inner.argument stage ts
        let (further, ts) ← moreArguments steps stage ts
        some (max height further, ts)

/-- Whether an argument comes next that is given by its place. -/
def startsPlain : List Token → Bool
  | .mark "*" :: _ => false
  | .mark "**" :: _ => false
  | .word _ :: .mark "=" :: _ => false
  | _ => true

/-- Reads what follows the opening parenthesis of a call: the greatest height. -/
def call : Reader Nat := fun ts =>
  match takeMark ")" ts with
  | some ts => some (0, ts)
  | none => do
    let ((stage, height), rest) ← inner.argument .positional ts
    if startsLoop rest && startsPlain ts then
      let (e, ts) ← inner.comprehension ")" (.other height) rest
      some (e.height, ts)
    else
      let (further, ts) ← inner.moreArguments (rest.length + 1) stage rest
      some (max height further, ts)

/-- Reads the end of a slice, if there is one: its height. -/
def bound : Reader Nat := fun ts =>
  if [":", ",", "]"].any (startsMark · ts) then some (0, ts)
  else (inner.expression ts).map fun r => (r.1.height, r.2)

/-- Reads the parts of a slice behind its first colon, before which stands a part of some height:
the height of the slice. -/
def sliceRest (start : Nat) : Reader Nat := fun ts => do
  let (stop, ts) ← inner.bound ts
  match takeMark ":" ts with
  | some ts => do
    let (step, ts) ← inner.bound ts
    some (Expr.highest [start, stop, step] + 1, ts)
  | none => some (max start stop + 1, ts)

/-- Reads one part between the brackets behind an operand: its height. -/
def subscript : Reader Nat := fun ts =>
  match takeMark "*" ts with
  | some ts => (inner.expression ts).map fun r => (r.1.height + 1, r.2)
  | none =>
    match takeMark ":" ts with
    | some ts => inner.sliceRest 0 ts
    | none =>
      match ts with
      | .word _ :: .mark ":=" :: _ => (inner.named ts).map fun r => (r.1.height, r.2)
      | _ => do
        let (e, ts) ← inner.expression ts
        match takeMark ":" ts with
        | some ts => inner.sliceRest e.height ts
        | none => some (e.height, ts)

/-- Reads what follows an operand directly. -/
def trailers : Nat → Expr → List Token → Option (Expr × List Token)
  | 0, e, ts => some (e, ts)
  | steps + 1, e, ts =>
    match ts with
    | .mark "." :: ts => do
      let (n, ts) ← takeName ts
      trailers steps (.member (canonicalName n) (e.height + 1)) ts
    | .mark "(" :: ts => do
      let (height, ts) ← inner.call ts
      trailers steps (.around [e.height, height]) ts
    | .mark "[" :: ts => do
      let ((parts, comma), ts) ← readList inner.subscript (startsMark "]") ts
      let ts ← takeMark "]" ts
      let part := Expr.highest parts + if comma then 1 else 0
      trailers steps (.item (max e.height part + 1)) ts
    | ts => some (e, ts)

end Level

/-- Reads the literals that follow a literal; all of them stand for bytes or none does. -/
def readLiterals (isBytes : Bool) : List Token → Option (List Token)
  | .literal l :: ts => if l.isBytes = isBytes then readLiterals isBytes ts else none
  | ts => some ts

/-- A word that stands for a constant. -/
def wordConstant? (w : String) : Option Expr :=
  match w with
  | "True" => some (.constant (.truth true))
  | "False" => some (.constant (.truth false))
  | "None" => some (.around [])
  | _ => none

/-- A number as an expression. -/
def numberExpr : Option Nat → Expr
  | some n => .constant (.int n)
  | none => .around []

/-- One parameter of a function without name. -/
inductive ParameterForm where
  /-- A plain parameter, and whether it has a default. -/
  | plain (hasDefault : Bool)
  /-- A star without name. -/
  | bareStar
  /-- A star with a name. -/
  | star
  /-- Two stars with a name. -/
  | doubleStar
deriving DecidableEq, Repr

namespace ParameterForm

/-- Whether plain parameters come in order: behind one with a default, all have one. -/
def defaultsLast : List ParameterForm → Bool
  | [] => true
  | plain true :: ps => !ps.contains (plain false) && defaultsLast ps
  | _ :: ps => defaultsLast ps

/-- Whether a form is a plain parameter. -/
def isPlain : ParameterForm → Bool
  | plain _ => true
  | _ => false

/-- Whether the parameters behind a star are in order: plain ones, then two stars at most once. -/
def isTail (ps : List ParameterForm) : Bool :=
  let rest := ps.dropWhile isPlain
  rest = [] || rest = [doubleStar]

/-- Whether parameters come in an order that is allowed. -/
def allowed (ps : List ParameterForm) : Bool :=
  let front := ps.takeWhile isPlain
  defaultsLast front &&
    match ps.dropWhile isPlain with
    | [] => true
    | star :: tail => isTail tail
    | bareStar :: tail => tail.head?.any isPlain && isTail tail
    | doubleStar :: tail => tail.isEmpty
    | plain _ :: _ => false

end ParameterForm

namespace Level

variable (inner : Level)

/-- Reads a parameter of a function without name: its form and its height. -/
def parameter : Reader (ParameterForm × Nat)
  | .mark "**" :: ts => (takeName ts).map fun r => ((.doubleStar, 1), r.2)
  | .mark "*" :: ts =>
    match takeName ts with
    | some (_, ts) => some ((.star, 1), ts)
    | none => some ((.bareStar, 0), ts)
  | ts => do
    let (_, ts) ← takeName ts
    match takeMark "=" ts with
    | some ts => (inner.expression ts).map fun r => ((.plain true, r.1.height), r.2)
    | none => some ((.plain false, 1), ts)

/-- Reads a function without name, behind the word that begins it. -/
def lambda : Reader Expr := fun ts => do
  let ((ps, _), ts) ←
    if startsMark ":" ts then some (([], false), ts)
    else readList inner.parameter (startsMark ":") ts
  let ts ← takeMark ":" ts
  let (body, ts) ← inner.expression ts
  if ParameterForm.allowed (ps.map (·.1)) then
    some (.around [Expr.highest (ps.map (·.2)) + 1, body.height], ts)
  else none

/-- Reads a name, a constant or something in brackets. -/
def atom : Reader Expr
  | .number v :: ts => some (numberExpr v, ts)
  | .literal l :: ts => (readLiterals l.isBytes ts).map fun ts => (.around [], ts)
  | .mark "..." :: ts => some (.around [], ts)
  | .mark "(" :: ts => inner.parenthesis ts
  | .mark "[" :: ts => inner.bracket ts
  | .mark "\x7b" :: ts => inner.brace ts
  | .word w :: ts =>
    match wordConstant? w with
    | some e => some (e, ts)
    | none => (takeName [.word w]).map fun _ => (.name (canonicalName w), ts)
  | _ => none

/-- Reads an operand with what follows it directly. -/
def readPrimary : Reader Expr := fun ts => do
  let (e, ts) ← inner.atom ts
  inner.trailers (ts.length + 1) e ts

/-- Reads an operand that may be raised to a power. -/
def power : Reader Expr := fun ts => do
  let (e, ts) ←
    match takeWord "await" ts with
    | some ts => do
      let (e, ts) ← inner.readPrimary ts
      some (.around [e.height], ts)
    | none => inner.readPrimary ts
  match takeMark "**" ts with
  | some ts => do
    let (exponent, ts) ← inner.factor ts
    some (joinOther e exponent, ts)
  | none => some (e, ts)

/-- Reads an operand with signs before it. -/
def readFactor : Reader Expr
  | .mark "-" :: ts => (inner.factor ts).map fun r => (.unary .negate r.1, r.2)
  | .mark "+" :: ts => (inner.factor ts).map fun r => (.unary .keep r.1, r.2)
  | .mark "~" :: ts => (inner.factor ts).map fun r => (.unary .complement r.1, r.2)
  | ts => inner.power ts

/-- Reads operands joined by the operators of tables, the first of which bind least. -/
def readOperators : List (List (String × (Expr → Expr → Expr))) → Reader Expr
  | [] => inner.readFactor
  | table :: tables => chainOf (readOperators tables) (markOperator table)

/-- Reads an operand of comparisons. -/
def readOperand : Reader Expr :=
  inner.readOperators operatorTables

/-- Reads a comparison, or its negation. -/
def readInversion : Reader Expr
  | .word "not" :: ts => (inner.inversion ts).map fun r => (.around [r.1.height], r.2)
  | ts => flatChainOf inner.readOperand comparison? ts

/-- Reads an expression without condition. -/
def readDisjunction : Reader Expr :=
  flatChainOf (flatChainOf inner.readInversion (takeWord "and")) (takeWord "or")

/-- Reads any expression but a named one. -/
def readExpression : Reader Expr
  | .word "lambda" :: ts => inner.lambda ts
  | ts => do
    let (e, ts) ← inner.readDisjunction ts
    match takeWord "if" ts with
    | none => some (e, ts)
    | some ts => do
      let (condition, ts) ← inner.disjunction ts
      let ts ← takeWord "else" ts
      let (alternative, ts) ← inner.expression ts
      some (.around [e.height, condition.height, alternative.height], ts)

/-- The level around a level. -/
def outer : Level :=
  ⟨inner.readExpression, inner.readDisjunction, inner.readInversion, inner.readOperand,
    inner.readFactor, inner.readPrimary⟩

/-- The level inside which nothing can be read. -/
def innermost : Level :=
  let nothing : Reader Expr := fun _ => none
  ⟨nothing, nothing, nothing, nothing, nothing, nothing⟩

/-- The level with a number of levels inside. -/
def ofDepth : Nat → Level
  | 0 => innermost
  | depth + 1 => (ofDepth depth).outer

end Level

/-- The expression that tokens stand for. Several expressions parted by commas are a sequence. -/
def parseTokens (ts : List Token) : Option Expr := do
  let ((items, comma), rest) ←
    readList (Level.ofDepth (ts.length + 1)).expression List.isEmpty ts
  if !rest.isEmpty then none
  else if comma then some (Level.sequenceOf items)
  else items.head?

/-- The expressions interpolated in the literals of tokens. -/
def interpolatedFields (ts : List Token) : List (List Char) :=
  ts.flatMap fun t =>
    match t with
    | .literal l => l.fields
    | _ => []

/-- The expression of a text. Interpolated expressions are read as if they stood in parentheses; as
each is shorter than the text around it, `depth` bounds how far they nest. -/
def parseWithin : Nat → List Char → Option Expr
  | 0, _ => none
  | depth + 1, cs => do
    let ts ← scan cs
    if (interpolatedFields ts).all fun field =>
        (parseWithin depth ('(' :: field ++ [')'])).isSome then
      parseTokens ts
    else none

/-- The expression of a text, if it is one. -/
def parse (cs : List Char) : Option Expr :=
  parseWithin (cs.length + 1) cs

end Bindery.Initializer
