import Alembic.Table.Value
import Alembic.Table.Diagnostic
/-! # Syntax trees of the native table syntax -/

namespace Alembic.Table.Native

/-- One step of a traversal: an attribute name or a constant index. -/
inductive Step where
  | attr (name : String) (range : Range)
  | index (key : Value) (range : Range)
  deriving Inhabited

def Step.range : Step → Range
  | .attr _ range | .index _ range => range

/-- The binary operators, from the loosest binding to the tightest. -/
inductive BinaryOp where
  | or
  | and
  | equal
  | notEqual
  | greater
  | greaterEq
  | less
  | lessEq
  | add
  | subtract
  | multiply
  | divide
  | modulo
  deriving BEq, DecidableEq, Repr, Inhabited

/-- The unary operators. -/
inductive UnaryOp where
  | negate
  | not
  deriving BEq, DecidableEq, Repr, Inhabited

/-- An expression. -/
inductive Expr where
  | literal (value : Value) (range : Range)
  /-- A variable and the steps after it. -/
  | scope (root : String) (rootRange : Range) (steps : List Step) (range : Range)
  /-- Steps applied to the value of another expression. -/
  | relative (source : Expr) (steps : List Step) (range : Range)
  | call (name : String) (args : List Expr) (range : Range)
  | conditional (condition onTrue onFalse : Expr) (range : Range)
  | binary (op : BinaryOp) (lhs rhs : Expr) (range : Range)
  | unary (op : UnaryOp) (operand : Expr) (range : Range)
  | parens (inner : Expr) (range : Range)
  /-- A template with more than one part, or with a literal part: its value is a string. -/
  | template (parts : List Expr) (range : Range)
  /-- A template that is one interpolation: its value is the interpolated value itself. -/
  | wrap (inner : Expr) (range : Range)
  /-- The strings a template `for` directive produces, joined. -/
  | join (loop : Expr)
  | tuple (items : List Expr) (range : Range)
  /-- An object constructor: key and value expressions. -/
  | object (items : List (Expr × Expr)) (range : Range)
  /-- The key of an object item: a bare name is taken literally unless it was parenthesized. -/
  | key (wrapped : Expr) (forceNonLiteral : Bool)
  | loop (keyVar : Option String) (valueVar : String) (collection : Expr) (keyExpr : Option Expr)
      (valueExpr : Expr) (condition : Option Expr) (group : Bool) (range : Range)
  | index (collection key : Expr) (bracketRange : Range) (range : Range)
  | splat (source each : Expr) (range : Range)
  /-- The current element inside a splat. -/
  | item (range : Range)
  /-- What stands for an expression that did not parse. -/
  | invalid (range : Range)
  deriving Inhabited

/-- The stretch of source an expression came from. -/
def Expr.range : Expr → Range
  | .literal _ range | .scope _ _ _ range | .relative _ _ range | .call _ _ range
  | .conditional _ _ _ range | .binary _ _ _ range | .unary _ _ range | .parens _ range
  | .template _ range | .wrap _ range | .tuple _ range | .object _ range
  | .loop _ _ _ _ _ _ _ range | .index _ _ _ range | .splat _ _ range | .item range
  | .invalid range => range
  | .join inner => inner.range
  | .key wrapped _ => wrapped.range

/-- An attribute of a body: its name, its expression and where its name is. -/
structure Attribute where
  name : String
  expr : Expr
  nameRange : Range

/-- A block of a body: its type and where the type is written. -/
structure Block where
  type : String
  typeRange : Range

/-- A body: its attributes, each name once, and its blocks, in source order. -/
structure Body where
  attributes : List Attribute
  blocks : List Block

end Alembic.Table.Native
