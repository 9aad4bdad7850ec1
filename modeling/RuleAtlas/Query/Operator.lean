/-! # Operators of query expressions

Aggregations collapse a set of series, binary operators combine two operands, signs stand
before an operand.  Words that stand for operators are read in any letter case. -/

namespace RuleAtlas.Query

/-- The text in lower case, where only the letters of ASCII have a case. -/
def lowercase (text : String) : String := String.ofList (text.toList.map Char.toLower)

inductive AggregateOp where
  | sum
  | avg
  | count
  | min
  | max
  | group
  | stddev
  | stdvar
  | topk
  | bottomk
  | countValues
  | quantile
  | limitk
  | limitRatio
  deriving DecidableEq, Repr, Inhabited

namespace AggregateOp

def symbol : AggregateOp → String
  | .sum => "sum"
  | .avg => "avg"
  | .count => "count"
  | .min => "min"
  | .max => "max"
  | .group => "group"
  | .stddev => "stddev"
  | .stdvar => "stdvar"
  | .topk => "topk"
  | .bottomk => "bottomk"
  | .countValues => "count_values"
  | .quantile => "quantile"
  | .limitk => "limitk"
  | .limitRatio => "limit_ratio"

def all : List AggregateOp :=
  [.sum, .avg, .count, .min, .max, .group, .stddev, .stdvar, .topk, .bottomk, .countValues,
   .quantile, .limitk, .limitRatio]

/-- The aggregation that exactly this word stands for. -/
def ofSymbol? (text : String) : Option AggregateOp := all.find? (·.symbol = text)

/-- The aggregation that a word stands for in any letter case. -/
def ofWord? (text : String) : Option AggregateOp := ofSymbol? (lowercase text)

/-- The aggregation takes a parameter before its operand. -/
def takesParameter : AggregateOp → Bool
  | .topk => true
  | .bottomk => true
  | .countValues => true
  | .quantile => true
  | .limitk => true
  | .limitRatio => true
  | _ => false

end AggregateOp

inductive BinaryOp where
  | add
  | sub
  | mul
  | div
  | mod
  | pow
  | atan2
  | equal
  | notEqual
  | greater
  | less
  | greaterEqual
  | lessEqual
  | and
  | or
  | unless
  deriving DecidableEq, Repr, Inhabited

namespace BinaryOp

def symbol : BinaryOp → String
  | .add => "+"
  | .sub => "-"
  | .mul => "*"
  | .div => "/"
  | .mod => "%"
  | .pow => "^"
  | .atan2 => "atan2"
  | .equal => "=="
  | .notEqual => "!="
  | .greater => ">"
  | .less => "<"
  | .greaterEqual => ">="
  | .lessEqual => "<="
  | .and => "and"
  | .or => "or"
  | .unless => "unless"

def all : List BinaryOp :=
  [.add, .sub, .mul, .div, .mod, .pow, .atan2, .equal, .notEqual, .greater, .less,
   .greaterEqual, .lessEqual, .and, .or, .unless]

def ofSymbol? (text : String) : Option BinaryOp := all.find? (·.symbol = text)

/-- How tightly the operator binds. -/
def precedence : BinaryOp → Nat
  | .or => 1
  | .and => 2
  | .unless => 2
  | .equal => 3
  | .notEqual => 3
  | .greater => 3
  | .less => 3
  | .greaterEqual => 3
  | .lessEqual => 3
  | .add => 4
  | .sub => 4
  | .mul => 5
  | .div => 5
  | .mod => 5
  | .atan2 => 5
  | .pow => 6

/-- Of a chain of the operator the last two operands belong together. -/
def isRightAssociative (op : BinaryOp) : Bool := op == .pow

/-- The operator compares its operands. -/
def isComparison (op : BinaryOp) : Bool := op.precedence == 3

/-- The operator combines sets of series. -/
def isSetOperator : BinaryOp → Bool
  | .and => true
  | .or => true
  | .unless => true
  | _ => false

end BinaryOp

inductive UnaryOp where
  | neg
  | pos
  deriving DecidableEq, Repr, Inhabited

def UnaryOp.symbol : UnaryOp → String
  | .neg => "-"
  | .pos => "+"

end RuleAtlas.Query
