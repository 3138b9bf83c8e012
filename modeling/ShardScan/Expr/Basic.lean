import ShardScan.Scalar.Display

/-!
# Predicates

The expressions that an engine pushes down into a scan: references to columns,
literals, and named predicates applied to expressions.

## Main definitions

* `Operator.ofName` — operators are named without regard to ASCII case.
* `Expr.display` — the written form.
* `Expr.conjuncts`, `conjuncts` — an expression, or a list of them, with every conjunction taken
  apart.
-/

namespace ShardScan

/-- The predicates that can be pushed down; those without a meaning to the store keep their name. -/
inductive Operator
  | and | or | not
  | eq | nullSafeEq | lt | ltEq | gt | gtEq
  | startsWith | endsWith | contains | isIn | isNull | isNotNull
  | other (name : String)
deriving DecidableEq

namespace Operator

/-- The name of an operator. -/
def name : Operator → String
  | and => "AND"
  | or => "OR"
  | not => "NOT"
  | eq => "="
  | nullSafeEq => "<=>"
  | lt => "<"
  | ltEq => "<="
  | gt => ">"
  | gtEq => ">="
  | startsWith => "STARTS_WITH"
  | endsWith => "ENDS_WITH"
  | contains => "CONTAINS"
  | isIn => "IN"
  | isNull => "IS_NULL"
  | isNotNull => "IS_NOT_NULL"
  | other name => name

/-- The word for an operator; those that are not known share one. -/
def word : Operator → String
  | and => "And"
  | or => "Or"
  | not => "Not"
  | eq => "Eq"
  | nullSafeEq => "NullSafeEq"
  | lt => "Lt"
  | ltEq => "LtEq"
  | gt => "Gt"
  | gtEq => "GtEq"
  | startsWith => "StartsWith"
  | endsWith => "EndsWith"
  | contains => "Contains"
  | isIn => "In"
  | isNull => "IsNull"
  | isNotNull => "IsNotNull"
  | other _ => "Other"

/-- The operators with a name of their own. -/
def known : List Operator :=
  [and, or, not, eq, nullSafeEq, lt, ltEq, gt, gtEq, startsWith, endsWith, contains, isIn, isNull,
    isNotNull]

/-- The operator of a name, in any ASCII case. -/
def ofName (s : String) : Operator :=
  let upper := String.ofList (s.toList.map Char.toUpper)
  (known.find? fun op => op.name == upper).getD (other s)

end Operator

/-- An expression over the columns of a row. -/
inductive Expr
  /-- A reference to a field, by the path to it. -/
  | column (path : List String)
  | literal (value : Scalar)
  | predicate (op : Operator) (operands : List Expr)

namespace Expr

/-- The innermost name of a reference. -/
def fieldName? : Expr → Option String
  | column path => path.getLast?
  | _ => none

/-! ### The written form -/

mutual

/-- The written form: a predicate of two operands between them, any other before its operands. -/
def display : Expr → String
  | column path => String.intercalate "." path
  | literal value => value.display
  | predicate op [left, right] =>
    "(" ++ left.display ++ " " ++ op.name ++ " " ++ right.display ++ ")"
  | predicate op operands => op.name ++ "(" ++ String.intercalate ", " (displayAll operands) ++ ")"

/-- The written forms of some expressions. -/
def displayAll : List Expr → List String
  | [] => []
  | e :: rest => e.display :: displayAll rest

end

/-! ### Equality -/

mutual

/-- The expressions are equal, floating-point literals as numbers. -/
def agrees : Expr → Expr → Bool
  | column a, column b => a == b
  | literal a, literal b => a.agrees b
  | predicate op as, predicate op' bs => op == op' && agreesAll as bs
  | _, _ => false

/-- The lists agree in length and in every expression. -/
def agreesAll : List Expr → List Expr → Bool
  | [], [] => true
  | a :: as, b :: bs => a.agrees b && agreesAll as bs
  | _, _ => false

end

/-! ### Conjunctions -/

mutual

/-- The expressions that a conjunction joins, at any depth; any other expression alone. -/
def conjuncts : Expr → List Expr
  | predicate .and operands => conjunctsOf operands
  | e => [e]

/-- The conjuncts of some expressions, in order. -/
def conjunctsOf : List Expr → List Expr
  | [] => []
  | e :: rest => e.conjuncts ++ conjunctsOf rest

end

end Expr
end ShardScan
