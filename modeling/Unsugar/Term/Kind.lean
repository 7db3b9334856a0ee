import Unsugar.Term.Basic

/-!
# Kinds of nodes

Every node of the grammar is known outside by a tag. Binary and unary operators share one.
-/

namespace Unsugar

/-- The kinds of nodes that have a tag. -/
inductive Kind where
  | atom | integer | float | char | string | nil
  | var | tuple | cons | bin | op | call | remote
  | listComp | binComp | block
  | ifs | caseOf | tryOf | catching | receive
  | closure | namedClosure | funRef | remoteFunRef
  | record | recordField | recordIndex
  | map | field | exception | bind
deriving DecidableEq, Repr

namespace Kind

def tag : Kind → String
  | atom => "atom"
  | integer => "integer"
  | float => "float"
  | char => "char"
  | string => "string"
  | nil => "nil"
  | var => "var"
  | tuple => "tuple"
  | cons => "cons"
  | bin => "bin"
  | op => "op"
  | call => "call"
  | remote => "remote"
  | listComp => "lc"
  | binComp => "bc"
  | block => "block"
  | ifs => "if"
  | caseOf => "case"
  | tryOf => "try"
  | catching => "catch"
  | receive => "receive"
  | closure => "fun"
  | namedClosure => "named_fun"
  | funRef => "fun_ref"
  | remoteFunRef => "remote_fun_ref"
  | record => "record"
  | recordField => "record_field"
  | recordIndex => "record_index"
  | map => "map"
  | field => "field"
  | exception => "exception"
  | bind => "match"

def all : List Kind :=
  [atom, integer, float, char, string, nil, var, tuple, cons, bin, op, call, remote, listComp,
    binComp, block, ifs, caseOf, tryOf, catching, receive, closure, namedClosure, funRef,
    remoteFunRef, record, recordField, recordIndex, map, field, exception, bind]

def ofTag? (tag : String) : Option Kind := all.find? (·.tag = tag)

theorem ofTag?_tag (k : Kind) : ofTag? k.tag = some k := by
  cases k <;> decide

theorem ofTag?_eq_some {tag : String} {k : Kind} : ofTag? tag = some k ↔ k.tag = tag := by
  constructor
  · intro h
    simpa using List.find?_some h
  · rintro rfl
    exact ofTag?_tag k

theorem ofTag?_eq_none {tag : String} : ofTag? tag = none ↔ ∀ k : Kind, k.tag ≠ tag := by
  simp only [Option.eq_none_iff_forall_ne_some, ne_eq, ofTag?_eq_some]

end Kind

def Literal.kind : Literal → Kind
  | .atom _ => .atom
  | .integer _ => .integer
  | .float _ => .float
  | .char _ => .char
  | .str _ => .string
  | .nil => .nil

namespace Expr

/-- The kind of a node, if it belongs to the grammar. -/
def kind? : Expr → Option Kind
  | lit _ v => some v.kind
  | var .. => some .var
  | tuple .. => some .tuple
  | cons .. => some .cons
  | bin .. => some .bin
  | binOp .. | unOp .. => some .op
  | call .. => some .call
  | remote .. => some .remote
  | listComp .. => some .listComp
  | binComp .. => some .binComp
  | block .. => some .block
  | ifs .. => some .ifs
  | caseOf .. => some .caseOf
  | tryOf .. => some .tryOf
  | catching .. => some .catching
  | receive .. => some .receive
  | closure .. => some .closure
  | namedClosure .. => some .namedClosure
  | funRef .. => some .funRef
  | remoteFunRef .. => some .remoteFunRef
  | record .. => some .record
  | recordField .. => some .recordField
  | recordIndex .. => some .recordIndex
  | map .. => some .map
  | field .. => some .field
  | exception .. => some .exception
  | bind .. => some .bind
  | foreign .. => none

/-- The tag a node is known by outside. -/
def tag : Expr → String
  | foreign _ tag _ => tag
  | e => (e.kind?.map Kind.tag).getD ""

/-- The tag within the grammar; nodes outside it are all foreign. -/
def grammarTag (e : Expr) : String := (e.kind?.map Kind.tag).getD "foreign"

end Expr

end Unsugar
