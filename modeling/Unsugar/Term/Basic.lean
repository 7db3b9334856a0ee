import Unsugar.Loc
import Unsugar.Json.Basic

/-!
# Terms of the host language

Expressions, patterns and guard tests share one grammar, whose nodes come from the host compiler with
their locations. Two kinds of node are sugar: aggregates `#{k = V, ...}` and dotted fields `E.k`. A
node whose tag the grammar does not know is kept as it came.
-/

namespace Unsugar

/-- Atomic values. -/
inductive Literal where
  | atom (name : String)
  | integer (value : Int64)
  | float (value : Float)
  | char (value : Char)
  | str (value : String)
  /-- The empty list. -/
  | nil
deriving DecidableEq

mutual

/-- An expression, a pattern or a guard test. -/
inductive Expr where
  | lit (loc : Loc) (value : Literal)
  | var (loc : Loc) (name : String)
  | tuple (loc : Loc) (elements : List Expr)
  | cons (loc : Loc) (head tail : Expr)
  | bin (loc : Loc) (segments : List Segment)
  | binOp (loc : Loc) (op : String) (left right : Expr)
  | unOp (loc : Loc) (op : String) (operand : Expr)
  | call (loc : Loc) (function : Expr) (args : List Expr)
  /-- A qualified name `module:function`. -/
  | remote (loc : Loc) (module function : Expr)
  | listComp (loc : Loc) (template : Expr) (qualifiers : List Qualifier)
  | binComp (loc : Loc) (template : Expr) (qualifiers : List Qualifier)
  | block (loc : Loc) (body : List Expr)
  | ifs (loc : Loc) (clauses : List Clause)
  | caseOf (loc : Loc) (subject : Expr) (clauses : List Clause)
  | tryOf (loc : Loc) (body : List Expr) (clauses handlers : List Clause) (after : List Expr)
  | catching (loc : Loc) (body : Expr)
  | receive (loc : Loc) (clauses : List Clause) (after : Option After)
  | closure (loc : Loc) (clauses : List Clause)
  /-- A closure that calls itself by name. -/
  | namedClosure (loc : Loc) (name : String) (clauses : List Clause)
  | funRef (loc : Loc) (name : String) (arity : UInt64)
  | remoteFunRef (loc : Loc) (module name arity : Expr)
  /-- A host record `Base#name{field = V, ...}`. -/
  | record (loc : Loc) (base : Option Expr) (name : String) (fields : List RecordField)
  | recordField (loc : Loc) (record : Expr) (name field : String)
  | recordIndex (loc : Loc) (name field : String)
  /-- An aggregate `#{k = V, ...}`, or an update of its base. -/
  | map (loc : Loc) (base : Option Expr) (entries : List Entry)
  /-- A dotted field `Base.name`. -/
  | field (loc : Loc) (base : Option Expr) (name : String)
  /-- An exception pattern `Class:Pattern:Stack` of a handler. -/
  | exception (loc : Loc) (kind pattern : Expr) (stack : Option Expr)
  /-- A match `Pattern = Value`. -/
  | bind (loc : Loc) (pattern value : Expr)
  /-- A node outside the grammar, as it was read. -/
  | foreign (loc : Loc) (tag : String) (raw : Json)

/-- Patterns, a disjunction of conjunctions of guard tests, and a body. -/
structure Clause where
  loc : Loc
  patterns : List Expr
  guards : List (List Expr)
  body : List Expr

/-- A segment `Value:Size/Types` of a binary. -/
structure Segment where
  loc : Loc
  value : Expr
  size : Option Expr
  types : Option (List String)

/-- A qualifier of a comprehension. -/
inductive Qualifier where
  | generate (loc : Loc) (pattern source : Expr)
  | binGenerate (loc : Loc) (pattern source : Expr)
  | filter (test : Expr)

/-- A field `name = Value` of a host record. -/
structure RecordField where
  loc : Loc
  name : String
  value : Expr

/-- An entry `key = Value` of an aggregate. -/
structure Entry where
  loc : Loc
  key : String
  value : Expr

/-- The section `after Timeout -> Body`. -/
structure After where
  timeout : Expr
  body : List Expr

end

namespace Expr

def loc : Expr → Loc
  | lit l _ | var l _ | tuple l _ | cons l _ _ | bin l _ | binOp l _ _ _ | unOp l _ _ | call l _ _
  | remote l _ _ | listComp l _ _ | binComp l _ _ | block l _ | ifs l _ | caseOf l _ _
  | tryOf l _ _ _ _ | catching l _ | receive l _ _ | closure l _ | namedClosure l _ _
  | funRef l _ _ | remoteFunRef l _ _ _ | record l _ _ _ | recordField l _ _ _
  | recordIndex l _ _ | map l _ _ | field l _ _ | exception l _ _ _ | bind l _ _
  | foreign l _ _ => l

/-- The name of an atom literal. -/
def atomName? : Expr → Option String
  | lit _ (.atom name) => some name
  | _ => none

/-- The atom `''`. As the base of a field it marks a root-qualified name `.name`, which is no access. -/
def isEmptyAtom (e : Expr) : Bool := e.atomName? = some ""

end Expr

end Unsugar
