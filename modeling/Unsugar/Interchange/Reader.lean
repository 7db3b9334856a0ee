import Unsugar.Interchange.Node
import Unsugar.Term.Kind
import Unsugar.Form

/-!
# Reading forms

Forms are objects tagged by `form`, nodes objects tagged by `node`. A node with an unknown tag is
foreign and kept whole, as is a form that is not one of the known ones. Fields are read in the order
in which they appear below, and the first that fails decides the error: the location comes first, save
in an operator and a character, where the field that decides the shape does.
-/

namespace Unsugar.Interchange

mutual

/-- An expression, a pattern or a guard test. -/
def expr (n : Node) : Read Expr := do
  match ← n.tag? "node" with
  | none => .error (.missingField n.path "node")
  | some tag =>
    match Kind.ofTag? tag with
    | none =>
        let loc ← n.fieldOpt "loc" fun _ => n.loc
        return .foreign (loc.getD .unknown) tag n.value
    | some .atom => return .lit (← n.loc) (.atom (← n.stringField "value"))
    | some .integer => return .lit (← n.loc) (.integer (← n.field "value" (·.1.int64)))
    | some .float => return .lit (← n.loc) (.float (← n.field "value" (·.1.float)))
    | some .char =>
        let c ← n.field "value" (·.1.char)
        return .lit (← n.loc) (.char c)
    | some .string => return .lit (← n.loc) (.str (← n.stringField "value"))
    | some .nil => return .lit (← n.loc) .nil
    | some .var => return .var (← n.loc) (← n.stringField "name")
    | some .tuple => return .tuple (← n.loc) (← n.fieldItems "elements" fun m => expr m.1)
    | some .cons =>
        return .cons (← n.loc) (← n.field "head" fun m => expr m.1)
          (← n.field "tail" fun m => expr m.1)
    | some .bin => return .bin (← n.loc) (← n.fieldItems "elements" fun m => segment m.1)
    | some .op =>
        let op ← n.stringField "op"
        match ← n.member? "operand" with
        | some m => return .unOp (← n.loc) op (← expr m.1)
        | none =>
            return .binOp (← n.loc) op (← n.field "left" fun m => expr m.1)
              (← n.field "right" fun m => expr m.1)
    | some .call =>
        return .call (← n.loc) (← n.field "function" fun m => expr m.1)
          (← n.fieldItems "args" fun m => expr m.1)
    | some .remote =>
        return .remote (← n.loc) (← n.field "module" fun m => expr m.1)
          (← n.field "function" fun m => expr m.1)
    | some .listComp =>
        return .listComp (← n.loc) (← n.field "template" fun m => expr m.1)
          (← n.fieldItems "qualifiers" fun m => qualifier m.1)
    | some .binComp =>
        return .binComp (← n.loc) (← n.field "template" fun m => expr m.1)
          (← n.fieldItems "qualifiers" fun m => qualifier m.1)
    | some .block => return .block (← n.loc) (← n.fieldItems "body" fun m => expr m.1)
    | some .ifs => return .ifs (← n.loc) (← n.fieldItems "clauses" fun m => clause m.1)
    | some .caseOf =>
        return .caseOf (← n.loc) (← n.field "subject" fun m => expr m.1)
          (← n.fieldItems "clauses" fun m => clause m.1)
    | some .tryOf =>
        return .tryOf (← n.loc) (← n.fieldItems "body" fun m => expr m.1)
          (← n.fieldItemsOrNone "clauses" fun m => clause m.1)
          (← n.fieldItemsOrNone "handlers" fun m => clause m.1)
          (← n.fieldItemsOrNone "after" fun m => expr m.1)
    | some .catching => return .catching (← n.loc) (← n.field "expr" fun m => expr m.1)
    | some .receive =>
        return .receive (← n.loc) (← n.fieldItemsOrNone "clauses" fun m => clause m.1)
          (← n.fieldOpt "after" fun m => after m.1)
    | some .closure => return .closure (← n.loc) (← n.fieldItems "clauses" fun m => clause m.1)
    | some .namedClosure =>
        return .namedClosure (← n.loc) (← n.stringField "name")
          (← n.fieldItems "clauses" fun m => clause m.1)
    | some .funRef =>
        return .funRef (← n.loc) (← n.stringField "name") (← n.field "arity" (·.1.uint64))
    | some .remoteFunRef =>
        return .remoteFunRef (← n.loc) (← n.field "module" fun m => expr m.1)
          (← n.field "name" fun m => expr m.1) (← n.field "arity" fun m => expr m.1)
    | some .record =>
        return .record (← n.loc) (← n.fieldOpt "base" fun m => expr m.1) (← n.stringField "name")
          (← n.fieldItems "fields" fun m => recordField m.1)
    | some .recordField =>
        return .recordField (← n.loc) (← n.field "record" fun m => expr m.1)
          (← n.stringField "name") (← n.stringField "field")
    | some .recordIndex =>
        return .recordIndex (← n.loc) (← n.stringField "name") (← n.stringField "field")
    | some .map =>
        return .map (← n.loc) (← n.fieldOpt "base" fun m => expr m.1)
          (← n.fieldItems "entries" fun m => entry m.1)
    | some .field =>
        return .field (← n.loc) (← n.fieldOpt "base" fun m => expr m.1) (← n.stringField "field")
    | some .exception =>
        return .exception (← n.loc) (← n.field "class" fun m => expr m.1)
          (← n.field "pattern" fun m => expr m.1) (← n.fieldOpt "stack" fun m => expr m.1)
    | some .bind =>
        return .bind (← n.loc) (← n.field "pattern" fun m => expr m.1)
          (← n.field "expr" fun m => expr m.1)
termination_by sizeOf n.value
decreasing_by all_goals exact Node.Inner.lt _

/-- A clause; without guards it has the empty disjunction. -/
def clause (n : Node) : Read Clause := do
  return ⟨← n.loc, ← n.fieldItems "patterns" fun m => expr m.1,
    ← n.fieldItemsOrNone "guards" fun m => m.1.items fun k => expr (m.outward k).1,
    ← n.fieldItems "body" fun m => expr m.1⟩
termination_by sizeOf n.value
decreasing_by all_goals exact Node.Inner.lt _

/-- A segment of a binary. -/
def segment (n : Node) : Read Segment := do
  return ⟨← n.loc, ← n.field "value" fun m => expr m.1, ← n.fieldOpt "size" fun m => expr m.1,
    ← n.fieldOpt "types" fun m => m.1.items fun k => k.1.string⟩
termination_by sizeOf n.value
decreasing_by all_goals exact Node.Inner.lt _

/-- A qualifier of a comprehension; a filter has no location of its own. -/
def qualifier (n : Node) : Read Qualifier := do
  match ← n.tag? "qualifier" with
  | some "generate" =>
      return .generate (← n.loc) (← n.field "pattern" fun m => expr m.1)
        (← n.field "source" fun m => expr m.1)
  | some "b_generate" =>
      return .binGenerate (← n.loc) (← n.field "pattern" fun m => expr m.1)
        (← n.field "source" fun m => expr m.1)
  | some "filter" => return .filter (← n.field "test" fun m => expr m.1)
  | some other => .error (.unknownQualifier n.path other)
  | none => .error (.missingField n.path "qualifier")
termination_by sizeOf n.value
decreasing_by all_goals exact Node.Inner.lt _

/-- A field of a host record. -/
def recordField (n : Node) : Read RecordField := do
  return ⟨← n.loc, ← n.stringField "name", ← n.field "value" fun m => expr m.1⟩
termination_by sizeOf n.value
decreasing_by all_goals exact Node.Inner.lt _

/-- An entry of an aggregate. -/
def entry (n : Node) : Read Entry := do
  return ⟨← n.loc, ← n.stringField "key", ← n.field "value" fun m => expr m.1⟩
termination_by sizeOf n.value
decreasing_by all_goals exact Node.Inner.lt _

/-- The section after a timeout. -/
def after (n : Node) : Read After := do
  return ⟨← n.field "timeout" fun m => expr m.1, ← n.fieldItems "body" fun m => expr m.1⟩
termination_by sizeOf n.value
decreasing_by all_goals exact Node.Inner.lt _

end

/-- A top-level form. -/
def form (n : Node) : Read Form := do
  match n.value.get? "form" with
  | some (.str "file") =>
      return .file (← n.loc) (← n.stringField "file") (← n.field "line" (·.1.uint32))
  | some (.str "function") =>
      return .function (← n.loc) (← n.stringField "name") (← n.field "arity" (·.1.uint64))
        (← n.fieldItems "clauses" fun m => clause m.1)
  | some (.str "attribute") =>
      return .attr (← n.loc) (← n.stringField "name")
        ((← n.fieldOpt "value" fun m => .ok m.1.value).getD .null)
  | some (.str "eof") => return .eof (← n.loc)
  | _ => return .other n.value

end Interchange

open Interchange

/-- The expression a value stands for. -/
def Expr.ofJson (v : Json) : Read Expr := expr (.root v)

/-- The forms of a value, which must be a list. -/
def Form.listOfJson (v : Json) : Read (List Form) := (Node.root v).items fun m => form m.1

/-- The forms of a unit given as JSON text. -/
def Form.listOfText (text : String) : Read (List Form) :=
  match Json.parse text with
  | .ok v => Form.listOfJson v
  | .error e => .error (.text e)

end Unsugar
