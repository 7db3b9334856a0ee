import Unsugar.Interchange.Reader
import Unsugar.Interchange.Writer
import Unsugar.Proofs.Desugar.Site
import Unsugar.Proofs.Interchange.Node
import Unsugar.Proofs.Interchange.Schema

/-!
# Parts of forms in the interchange

The reader and the writer have one function for each sort of parts, and the lists of all sorts are
read and written alike. A sort is therefore a parameter here (`PartSort`), so that what holds of
lists is said once.
-/

namespace Unsugar

open Interchange

namespace Part

def toJson : Part → Json
  | expr e => e.toJson
  | clause c => c.toJson
  | segment s => s.toJson
  | qualifier q => q.toJson
  | recordField f => f.toJson
  | entry e => e.toJson

def shape : Part → Shape
  | expr _ => .expr
  | clause _ => .clause
  | segment _ => .segment
  | qualifier _ => .qualifier
  | recordField _ => .recordField
  | entry _ => .entry

/-- The part is what the reader of its sort reads at the node. -/
def IsRead (p : Part) (n : Node) : Prop :=
  match p with
  | expr e => Interchange.expr n = .ok e
  | clause c => Interchange.clause n = .ok c
  | segment s => Interchange.segment n = .ok s
  | qualifier q => Interchange.qualifier n = .ok q
  | recordField f => Interchange.recordField n = .ok f
  | entry e => Interchange.entry n = .ok e

end Part

/-- Kinds of nodes by what stands below them. -/
inductive Kind.Group where
  /-- Nothing: literals and names. -/
  | leaf
  /-- One list. -/
  | list
  /-- An operator with one operand or two; which of these it is, only the members tell. -/
  | operation
  /-- Expressions, each in a member of its own. -/
  | exprs
  /-- An expression and a list. -/
  | exprAndList
  /-- Something that may be absent. -/
  | sparse

def Kind.group : Kind → Group
  | atom | integer | float | char | string | nil | var | funRef | recordIndex => .leaf
  | tuple | bin | block | ifs | closure | namedClosure => .list
  | op => .operation
  | cons | remote | catching | remoteFunRef | recordField | bind => .exprs
  | call | listComp | binComp | caseOf => .exprAndList
  | tryOf | receive | record | map | field | exception => .sparse

/-- A node of the grammar is read by the arm of its kind. -/
theorem Node.tagged {n : Node} {k : Kind} (found : n.value.get? "node" = some (.str k.tag)) :
    n.tag? "node" = .ok (some k.tag) :=
  tag?_eq_ok.mpr found

/-- A sort of parts, with its reader and the writer of its lists. -/
structure PartSort (α : Type) where
  part : α → Part
  read : Node → Read α
  writeAll : List α → List Json
  shape : Shape
  isRead_iff : ∀ {a : α} {n : Node}, (part a).IsRead n ↔ read n = .ok a
  writeAll_nil : writeAll [] = []
  writeAll_cons : ∀ a as, writeAll (a :: as) = (part a).toJson :: writeAll as
  shape_eq : ∀ a, (part a).shape = shape

namespace PartSort

abbrev exprs : PartSort Expr :=
  ⟨.expr, expr, Expr.listToJson, .expr, .rfl, rfl, fun _ _ => rfl, fun _ => rfl⟩

abbrev clauses : PartSort Clause :=
  ⟨.clause, clause, Clause.listToJson, .clause, .rfl, rfl, fun _ _ => rfl, fun _ => rfl⟩

abbrev segments : PartSort Segment :=
  ⟨.segment, segment, Segment.listToJson, .segment, .rfl, rfl, fun _ _ => rfl, fun _ => rfl⟩

abbrev qualifiers : PartSort Qualifier :=
  ⟨.qualifier, qualifier, Qualifier.listToJson, .qualifier, .rfl, rfl, fun _ _ => rfl, fun _ => rfl⟩

abbrev recordFields : PartSort RecordField :=
  ⟨.recordField, recordField, RecordField.listToJson, .recordField, .rfl, rfl, fun _ _ => rfl,
    fun _ => rfl⟩

abbrev entries : PartSort Entry :=
  ⟨.entry, entry, Entry.listToJson, .entry, .rfl, rfl, fun _ _ => rfl, fun _ => rfl⟩

end PartSort

end Unsugar
