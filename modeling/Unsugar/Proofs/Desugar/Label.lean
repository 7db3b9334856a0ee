import Unsugar.Proofs.Desugar.Site

/-!
# Labels

What a node says apart from its children: its constructor, its location and its own names, operators
or literal. A filter of a comprehension is its test and has no label of its own.
-/

namespace Unsugar

/-- A constructor with its own data, but neither location nor children. -/
inductive NodeHead where
  | lit (value : Literal)
  | var (name : String)
  | tuple
  | cons
  | bin
  | binOp (op : String)
  | unOp (op : String)
  | call
  | remote
  | listComp
  | binComp
  | block
  | ifs
  | caseOf
  | tryOf
  | catching
  | receive
  | closure
  | namedClosure (name : String)
  | funRef (name : String) (arity : UInt64)
  | remoteFunRef
  | record (name : String)
  | recordField (name member : String)
  | recordIndex (name member : String)
  | map
  | field (name : String)
  | exception
  | bind
  | foreign (tag : String) (raw : Json)
  | clause
  | segment (types : Option (List String))
  | generate
  | binGenerate
  | fieldValue (name : String)
  | entry (key : String)

structure NodeLabel where
  loc : Loc
  head : NodeHead

/-- The heads of sugar: aggregates with their entries, and fields. -/
def NodeHead.isSugar : NodeHead → Bool
  | map | field _ | entry _ => true
  | _ => false

def Expr.head : Expr → NodeHead
  | .lit _ value => .lit value
  | .var _ name => .var name
  | .tuple .. => .tuple
  | .cons .. => .cons
  | .bin .. => .bin
  | .binOp _ op _ _ => .binOp op
  | .unOp _ op _ => .unOp op
  | .call .. => .call
  | .remote .. => .remote
  | .listComp .. => .listComp
  | .binComp .. => .binComp
  | .block .. => .block
  | .ifs .. => .ifs
  | .caseOf .. => .caseOf
  | .tryOf .. => .tryOf
  | .catching .. => .catching
  | .receive .. => .receive
  | .closure .. => .closure
  | .namedClosure _ name _ => .namedClosure name
  | .funRef _ name arity => .funRef name arity
  | .remoteFunRef .. => .remoteFunRef
  | .record _ _ name _ => .record name
  | .recordField _ _ name member => .recordField name member
  | .recordIndex _ name member => .recordIndex name member
  | .map .. => .map
  | .field _ _ name => .field name
  | .exception .. => .exception
  | .bind .. => .bind
  | .foreign _ tag raw => .foreign tag raw

def Expr.label (e : Expr) : NodeLabel := ⟨e.loc, e.head⟩

def Entry.label (e : Entry) : NodeLabel := ⟨e.loc, .entry e.key⟩

def Part.label? : Part → Option NodeLabel
  | .expr e => some e.label
  | .clause c => some ⟨c.loc, .clause⟩
  | .segment s => some ⟨s.loc, .segment s.types⟩
  | .qualifier (.generate l _ _) => some ⟨l, .generate⟩
  | .qualifier (.binGenerate l _ _) => some ⟨l, .binGenerate⟩
  | .qualifier (.filter _) => none
  | .recordField f => some ⟨f.loc, .fieldValue f.name⟩
  | .entry e => some e.label

end Unsugar
