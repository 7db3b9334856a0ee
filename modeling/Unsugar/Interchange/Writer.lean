import Unsugar.Term.Kind
import Unsugar.Form
import Unsugar.Json.Printer

/-!
# Writing forms

Every node becomes an object with its tag, its location and all fields of its kind; what is absent is
written as null or as an empty list. Foreign nodes and uninterpreted forms are written as they were
read. The members of every object stand in key order.
-/

namespace Unsugar

def Loc.toJson (loc : Loc) : Json :=
  match loc.column with
  | none => .ofUInt32 loc.line
  | some column => .arr [.ofUInt32 loc.line, .ofUInt32 column]

/-- The value of a literal; the empty list needs none. -/
def Literal.toJson : Literal → Json
  | .atom name => .str name
  | .integer n => .int (.ofInt64 n)
  | .float x => .ofFloat x
  | .char c => .str (String.singleton c)
  | .str s => .str s
  | .nil => .null

/-- A node whose kind has a literal value. -/
def Literal.node (loc : Loc) (v : Literal) : Json :=
  match v with
  | .nil => .obj [("loc", loc.toJson), ("node", .str v.kind.tag)]
  | v => .obj [("loc", loc.toJson), ("node", .str v.kind.tag), ("value", v.toJson)]

mutual

def Expr.toJson : Expr → Json
  | .lit l v => v.node l
  | .var l name =>
      .obj [("loc", l.toJson), ("name", .str name), ("node", .str Kind.var.tag)]
  | .tuple l es =>
      .obj [("elements", .arr (Expr.listToJson es)), ("loc", l.toJson),
        ("node", .str Kind.tuple.tag)]
  | .cons l h t =>
      .obj [("head", h.toJson), ("loc", l.toJson), ("node", .str Kind.cons.tag),
        ("tail", t.toJson)]
  | .bin l ss =>
      .obj [("elements", .arr (Segment.listToJson ss)), ("loc", l.toJson),
        ("node", .str Kind.bin.tag)]
  | .binOp l op left right =>
      .obj [("left", left.toJson), ("loc", l.toJson), ("node", .str Kind.op.tag), ("op", .str op),
        ("right", right.toJson)]
  | .unOp l op e =>
      .obj [("loc", l.toJson), ("node", .str Kind.op.tag), ("op", .str op),
        ("operand", e.toJson)]
  | .call l f args =>
      .obj [("args", .arr (Expr.listToJson args)), ("function", f.toJson), ("loc", l.toJson),
        ("node", .str Kind.call.tag)]
  | .remote l m f =>
      .obj [("function", f.toJson), ("loc", l.toJson), ("module", m.toJson),
        ("node", .str Kind.remote.tag)]
  | .listComp l t qs =>
      .obj [("loc", l.toJson), ("node", .str Kind.listComp.tag),
        ("qualifiers", .arr (Qualifier.listToJson qs)), ("template", t.toJson)]
  | .binComp l t qs =>
      .obj [("loc", l.toJson), ("node", .str Kind.binComp.tag),
        ("qualifiers", .arr (Qualifier.listToJson qs)), ("template", t.toJson)]
  | .block l es =>
      .obj [("body", .arr (Expr.listToJson es)), ("loc", l.toJson), ("node", .str Kind.block.tag)]
  | .ifs l cs =>
      .obj [("clauses", .arr (Clause.listToJson cs)), ("loc", l.toJson),
        ("node", .str Kind.ifs.tag)]
  | .caseOf l subject cs =>
      .obj [("clauses", .arr (Clause.listToJson cs)), ("loc", l.toJson),
        ("node", .str Kind.caseOf.tag), ("subject", subject.toJson)]
  | .tryOf l es cs hs after =>
      .obj [("after", .arr (Expr.listToJson after)), ("body", .arr (Expr.listToJson es)),
        ("clauses", .arr (Clause.listToJson cs)), ("handlers", .arr (Clause.listToJson hs)),
        ("loc", l.toJson), ("node", .str Kind.tryOf.tag)]
  | .catching l e =>
      .obj [("expr", e.toJson), ("loc", l.toJson), ("node", .str Kind.catching.tag)]
  | .receive l cs after =>
      .obj [("after", After.optToJson after), ("clauses", .arr (Clause.listToJson cs)),
        ("loc", l.toJson), ("node", .str Kind.receive.tag)]
  | .closure l cs =>
      .obj [("clauses", .arr (Clause.listToJson cs)), ("loc", l.toJson),
        ("node", .str Kind.closure.tag)]
  | .namedClosure l name cs =>
      .obj [("clauses", .arr (Clause.listToJson cs)), ("loc", l.toJson), ("name", .str name),
        ("node", .str Kind.namedClosure.tag)]
  | .funRef l name arity =>
      .obj [("arity", .int (.ofUInt64 arity)), ("loc", l.toJson), ("name", .str name),
        ("node", .str Kind.funRef.tag)]
  | .remoteFunRef l m name arity =>
      .obj [("arity", arity.toJson), ("loc", l.toJson), ("module", m.toJson),
        ("name", name.toJson), ("node", .str Kind.remoteFunRef.tag)]
  | .record l base name fs =>
      .obj [("base", Expr.optToJson base), ("fields", .arr (RecordField.listToJson fs)),
        ("loc", l.toJson), ("name", .str name), ("node", .str Kind.record.tag)]
  | .recordField l e name field =>
      .obj [("field", .str field), ("loc", l.toJson), ("name", .str name),
        ("node", .str Kind.recordField.tag), ("record", e.toJson)]
  | .recordIndex l name field =>
      .obj [("field", .str field), ("loc", l.toJson), ("name", .str name),
        ("node", .str Kind.recordIndex.tag)]
  | .map l base es =>
      .obj [("base", Expr.optToJson base), ("entries", .arr (Entry.listToJson es)),
        ("loc", l.toJson), ("node", .str Kind.map.tag)]
  | .field l base name =>
      .obj [("base", Expr.optToJson base), ("field", .str name), ("loc", l.toJson),
        ("node", .str Kind.field.tag)]
  | .exception l kind pattern stack =>
      .obj [("class", kind.toJson), ("loc", l.toJson), ("node", .str Kind.exception.tag),
        ("pattern", pattern.toJson), ("stack", Expr.optToJson stack)]
  | .bind l pattern e =>
      .obj [("expr", e.toJson), ("loc", l.toJson), ("node", .str Kind.bind.tag),
        ("pattern", pattern.toJson)]
  | .foreign _ _ raw => raw

def Expr.listToJson : List Expr → List Json
  | [] => []
  | e :: rest => e.toJson :: Expr.listToJson rest

def Expr.optToJson : Option Expr → Json
  | none => .null
  | some e => e.toJson

/-- A guard sequence: a list of lists. -/
def Expr.guardsToJson : List (List Expr) → List Json
  | [] => []
  | g :: rest => .arr (Expr.listToJson g) :: Expr.guardsToJson rest

def Clause.toJson : Clause → Json
  | ⟨l, patterns, guards, body⟩ =>
      .obj [("body", .arr (Expr.listToJson body)), ("guards", .arr (Expr.guardsToJson guards)),
        ("loc", l.toJson), ("patterns", .arr (Expr.listToJson patterns))]

def Clause.listToJson : List Clause → List Json
  | [] => []
  | c :: rest => c.toJson :: Clause.listToJson rest

def Segment.toJson : Segment → Json
  | ⟨l, e, size, types⟩ =>
      .obj [("loc", l.toJson), ("size", Expr.optToJson size),
        ("types", match types with
          | none => .null
          | some ts => .arr (ts.map .str)),
        ("value", e.toJson)]

def Segment.listToJson : List Segment → List Json
  | [] => []
  | s :: rest => s.toJson :: Segment.listToJson rest

def Qualifier.toJson : Qualifier → Json
  | .generate l pattern source =>
      .obj [("loc", l.toJson), ("pattern", pattern.toJson), ("qualifier", .str "generate"),
        ("source", source.toJson)]
  | .binGenerate l pattern source =>
      .obj [("loc", l.toJson), ("pattern", pattern.toJson), ("qualifier", .str "b_generate"),
        ("source", source.toJson)]
  | .filter test => .obj [("qualifier", .str "filter"), ("test", test.toJson)]

def Qualifier.listToJson : List Qualifier → List Json
  | [] => []
  | q :: rest => q.toJson :: Qualifier.listToJson rest

def RecordField.toJson : RecordField → Json
  | ⟨l, name, e⟩ => .obj [("loc", l.toJson), ("name", .str name), ("value", e.toJson)]

def RecordField.listToJson : List RecordField → List Json
  | [] => []
  | f :: rest => f.toJson :: RecordField.listToJson rest

def Entry.toJson : Entry → Json
  | ⟨l, key, e⟩ => .obj [("key", .str key), ("loc", l.toJson), ("value", e.toJson)]

def Entry.listToJson : List Entry → List Json
  | [] => []
  | e :: rest => e.toJson :: Entry.listToJson rest

def After.toJson : After → Json
  | ⟨timeout, body⟩ =>
      .obj [("body", .arr (Expr.listToJson body)), ("timeout", timeout.toJson)]

def After.optToJson : Option After → Json
  | none => .null
  | some a => a.toJson

end

namespace Form

def toJson : Form → Json
  | file l name line =>
      .obj [("file", .str name), ("form", .str "file"), ("line", .ofUInt32 line),
        ("loc", l.toJson)]
  | function l name arity cs =>
      .obj [("arity", .int (.ofUInt64 arity)), ("clauses", .arr (Clause.listToJson cs)),
        ("form", .str "function"), ("loc", l.toJson), ("name", .str name)]
  | attr l name value =>
      .obj [("form", .str "attribute"), ("loc", l.toJson), ("name", .str name),
        ("value", value)]
  | eof l => .obj [("form", .str "eof"), ("loc", l.toJson)]
  | other value => value

/-- A unit as a JSON value. -/
def listToJson (forms : List Form) : Json := .arr (forms.map toJson)

/-- A unit as JSON text over lines, with a line feed at its end. -/
def listToText (forms : List Form) : String := (listToJson forms).indented ++ "\n"

end Form

end Unsugar
