import Unsugar.Term.Kind

/-!
# The schema of the interchange

The reader and the writer each go through the kinds of nodes on their own, so what one of them is
proved against must not be the other. The schema stands beside both: it says which members an
object has by what it stands for and how it is tagged, what stands in each of them, and which of
them may be absent. `Kept` relates two values where one is the other save for what the schema
leaves open: members it does not name are dropped, and those that may be absent are filled in.
-/

namespace Unsugar

/-- What a value stands for. -/
inductive Shape where
  /-- Data that is taken as it stands. -/
  | data
  /-- The value of a float literal: an integer or a double. -/
  | number
  | form
  | expr
  | clause
  | segment
  | qualifier
  | recordField
  | entry
  | after
  | list (item : Shape)

/-- A member that the schema names. -/
structure Slot where
  name : String
  shape : Shape
  /-- Whether the member may be absent, which is the same as null. -/
  isOptional : Bool

namespace Slot

def required (name : String) (shape : Shape) : Slot := ⟨name, shape, false⟩

def optional (name : String) (shape : Shape) : Slot := ⟨name, shape, true⟩

def loc : Slot := required "loc" .data

def node : Slot := required "node" .data

/-- What is written in place of an absent member. -/
def filler (s : Slot) : Json :=
  match s.shape with
  | .list _ => .arr []
  | _ => .null

end Slot

open Slot

/-- The members of a node of the grammar, in key order. Unary and binary operators share a kind. -/
def Kind.slots (unary : Bool) : Kind → List Slot
  | .atom | .integer | .char | .string => [loc, node, required "value" .data]
  | .float => [loc, node, required "value" .number]
  | .nil => [loc, node]
  | .var => [loc, required "name" .data, node]
  | .tuple => [required "elements" (.list .expr), loc, node]
  | .cons => [required "head" .expr, loc, node, required "tail" .expr]
  | .bin => [required "elements" (.list .segment), loc, node]
  | .op =>
      if unary then [loc, node, required "op" .data, required "operand" .expr]
      else [required "left" .expr, loc, node, required "op" .data, required "right" .expr]
  | .call => [required "args" (.list .expr), required "function" .expr, loc, node]
  | .remote => [required "function" .expr, loc, required "module" .expr, node]
  | .listComp | .binComp =>
      [loc, node, required "qualifiers" (.list .qualifier), required "template" .expr]
  | .block => [required "body" (.list .expr), loc, node]
  | .ifs | .closure => [required "clauses" (.list .clause), loc, node]
  | .caseOf => [required "clauses" (.list .clause), loc, node, required "subject" .expr]
  | .tryOf =>
      [optional "after" (.list .expr), required "body" (.list .expr),
        optional "clauses" (.list .clause), optional "handlers" (.list .clause), loc, node]
  | .catching => [required "expr" .expr, loc, node]
  | .receive => [optional "after" .after, optional "clauses" (.list .clause), loc, node]
  | .namedClosure => [required "clauses" (.list .clause), loc, required "name" .data, node]
  | .funRef => [required "arity" .data, loc, required "name" .data, node]
  | .remoteFunRef =>
      [required "arity" .expr, loc, required "module" .expr, required "name" .expr, node]
  | .record =>
      [optional "base" .expr, required "fields" (.list .recordField), loc, required "name" .data,
        node]
  | .recordField =>
      [required "field" .data, loc, required "name" .data, node, required "record" .expr]
  | .recordIndex => [required "field" .data, loc, required "name" .data, node]
  | .map => [optional "base" .expr, required "entries" (.list .entry), loc, node]
  | .field => [optional "base" .expr, required "field" .data, loc, node]
  | .exception =>
      [required "class" .expr, loc, node, required "pattern" .expr, optional "stack" .expr]
  | .bind => [required "expr" .expr, loc, node, required "pattern" .expr]

namespace Shape

/-- The members of a form by its tag; none for forms that are not interpreted. -/
def formSlots? : String → Option (List Slot)
  | "file" => some [required "file" .data, required "form" .data, required "line" .data, loc]
  | "function" =>
      some [required "arity" .data, required "clauses" (.list .clause), required "form" .data, loc,
        required "name" .data]
  | "attribute" =>
      some [required "form" .data, loc, required "name" .data, optional "value" .data]
  | "eof" => some [required "form" .data, loc]
  | _ => none

/-- The members of a qualifier by its tag. -/
def qualifierSlots? : String → Option (List Slot)
  | "generate" | "b_generate" =>
      some [loc, required "pattern" .expr, required "qualifier" .data, required "source" .expr]
  | "filter" => some [required "qualifier" .data, required "test" .expr]
  | _ => none

/-- A member that is there and not null. -/
def present (v : Json) (name : String) : Bool :=
  match v.get? name with
  | none | some .null => false
  | some _ => true

/-- The member that tags an object, if it is a string. -/
def tag? (v : Json) (name : String) : Option String :=
  match v.get? name with
  | some (.str tag) => some tag
  | _ => none

theorem tag?_eq_some {v : Json} {name tag : String} :
    tag? v name = some tag ↔ v.get? name = some (.str tag) := by
  unfold tag?
  split
  · next found => simp [found]
  · next other => simpa using other tag

/-- The members that an object of a shape has. A node or a form whose tag is unknown has none that
the schema could name, and is taken whole. -/
def slots? : Shape → Json → Option (List Slot)
  | .form, v => (tag? v "form").bind formSlots?
  | .expr, v =>
      ((tag? v "node").bind Kind.ofTag?).map (Kind.slots (present v "operand"))
  | .clause, _ =>
      some [required "body" (.list .expr), optional "guards" (.list (.list .expr)), loc,
        required "patterns" (.list .expr)]
  | .segment, _ => some [loc, optional "size" .expr, optional "types" .data, required "value" .expr]
  | .qualifier, v => (tag? v "qualifier").bind qualifierSlots?
  | .recordField, _ => some [loc, required "name" .data, required "value" .expr]
  | .entry, _ => some [required "key" .data, loc, required "value" .expr]
  | .after, _ => some [required "body" (.list .expr), required "timeout" .expr]
  | .data, _ | .number, _ | .list _, _ => none

end Shape

mutual

/-- The first value is the second one with the members that the schema does not name dropped and
those that may be absent filled in, at every depth. -/
inductive Kept : Shape → Json → Json → Prop
  | data {v : Json} : Kept .data v v
  /-- The two are equal as doubles. -/
  | number {w v : Json} {x : Float} (written : w.toFloat? = some x) (read : v.toFloat? = some x) :
      Kept .number w v
  | list {s : Shape} {ws vs : List Json} (items : KeptItems s ws vs) :
      Kept (.list s) (.arr ws) (.arr vs)
  | foreign {v : Json} (unknown : Shape.slots? .expr v = none) : Kept .expr v v
  | uninterpreted {v : Json} (unknown : Shape.slots? .form v = none) : Kept .form v v
  | object {s : Shape} {v : Json} {slots : List Slot} {ws : List (String × Json)}
      (known : s.slots? v = some slots) (members : KeptMembers v slots ws) : Kept s (.obj ws) v

/-- The items of two lists are kept one by one. -/
inductive KeptItems : Shape → List Json → List Json → Prop
  | nil {s : Shape} : KeptItems s [] []
  | cons {s : Shape} {w v : Json} {ws vs : List Json} (head : Kept s w v)
      (tail : KeptItems s ws vs) : KeptItems s (w :: ws) (v :: vs)

/-- A member of the first value: it is kept from the member of the second one, or filled in where
there is none. -/
inductive KeptMember : Json → Slot → String × Json → Prop
  | kept {v u w : Json} {s : Slot} (found : v.get? s.name = some u) (h : Kept s.shape w u) :
      KeptMember v s (s.name, w)
  | filled {v : Json} {s : Slot} (optional : s.isOptional = true)
      (absent : v.get? s.name = none ∨ v.get? s.name = some .null) :
      KeptMember v s (s.name, s.filler)

/-- The members of the first value are those that the schema names, one for each slot. -/
inductive KeptMembers : Json → List Slot → List (String × Json) → Prop
  | nil {v : Json} : KeptMembers v [] []
  | cons {v : Json} {s : Slot} {slots : List Slot} {m : String × Json}
      {ms : List (String × Json)} (head : KeptMember v s m) (tail : KeptMembers v slots ms) :
      KeptMembers v (s :: slots) (m :: ms)

end

end Unsugar
