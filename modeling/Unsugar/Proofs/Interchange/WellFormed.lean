import Unsugar.Proofs.Desugar.Nodes
import Unsugar.Proofs.Json.Finite
import Unsugar.Interchange.Writer

/-!
# Well-formed terms

Not every term has a form in the interchange: a double must be finite, and a node outside the
grammar must agree with the value it was read from. These are the terms that survive being
written. What a node must satisfy depends on its label alone, so desugaring, which makes no such
labels of its own, keeps terms well formed (`isWellFormed_of_transform`).
-/

namespace Unsugar

/-! ## Finite values -/

namespace Json

mutual

/-- Every double in the value is finite, as in every value that has a text. -/
def IsFinite : Json → Prop
  | .float x => x.isFinite = true
  | .arr items => ItemsFinite items
  | .obj members => MembersFinite members
  | .null | .bool _ | .int _ | .str _ => True

def ItemsFinite : List Json → Prop
  | [] => True
  | v :: rest => IsFinite v ∧ ItemsFinite rest

def MembersFinite : List (String × Json) → Prop
  | [] => True
  | (_, v) :: rest => IsFinite v ∧ MembersFinite rest

end

theorem ItemsFinite.of_mem {vs : List Json} (h : ItemsFinite vs) : ∀ v ∈ vs, v.IsFinite := by
  induction vs with
  | nil => simp
  | cons v vs ih => exact List.forall_mem_cons.mpr ⟨h.1, ih h.2⟩

theorem MembersFinite.of_mem {members : List (String × Json)} (h : MembersFinite members) :
    ∀ m ∈ members, m.2.IsFinite := by
  induction members with
  | nil => simp
  | cons m rest ih => exact List.forall_mem_cons.mpr ⟨h.1, ih h.2⟩

theorem IsFinite.get? {v u : Json} (h : v.IsFinite) {name : String}
    (found : v.get? name = some u) : u.IsFinite := by
  cases v with
  | obj members => exact MembersFinite.of_mem h (name, u) (Assoc.mem_of_lookup found)
  | _ => cases found

/-- The number a value stands for is finite: integers of 64 bits always are. -/
theorem IsFinite.toFloat? {v : Json} (h : v.IsFinite) {x : Float} (hx : v.toFloat? = some x) :
    x.isFinite = true := by
  cases v with
  | int n =>
      cases hx
      exact n.isFinite_toFloat
  | float y =>
      cases hx
      exact h
  | _ => cases hx

end Json

/-! ## Well-formed terms -/

/-- The location is the one that the value carries, or no place if it carries none. -/
def Loc.IsOf (l : Loc) (v : Json) : Prop :=
  match v.get? "loc" with
  | none | some .null => l = .unknown
  | some w => w = l.toJson

/-- What a node must satisfy to have a form in the interchange: a double is finite, and a node
outside the grammar has the tag and the location of the value it stands for. -/
def NodeLabel.IsSound : NodeLabel → Prop
  | ⟨_, .lit (.float x)⟩ => x.isFinite = true
  | ⟨l, .foreign tag raw⟩ =>
      raw.get? "node" = some (.str tag) ∧ (∀ k : Kind, k.tag ≠ tag) ∧ l.IsOf raw
  | _ => True

namespace Site

/-- All nodes of the term are sound. -/
def IsWellFormed (s : Site) : Prop := ∀ n ∈ s.nodes, ∀ label ∈ n.part.label?, label.IsSound

theorem isWellFormed_iff {s : Site} :
    s.IsWellFormed ↔
      (∀ label ∈ s.part.label?, label.IsSound) ∧ ∀ c ∈ s.children, c.IsWellFormed :=
  forall_mem_nodes

end Site

/-- A well-formed expression. Its role plays no part, so it stands in none. -/
def Expr.IsWellFormed (e : Expr) : Prop := Site.IsWellFormed ⟨.undefined, .expr e⟩

/-- A well-formed form: its clauses are, and if it is not interpreted it has no tag by which it
would be. -/
def Form.IsWellFormed : Form → Prop
  | .other v => ∀ tag ∈ ["file", "function", "attribute", "eof"], v.get? "form" ≠ some (.str tag)
  | f => ∀ c ∈ f.children, c.IsWellFormed

/-! ## Desugaring keeps terms well formed -/

namespace Site

theorem isWellFormed_of_desugar (s : Site) :
    s.IsWellFormed → ∀ t, s.desugar = .ok t → t.IsWellFormed := by
  have calls : HoldsInCalls fun n => ∀ label ∈ n.part.label?, label.IsSound := by
    constructor <;> simp [Part.label?, Expr.label, Expr.head, NodeLabel.IsSound]
  apply forall_mem_nodes_of_desugar calls
  intro s t sound label _ _
  rw [label]
  exact sound

end Site

theorem Form.isWellFormed_of_desugar {f f' : Form} (wellFormed : f.IsWellFormed)
    (h : f.desugar = .ok f') : f'.IsWellFormed := by
  cases f with
  | function l name arity cs =>
      have children : ∀ c ∈ f'.children, c.IsWellFormed :=
        Site.forall_outcomes (desugar_ok h) fun c hc =>
          Site.isWellFormed_of_desugar c (wellFormed c hc)
      rw [desugar, Desugared.within_eq_ok] at h
      obtain ⟨cs', -, h⟩ := Except.bind_eq_ok.mp h
      cases h
      exact children
  | _ =>
      cases h
      exact wellFormed

theorem Session.isWellFormed_of_transform {s : Session} {fs fs' : List Form}
    (h : (s.transform fs).1 = .ok fs') (wellFormed : ∀ f ∈ fs, f.IsWellFormed) :
    ∀ f ∈ fs', f.IsWellFormed := by
  rw [transform_eq_ok_iff] at h
  induction h with
  | nil => simp
  | cons hf _ ih =>
      obtain ⟨here, rest⟩ := List.forall_mem_cons.mp wellFormed
      exact List.forall_mem_cons.mpr ⟨Form.isWellFormed_of_desugar here hf, ih rest⟩

end Unsugar
