import Unsugar.Proofs.Json.Order
import Unsugar.Proofs.Interchange.RoundTrip
import Unsugar.Proofs.Interchange.Written
import Unsugar.Program.Options

/-!
# Forms as text

What is written as text is meant to be read again. Two things could stand in the way: a value that
its text does not denote, and a text that nests too deep. The first does not happen. What was read
from a value in key order is written as one (`Kept.isSorted`), since the schema names the members of
every object in key order, and transforming forms keeps it so. The second does.

Main statement: the text of forms that were read or transformed is read as the same forms, up to the
limit of nesting (`json_text_reads_back`).
-/

namespace Unsugar

open Json

/-! ## Order -/

theorem holdsInNodes_ascends : HoldsInNodes Ascends :=
  ⟨trivial, fun _ => trivial, fun _ => trivial, fun _ => trivial, id⟩

theorem holdsInNodes_isNoDouble : HoldsInNodes IsNoDouble :=
  ⟨trivial, fun _ => trivial, fun _ => trivial, fun _ => trivial, fun _ => trivial⟩

theorem Kind.slots_sorted (unary : Bool) (k : Kind) :
    ((k.slots unary).map Slot.name).Pairwise (· < ·) := by
  cases k <;> cases unary <;> decide

/-- The schema names the members of every object in key order. -/
theorem Shape.slots?_sorted {s : Shape} {v : Json} {slots : List Slot}
    (h : s.slots? v = some slots) : (slots.map Slot.name).Pairwise (· < ·) := by
  cases s with
  | form =>
      obtain ⟨tag, -, known⟩ := Option.bind_eq_some_iff.mp h
      unfold formSlots? at known
      split at known <;> cases known <;> decide
  | expr =>
      obtain ⟨k, -, rfl⟩ := Option.map_eq_some_iff.mp h
      exact k.slots_sorted _
  | qualifier =>
      obtain ⟨tag, -, known⟩ := Option.bind_eq_some_iff.mp h
      unfold qualifierSlots? at known
      split at known <;> cases known <;> decide
  | data | number | list _ => cases h
  | clause | segment | recordField | entry | after =>
      cases h
      decide

theorem KeptMembers.names {v : Json} {slots : List Slot} {ms : List (String × Json)}
    (h : KeptMembers v slots ms) : ms.map Prod.fst = slots.map Slot.name := by
  induction slots generalizing ms with
  | nil =>
      cases h
      rfl
  | cons s slots ih =>
      cases h with
      | cons head tail =>
          rw [List.map_cons, List.map_cons, ih tail]
          cases head <;> rfl

mutual

/-- What is kept of a value in key order is in key order. -/
theorem Kept.isSorted {s : Shape} {w v : Json} : Kept s w v → v.IsSorted → w.IsSorted
  | .data, sorted | .foreign _, sorted | .uninterpreted _, sorted => sorted
  | .number written _, _ => by
      cases w with
      | int n => trivial
      | float x => trivial
      | _ => cases written
  | .list items, sorted =>
      everywhere_arr.mpr ⟨trivial, KeptItems.isSorted items (everywhere_arr.mp sorted).2⟩
  | .object known members, sorted => by
      refine everywhere_obj.mpr ⟨?_, KeptMembers.isSorted members sorted⟩
      have names := Shape.slots?_sorted known
      rw [← members.names, List.pairwise_map] at names
      exact names

theorem KeptItems.isSorted {s : Shape} {ws vs : List Json} : KeptItems s ws vs →
    (∀ v ∈ vs, v.IsSorted) → ∀ w ∈ ws, w.IsSorted
  | .nil, _ => by simp
  | .cons head tail, sorted => by
      obtain ⟨here, rest⟩ := List.forall_mem_cons.mp sorted
      exact List.forall_mem_cons.mpr ⟨head.isSorted here, tail.isSorted rest⟩

theorem KeptMember.isSorted {v : Json} {s : Slot} {m : String × Json} : KeptMember v s m →
    v.IsSorted → m.2.IsSorted
  | .kept found h, sorted => h.isSorted (Everywhere.get? sorted found)
  | .filled _ _, _ => by
      show s.filler.IsSorted
      unfold Slot.filler
      split
      · exact everywhere_arr.mpr ⟨trivial, by simp⟩
      · trivial

theorem KeptMembers.isSorted {v : Json} {slots : List Slot} {ms : List (String × Json)} :
    KeptMembers v slots ms → v.IsSorted → ∀ m ∈ ms, m.2.IsSorted
  | .nil, _ => by simp
  | .cons head tail, sorted =>
      List.forall_mem_cons.mpr ⟨head.isSorted sorted, tail.isSorted sorted⟩

end

/-! ## Reading back -/

/-- The label holds no floating-point number, neither as a literal nor in a foreign value. -/
def NodeLabel.IsExact : NodeLabel → Prop
  | ⟨_, .lit (.float _)⟩ => False
  | ⟨_, .foreign _ raw⟩ => raw.IsExact
  | _ => True

namespace Form

/-- The form holds no floating-point number. -/
def IsExact : Form → Prop
  | .attr _ _ v | .other v => v.IsExact
  | f => ∀ c ∈ f.children, ∀ n ∈ c.nodes, ∀ label ∈ n.part.label?, label.IsExact

/-- The forms were read from a value, or are what such forms were transformed to. A value from
outside has finite numbers, and its objects are in key order. -/
inductive Obtained : List Form → Prop
  | read {v : Json} {fs : List Form} (finite : v.IsFinite) (sorted : v.IsSorted)
      (h : listOfJson v = .ok fs) : Obtained fs
  | transform {s : Session} {fs fs' : List Form} (before : Obtained fs)
      (h : (s.transform fs).1 = .ok fs') : Obtained fs'

/-- Forms read from a text are obtained if its doubles are finite: the order comes with reading. -/
theorem Obtained.of_parse {text : String} {v : Json} {fs : List Form} (parsed : parse text = .ok v)
    (finite : v.IsFinite) (h : listOfJson v = .ok fs) : Obtained fs :=
  .read finite (isSorted_of_parse parsed) h

theorem Obtained.isWellFormed {fs : List Form} (obtained : Obtained fs) :
    ∀ f ∈ fs, f.IsWellFormed := by
  induction obtained with
  | read finite _ h => exact (isWellFormed_and_kept_of_listOfJson finite h).1
  | transform _ h ih => exact Session.isWellFormed_of_transform h ih

theorem Obtained.isSorted {fs : List Form} (obtained : Obtained fs) : (listToJson fs).IsSorted := by
  refine (everywhere_listToJson holdsInNodes_ascends).mpr ?_
  induction obtained with
  | read finite sorted h =>
      have kept := (isWellFormed_and_kept_of_listOfJson finite h).2
      exact (everywhere_listToJson holdsInNodes_ascends).mp (kept.isSorted sorted)
  | transform _ h ih => exact Session.holds_of_transform h ih

theorem isExact_listToJson {fs : List Form} (exactly : ∀ f ∈ fs, f.IsExact) :
    (listToJson fs).IsExact := by
  have labels (label : NodeLabel) (h : label.IsExact) : label.Holds IsNoDouble := by
    unfold NodeLabel.Holds
    split
    · exact absurd h id
    · exact h
    · trivial
  refine (everywhere_listToJson holdsInNodes_isNoDouble).mpr fun f hf => ?_
  have h := exactly f hf
  cases f with
  | attr | other => exact h
  | _ => exact fun c hc n hn label hl => labels label (h c hc n hn label hl)

end Form

/-- What was written as text is read back up to the limit of nesting. Forms without floating-point
numbers that were read, or were transformed from such forms, have a JSON text that reads as the same
forms if lists and objects nest at most 127 deep in it, and that is refused for its nesting if they
nest deeper. -/
theorem json_text_reads_back {fs : List Form} (obtained : Form.Obtained fs)
    (exactly : ∀ f ∈ fs, f.IsExact) :
    ((Form.listToJson fs).depth ≤ 127 → Form.listOfText (Format.json.render fs) = .ok fs) ∧
      (127 < (Form.listToJson fs).depth → ∃ e,
        Form.listOfText (Format.json.render fs) = .error (.text e) ∧ e.fault = .tooDeep) := by
  obtain ⟨shallow, deep⟩ := parse_indented obtained.isSorted (Form.isExact_listToJson exactly)
  have text : Format.json.render fs = (Form.listToJson fs).indented ++ "\n" := rfl
  rw [Form.listOfText, text]
  constructor
  · intro nested
    rw [shallow nested]
    exact Form.listOfJson_listToJson obtained.isWellFormed
  · intro nested
    obtain ⟨e, refused, fault⟩ := deep nested
    rw [refused]
    exact ⟨e, rfl, fault⟩

namespace Json

/-- A null in lists nested `n` deep. -/
def nested : (n : Nat) → Json
  | 0 => .null
  | n + 1 => .arr [nested n]

theorem depth_nested (n : Nat) : (nested n).depth = n := by
  induction n with
  | zero => rfl
  | succ n ih => rw [nested, depth, itemsDepth, itemsDepth, ih, Nat.max_zero]

theorem isFinite_nested (n : Nat) : (nested n).IsFinite := by
  induction n with
  | zero => trivial
  | succ n ih => exact ⟨ih, trivial⟩

theorem everywhere_nested {p : Json → Prop} (nodes : HoldsInNodes p) (n : Nat) :
    (nested n).Everywhere p := by
  induction n with
  | zero => exact nodes.null
  | succ n ih => exact everywhere_arr.mpr ⟨nodes.arr _, List.forall_mem_singleton.mpr ih⟩

theorem get?_nested (n : Nat) (name : String) : (nested n).get? name = none := by
  cases n <;> rfl

end Json

/-- A unit that was rewritten is read back from its text, and a list nested too deep is not. -/
theorem json_text_reads_back_unit :
    let l := Loc.onLine 1
    let forms (body : Expr) : List Form :=
      [.function l "f" 0 [⟨l, [], [], [body]⟩],
        .attr l "vsn" (.obj [("a", .bool true), ("b", .null)])]
    let sugar : Expr := .map l none [⟨l, "k", .lit l (.integer 1)⟩]
    let call : Expr := Container.store (Container.new l) ⟨l, "k", .lit l (.integer 1)⟩
    let deep : List Form := [.other (.nested 127)]
    (Session.new.transform (forms sugar)).1 = .ok (forms call) ∧
      Form.listOfText (Format.json.render (forms call)) = .ok (forms call) ∧
      ∃ e, Form.listOfText (Format.json.render deep) = .error (.text e) ∧ e.fault = .tooDeep := by
  intro l forms sugar call deep
  have wellFormed : ∀ f ∈ forms sugar, f.IsWellFormed := by
    refine List.forall_mem_cons.mpr ⟨List.forall_mem_singleton.mpr ?_, ?_⟩
    case refine_2 => simp [Form.IsWellFormed, Form.children]
    rw [Site.IsWellFormed, Site.nodes_eq]
    simp [sugar, Site.nodes_eq, Site.children, Site.belowExpr, Site.each, Part.label?, Expr.label,
      Entry.label, Expr.head, NodeLabel.IsSound]
  have read := Form.listOfJson_listToJson wellFormed
  have rewritten : (Session.new.transform (forms sugar)).1 = .ok (forms call) := rfl
  have finite : (Form.listToJson (forms sugar)).IsFinite := by
    simp [l, forms, sugar, Form.listToJson, Form.toJson, Clause.listToJson, Clause.toJson,
      Expr.listToJson, Expr.guardsToJson, Expr.toJson, Expr.optToJson, Entry.listToJson,
      Entry.toJson, Literal.node, Literal.toJson, ofUInt32, Loc.onLine, Loc.toJson, IsFinite,
      ItemsFinite, MembersFinite]
  have sorted : (Form.listToJson (forms sugar)).IsSorted := by
    simp [l, forms, sugar, Form.listToJson, Form.toJson, Clause.listToJson, Clause.toJson,
      Expr.listToJson, Expr.guardsToJson, Expr.toJson, Expr.optToJson, Entry.listToJson,
      Entry.toJson, Literal.node, Literal.toJson, ofUInt32, Loc.onLine, Loc.toJson, IsSorted,
      Everywhere, ItemsEverywhere, MembersEverywhere, Ascends, Assoc.Sorted,
      -String.lt_iff_ltb]
  have code : ∀ c ∈ Form.children (.function l "f" 0 [⟨l, [], [], [call]⟩]), ∀ n ∈ c.nodes,
      ∀ label ∈ n.part.label?, label.IsExact := by
    refine List.forall_mem_singleton.mpr ?_
    rw [Site.nodes_eq]
    simp [call, Container.store, Container.new, Expr.remoteCall, Site.nodes_eq, Site.children,
      Site.belowExpr, Site.each, Part.label?, Expr.label, Expr.head, NodeLabel.IsExact]
  have exactly : ∀ f ∈ forms call, f.IsExact := by
    refine List.forall_mem_cons.mpr ⟨code, List.forall_mem_singleton.mpr ?_⟩
    exact everywhere_obj.mpr ⟨trivial, by simp [Everywhere, IsNoDouble]⟩
  have readDeep : Form.listOfJson (Form.listToJson deep) = .ok deep := by
    refine Form.listOfJson_listToJson (List.forall_mem_singleton.mpr fun tag _ => ?_)
    rw [get?_nested]
    simp
  refine ⟨rewritten, ?_, ?_⟩
  · apply (json_text_reads_back (.transform (.read finite sorted read) rewritten) exactly).1
    decide
  · have sortedDeep : (Form.listToJson deep).IsSorted := everywhere_arr.mpr
      ⟨trivial, List.forall_mem_singleton.mpr (everywhere_nested holdsInNodes_ascends _)⟩
    have finiteDeep : (Form.listToJson deep).IsFinite := ⟨isFinite_nested _, trivial⟩
    apply (json_text_reads_back (.read finiteDeep sortedDeep readDeep)
      (List.forall_mem_singleton.mpr (everywhere_nested holdsInNodes_isNoDouble _))).2
    simp only [deep, Form.listToJson, List.map_cons, List.map_nil, Form.toJson, depth, itemsDepth,
      depth_nested]
    decide

end Unsugar
