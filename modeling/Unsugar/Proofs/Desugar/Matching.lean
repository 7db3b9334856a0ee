import Unsugar.Proofs.Desugar.Session

/-!
# Calls where the host matches

The host matches values against the patterns of clauses, the left sides of matches and the
patterns of generators, and no call may stand there. Clauses and matches set the role of a
pattern, so that sugar is left alone in them. Generators do not: their patterns inherit the role
of the comprehension, and in a body this role lets sugar become calls. So a matched place is told
apart from a place in the role of a pattern, and the two differ in the generators of bodies alone.

Main statement: in the matched places of a desugared unit there are calls just where calls were
before or where sugar of a body was, and outside of bodies just where calls were before
(`calls_in_matched_places`). The sugar cannot be left out of the statement
(`call_in_generator_pattern`).
-/

namespace Unsugar

/-- The node of a match. -/
def NodeHead.isBind : NodeHead → Bool
  | .bind => true
  | _ => false

def NodeHead.isCall : NodeHead → Bool
  | .call => true
  | _ => false

namespace Site

/-- Whether the child number `i` of a site is matched, for a site that is (`m`) or is not. A match
and a generator match their first child, and a clause matches its patterns; the guards and the
body of a clause begin anew. -/
def matchesChild (m : Bool) (s : Site) (i : Nat) : Bool :=
  match s.part with
  | .clause c => i < c.patterns.length
  | .qualifier (.generate ..) | .qualifier (.binGenerate ..) => i = 0 || m
  | .expr e => (e.head.isBind && i = 0) || m
  | _ => m

/-- In a matched place of the term stands a site with the property; the term itself is matched or
not (`m`). -/
inductive Matches (p : Site → Prop) : Bool → Site → Prop
  | here {s : Site} (h : p s) : Matches p true s
  | inside {m : Bool} {s c : Site} {i : Nat} (child : s.children[i]? = some c)
      (h : Matches p (s.matchesChild m i) c) : Matches p m s

theorem matches_iff {p : Site → Prop} {m : Bool} {s : Site} :
    Matches p m s ↔ (m = true ∧ p s) ∨
      ∃ i c, s.children[i]? = some c ∧ Matches p (s.matchesChild m i) c := by
  constructor
  · intro h
    cases h with
    | here h => exact Or.inl ⟨rfl, h⟩
    | inside child h => exact Or.inr ⟨_, _, child, h⟩
  · rintro (⟨rfl, h⟩ | ⟨i, c, child, h⟩)
    · exact .here h
    · exact .inside child h

/-- One of the children of a site from number `i` on holds the property in a matched place. -/
def AnyMatches (p : Site → Prop) (m : Bool) (s : Site) : Nat → List Site → Prop
  | _, [] => False
  | i, c :: cs => Matches p (s.matchesChild m i) c ∨ AnyMatches p m s (i + 1) cs

theorem anyMatches_iff {p : Site → Prop} {m : Bool} {s : Site} (i : Nat) (cs : List Site) :
    AnyMatches p m s i cs ↔
      ∃ j c, cs[j]? = some c ∧ Matches p (s.matchesChild m (i + j)) c := by
  induction cs generalizing i with
  | nil => simp [AnyMatches]
  | cons c cs ih =>
      rw [AnyMatches, ih]
      constructor
      · rintro (h | ⟨j, d, hd, h⟩)
        · exact ⟨0, c, rfl, h⟩
        · exact ⟨j + 1, d, hd, by rwa [Nat.add_right_comm] at h⟩
      · rintro ⟨_ | j, d, hd, h⟩
        · cases hd
          exact Or.inl h
        · exact Or.inr ⟨j, d, hd, by rwa [Nat.add_right_comm]⟩

/-- The children one after the other, for terms that are written out. -/
theorem matches_unfold {p : Site → Prop} {m : Bool} {s : Site} :
    Matches p m s ↔ (m = true ∧ p s) ∨ AnyMatches p m s 0 s.children := by
  rw [matches_iff, anyMatches_iff]
  simp only [Nat.zero_add]

/-- A site whose children are matched as it is itself. -/
theorem matches_iff_of_inherits {p : Site → Prop} {m : Bool} {s : Site}
    (inherits : ∀ i, s.matchesChild m i = m) :
    Matches p m s ↔ (m = true ∧ p s) ∨ ∃ c ∈ s.children, Matches p m c := by
  rw [matches_iff]
  simp only [inherits, List.mem_iff_getElem?]
  constructor
  · rintro (here | ⟨i, c, child, h⟩)
    · exact Or.inl here
    · exact Or.inr ⟨c, ⟨i, child⟩, h⟩
  · rintro (here | ⟨c, ⟨i, child⟩, h⟩)
    · exact Or.inl here
    · exact Or.inr ⟨i, c, child, h⟩

def isCall (s : Site) : Bool :=
  match s.part with
  | .expr (.call ..) => true
  | _ => false

/-- A call, or a site that is replaced by one: sugar, save for an update without entries, which is
replaced by its base. -/
def becomesCall (s : Site) : Bool :=
  match s.part with
  | .expr (.call ..) => true
  | .expr (.map _ (some _) []) => false
  | _ => s.isSugar

theorem isCall_eq (s : Site) : s.isCall = s.part.label?.any (·.head.isCall) := by
  obtain ⟨ctx, p⟩ := s
  cases p with
  | expr e => cases e <;> rfl
  | qualifier q => cases q <;> rfl
  | _ => rfl

theorem becomesCall_of_not_isSugar {s : Site} (h : s.isSugar = false) :
    s.becomesCall = s.isCall := by
  unfold becomesCall isCall
  split
  · next eq => rw [eq]
  · next eq => rw [eq]
  · next noCall _ =>
      split
      · next eq => exact absurd eq (noCall _ _ _)
      · exact h

/-- A call in one of some roles. -/
def CallIn (roles : Context → Prop) (s : Site) : Prop := s.isCall = true ∧ roles s.context

/-- A site that is a call after desugaring, in one of some roles. -/
def CallToBeIn (roles : Context → Prop) (s : Site) : Prop :=
  s.becomesCall = true ∧ roles s.context

/-! ## Container calls -/

section Calls

variable {roles : Context → Prop} {ctx : Context} {m : Bool}

theorem matches_atom (l : Loc) (name : String) :
    ¬ Matches (CallIn roles) m ⟨ctx, .expr (.lit l (.atom name))⟩ := by
  rw [matches_iff]
  simp [CallIn, isCall, children, belowExpr]

/-- The name of a remote call holds no calls, so its arguments and the call itself are left. -/
theorem matches_remoteCall (l : Loc) (module function : String) (args : List Expr) :
    Matches (CallIn roles) m ⟨ctx, .expr (.remoteCall l module function args)⟩ ↔
      (m = true ∧ roles ctx) ∨ ∃ a ∈ args, Matches (CallIn roles) m ⟨ctx, .expr a⟩ := by
  have callee : ¬ Matches (CallIn roles) m
      ⟨ctx, .expr (.remote l (.lit l (.atom module)) (.lit l (.atom function)))⟩ := by
    rw [matches_iff_of_inherits (fun _ => rfl)]
    simp [CallIn, isCall, children, belowExpr, each, matches_atom]
  rw [Expr.remoteCall, matches_iff_of_inherits (fun _ => rfl)]
  simp [CallIn, isCall, children, belowExpr, each, callee]

theorem matches_entry (e : Entry) :
    Matches (CallIn roles) m ⟨ctx, .entry e⟩ ↔ Matches (CallIn roles) m ⟨ctx, .expr e.value⟩ := by
  rw [matches_iff_of_inherits (fun _ => rfl)]
  simp [CallIn, isCall, children, each]

/-- A chain of stores is a call unless it is empty, and holds what its container and its entries
hold. -/
theorem matches_storeAll (b : Expr) (es : List Entry) :
    Matches (CallIn roles) m ⟨ctx, .expr (Container.storeAll b es)⟩ ↔
      (es ≠ [] ∧ m = true ∧ roles ctx) ∨ Matches (CallIn roles) m ⟨ctx, .expr b⟩ ∨
        ∃ e ∈ each ctx .entry es, Matches (CallIn roles) m e := by
  induction es generalizing b with
  | nil => simp [Container.storeAll, each]
  | cons e es ih =>
      show Matches _ m ⟨ctx, .expr (Container.storeAll (Container.store b e) es)⟩ ↔ _
      rw [ih, Container.store, matches_remoteCall]
      simp only [List.mem_cons, List.not_mem_nil, or_false, exists_eq_or_imp, exists_eq_left,
        matches_atom, false_or, each, List.map_cons, ne_eq, reduceCtorEq, not_false_eq_true,
        true_and, matches_entry e]
      tauto

end Calls

/-! ## What desugaring does to matched places -/

/-- Related sites agree place by place in what carries over along the relation. -/
theorem exists_getElem?_iff {R : Site → Site → Prop} {p q : Site → Prop} {cs ds : List Site}
    (h : List.Forall₂ R cs ds) (carries : ∀ c d, R c d → (p d ↔ q c)) (i : Nat) :
    (∃ d, ds[i]? = some d ∧ p d) ↔ ∃ c, cs[i]? = some c ∧ q c := by
  induction h generalizing i with
  | nil => simp
  | cons hcd _ ih =>
      cases i with
      | zero => simpa using carries _ _ hcd
      | succ i => simpa using ih i

theorem exists_mem_iff {R : Site → Site → Prop} {p q : Site → Prop} {cs ds : List Site}
    (h : List.Forall₂ R cs ds) (carries : ∀ c d, R c d → (p d ↔ q c)) :
    (∃ d ∈ ds, p d) ↔ ∃ c ∈ cs, q c := by
  induction h with
  | nil => simp
  | cons hcd _ ih => simp [carries _ _ hcd, ih]

/-- A site that is no sugar matches the same children after desugaring. -/
theorem matchesChild_desugar {s t : Site} (h : s.desugar = .ok t) (plain : s.isSugar = false)
    (m : Bool) (i : Nat) : t.matchesChild m i = s.matchesChild m i := by
  obtain ⟨ctx, p⟩ := s
  cases p with
  | expr e =>
      obtain ⟨e', he, h⟩ := Except.bind_eq_ok.mp h
      cases h
      have head : e'.head = e.head := congrArg NodeLabel.head (Expr.kept_of_desugar he plain).1
      simp only [matchesChild, head]
  | clause c =>
      obtain ⟨c', hc, h⟩ := Except.bind_eq_ok.mp h
      cases h
      simp only [matchesChild, (Clause.sameOutline_desugar hc).patterns]
  | qualifier q =>
      obtain ⟨q', hq, h⟩ := Except.bind_eq_ok.mp h
      cases h
      cases q with
      | generate l p e | binGenerate l p e =>
          obtain ⟨p', -, hq⟩ := Except.bind_eq_ok.mp hq
          obtain ⟨e', -, hq⟩ := Except.bind_eq_ok.mp hq
          cases hq
          rfl
      | filter test =>
          obtain ⟨test', -, hq⟩ := Except.bind_eq_ok.mp hq
          cases hq
          rfl
  | segment _ | recordField _ | entry _ =>
      obtain ⟨x', -, h⟩ := Except.bind_eq_ok.mp h
      cases h
      rfl

/-- An aggregate in a body matches what its entries match, and its base if it has one. -/
theorem matches_map {p : Site → Prop} {m : Bool} {l : Loc} {base : Option Expr} {es : List Entry} :
    Matches p m ⟨.body, .expr (.map l base es)⟩ ↔
      (m = true ∧ p ⟨.body, .expr (.map l base es)⟩) ∨
        (∃ b, base = some b ∧ Matches p m ⟨.body, .expr b⟩) ∨
        ∃ e ∈ each .body .entry es, Matches p m e := by
  rw [matches_iff_of_inherits (fun _ => rfl)]
  cases base <;> simp [children, belowExpr, each]

/-- In the matched places of a desugared term there are calls just where calls were or sugar was
that is replaced by calls. -/
theorem matches_desugar (roles : Context → Prop) (s : Site) : ∀ t, s.desugar = .ok t →
    ∀ m, Matches (CallIn roles) m t ↔ Matches (CallToBeIn roles) m s := by
  induction s using Site.induction with
  | step s ih =>
      intro t ht m
      obtain ⟨-, cs, below, assembled⟩ := desugar_ok ht
      have related := forall₂_outcomes below ih
      cases assembled with
      | kept sugar context label frame plain sound eq =>
          subst eq
          have here : CallIn roles t ↔ CallToBeIn roles s := by
            rw [CallIn, CallToBeIn, becomesCall_of_not_isSugar sugar, isCall_eq, isCall_eq, label,
              context]
          rw [matches_iff, matches_iff, here]
          simp only [matchesChild_desugar ht sugar]
          apply or_congr_right
          apply exists_congr
          intro i
          apply exists_getElem?_iff related
          intro c d hcd
          exact hcd _
      | @literal l es es' =>
          rw [matches_storeAll, matches_map, Container.new, matches_remoteCall,
            exists_mem_iff related fun c d hcd => hcd m]
          simp [CallToBeIn, becomesCall, isSugar]
          tauto
      | @update l b b' es es' =>
          obtain ⟨base, entries⟩ := List.forall₂_cons.mp related
          have length := entries.length_eq
          rw [matches_storeAll, matches_map, exists_mem_iff entries fun c d hcd => hcd m, base m]
          rcases es with _ | ⟨e, es⟩ <;> rcases es' with _ | ⟨e', es'⟩
          · simp [CallToBeIn, becomesCall]
          · simp [each] at length
          · simp [each] at length
          · simp [CallToBeIn, becomesCall, isSugar]
      | @access l b b' name base =>
          obtain ⟨accessed, -⟩ := List.forall₂_cons.mp related
          rw [Container.fetch, matches_remoteCall, matches_iff_of_inherits (fun _ => rfl)]
          simp [matches_atom, children, belowExpr, each, CallToBeIn, becomesCall, isSugar, base,
            accessed m]

end Site

/-! ## Units -/

/-- In a matched place of the form stands a site with the property. No clause of a function is
matched itself. -/
def Form.Matches (p : Site → Prop) (f : Form) : Prop :=
  ∃ c ∈ f.children, c.Matches p false

theorem Session.matches_transform (roles : Context → Prop) {s : Session} {fs fs' : List Form}
    (h : (s.transform fs).1 = .ok fs') :
    (∃ f ∈ fs', f.Matches (Site.CallIn roles)) ↔ ∃ f ∈ fs, f.Matches (Site.CallToBeIn roles) := by
  rw [transform_eq_ok_iff] at h
  induction h with
  | nil => simp
  | @cons f f' fs fs' hf _ ih =>
      have related : f'.Matches (Site.CallIn roles) ↔ f.Matches (Site.CallToBeIn roles) := by
        apply Site.exists_mem_iff (Form.desugar_ok hf)
        intro c d hcd
        exact Site.matches_desugar roles c d hcd false
      simp [related, ih]

/-- Patterns hold no calls after desugaring if they held none before, generators of bodies apart:
there, sugar becomes calls as it does elsewhere in a body. So the matched places of the new unit
hold a call if and only if those of the old one hold a call or sugar that is replaced by one; and
outside the role of a body if and only if those of the old one hold a call there. -/
theorem calls_in_matched_places {s : Session} {fs fs' : List Form}
    (h : (s.transform fs).1 = .ok fs') :
    ((∃ f ∈ fs', f.Matches fun n => n.isCall = true) ↔
      ∃ f ∈ fs, f.Matches fun n => n.becomesCall = true) ∧
    ((∃ f ∈ fs', f.Matches fun n => n.isCall = true ∧ n.context ≠ .body) ↔
      ∃ f ∈ fs, f.Matches fun n => n.isCall = true ∧ n.context ≠ .body) := by
  constructor
  · have everywhere := Session.matches_transform (fun _ => True) h
    have call : Site.CallIn (fun _ => True) = fun n => n.isCall = true := by
      funext n
      simp [Site.CallIn]
    have source : Site.CallToBeIn (fun _ => True) = fun n => n.becomesCall = true := by
      funext n
      simp [Site.CallToBeIn]
    rwa [call, source] at everywhere
  · have outside := Session.matches_transform (· ≠ .body) h
    have same : Site.CallToBeIn (· ≠ .body) = Site.CallIn (· ≠ .body) := by
      funext n
      simp only [Site.CallIn, Site.CallToBeIn, eq_iff_iff, and_congr_left_iff]
      intro role
      rw [Site.becomesCall_of_not_isSugar (Site.isSugar_eq_false role)]
    rwa [same] at outside

/-- The pattern and the matched literal are left alone, and the literal of the generator becomes a
call in a matched place. -/
theorem calls_in_matched_places_generator :
    let l := Loc.onLine 1
    let unit (generated : Expr) : List Form :=
      [.function l "f" 1 [⟨l, [.map l none []], [], [.bind l (.map l none []) (.var l "X"),
        .listComp l (.var l "X") [.generate l generated (.var l "L")]]⟩]]
    let run := Session.new.transform (unit (.map l none []))
    run.1 = .ok (unit (Container.new l)) ∧
    (∃ f ∈ unit (Container.new l), f.Matches fun n => n.isCall = true) ∧
    ¬ ∃ f ∈ unit (Container.new l), f.Matches fun n => n.isCall = true ∧ n.context ≠ .body := by
  intro l unit run
  have outcome : run.1 = .ok (unit (Container.new l)) := rfl
  obtain ⟨everywhere, outside⟩ := calls_in_matched_places outcome
  refine ⟨outcome, everywhere.mpr ?_, fun h => ?_⟩
  · simp [unit, Form.Matches, Form.children, Site.each, Site.matches_unfold, Site.AnyMatches,
      Site.children, Site.belowExpr, Site.matchesChild, Site.becomesCall, Site.isSugar, Expr.head,
      NodeHead.isBind]
  · have source := outside.mp h
    simp [unit, Form.Matches, Form.children, Site.each, Site.matches_unfold, Site.AnyMatches,
      Site.children, Site.belowExpr, Site.matchesChild, Site.isCall, Expr.head,
      NodeHead.isBind] at source

/-- Patterns of generators are no exception to roles: in a body, the aggregate that a generator
matches becomes a call, though no call stood in a matched place before. -/
theorem call_in_generator_pattern :
    let l := Loc.onLine 1
    let pattern : Expr := .map l none [⟨l, "a", .var l "A"⟩]
    let stored := Container.store (Container.new l) ⟨l, "a", .var l "A"⟩
    let unit (p : Expr) : List Form :=
      [.function l "f" 1 [⟨l, [.var l "L"], [],
        [.listComp l (.var l "A") [.generate l p (.var l "L")]]⟩]]
    (¬ ∃ f ∈ unit pattern, f.Matches fun n => n.isCall = true) ∧
    (Session.new.transform (unit pattern)).1 = .ok (unit stored) ∧
    ∃ f ∈ unit stored, f.Matches fun n => n.isCall = true := by
  intro l pattern stored unit
  refine ⟨?_, rfl, ?_⟩
  · simp [unit, pattern, Form.Matches, Form.children, Site.each, Site.matches_unfold,
      Site.AnyMatches, Site.children, Site.belowExpr, Site.matchesChild, Site.isCall, Expr.head,
      NodeHead.isBind]
  · simp [unit, stored, Container.store, Expr.remoteCall, Form.Matches, Form.children, Site.each,
      Site.matches_unfold, Site.AnyMatches, Site.children, Site.belowExpr, Site.matchesChild,
      Site.isCall, Expr.head, NodeHead.isBind]

end Unsugar
