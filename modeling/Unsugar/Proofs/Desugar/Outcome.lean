import Unsugar.Proofs.Desugar.Label
import Unsugar.Proofs.Except
import Unsugar.Desugar.Expr
import Mathlib.Data.List.Forall2

/-!
# What desugaring does at a site

The walker has one arm for each constructor. This module goes through them once: at a site that is
no offence, desugaring handles the children in order and puts their outcomes together (`Follows`,
`Assembled`); at an offence it stops (`desugar_offence`). All that is proved of whole terms is
proved from these two facts, by induction on sites.
-/

namespace Unsugar

/-! ## Outcomes -/

namespace Desugared

variable {α : Type}

@[simp] theorem within_ok (f : Frame) (a : α) : Desugared.within f (.ok a) = .ok a := rfl

@[simp] theorem within_error (f : Frame) (r : Refusal) :
    Desugared.within (α := α) f (.error r) = .error (r.within f) := rfl

theorem within_eq_ok {f : Frame} {x : Desugared α} {a : α} :
    Desugared.within f x = .ok a ↔ x = .ok a := by
  cases x <;> simp

/-- A list function that handles the items in turn goes on in the second list where the first one
ends. -/
theorem handles_append {f : α → Desugared α} (F : List α → Desugared (List α))
    (nil : F [] = .ok []) (cons : ∀ x xs, F (x :: xs) = return (← f x) :: (← F xs))
    (xs ys : List α) : F (xs ++ ys) = return (← F xs) ++ (← F ys) := by
  have inTurn : ∀ zs, F zs = zs.mapM f := by
    intro zs
    induction zs with
    | nil => rw [nil, List.mapM_nil, Except.pure_eq_ok]
    | cons z zs ih => rw [cons, ih, List.mapM_cons]
  rw [inTurn, inTurn xs, inTurn ys, List.mapM_append]

/-- Both outcomes are the same result, or both are refusals that look the same in the view. -/
inductive SameUpTo (view : Refusal → Refusal) : Desugared α → Desugared α → Prop
  | ok (a : α) : SameUpTo view (.ok a) (.ok a)
  | error {r r' : Refusal} (h : view r = view r') : SameUpTo view (.error r) (.error r')

namespace SameUpTo

variable {view : Refusal → Refusal} {x y z : Desugared α}

theorem refl (x : Desugared α) : SameUpTo view x x := by
  cases x with
  | error r => exact .error rfl
  | ok a => exact .ok a

theorem trans (h : SameUpTo view x y) (h' : SameUpTo view y z) : SameUpTo view x z := by
  cases h with
  | ok a => exact h'
  | error same =>
      cases h' with
      | error same' => exact .error (same.trans same')

theorem eq_ok_iff (h : SameUpTo view x y) {a : α} : x = .ok a ↔ y = .ok a := by
  cases h <;> simp

end SameUpTo

end Desugared

/-! ## Desugaring at a site -/

/-- A segment with its value and its size desugared. -/
def Segment.desugar (ctx : Context) (s : Segment) : Desugared Segment :=
  return ⟨s.loc, ← s.value.desugar ctx, ← Expr.desugarOpt ctx s.size, s.types⟩

def RecordField.desugar (ctx : Context) (f : RecordField) : Desugared RecordField :=
  return ⟨f.loc, f.name, ← f.value.desugar ctx⟩

def Entry.desugar (ctx : Context) (e : Entry) : Desugared Entry :=
  return ⟨e.loc, e.key, ← e.value.desugar ctx⟩

theorem Expr.desugarList_toList (ctx : Context) (e : Option Expr) :
    Expr.desugarList ctx e.toList = Option.toList <$> Expr.desugarOpt ctx e := by
  cases e with
  | none => rfl
  | some e => cases h : e.desugar ctx <;> simp [Expr.desugarList, Expr.desugarOpt, h]

theorem Expr.desugarList_append (ctx : Context) (es fs : List Expr) :
    Expr.desugarList ctx (es ++ fs) =
      return (← Expr.desugarList ctx es) ++ (← Expr.desugarList ctx fs) :=
  Desugared.handles_append (Expr.desugarList ctx) rfl (fun _ _ => rfl) es fs

theorem Expr.desugarList_flatten (ctx : Context) (gs : List (List Expr)) :
    Expr.desugarList ctx gs.flatten = List.flatten <$> Expr.desugarGuards ctx gs := by
  induction gs with
  | nil => rfl
  | cons g gs ih =>
      rw [List.flatten_cons, desugarList_append, ih, Expr.desugarGuards]
      cases Expr.desugarList ctx g <;> cases Expr.desugarGuards ctx gs <;> rfl

theorem Expr.eq_of_atomName? {e : Expr} {name : String} (h : e.atomName? = some name) :
    ∃ l, e = .lit l (.atom name) := by
  unfold atomName? at h
  split at h
  · cases h
    exact ⟨_, rfl⟩
  · cases h

theorem Expr.eq_of_isEmptyAtom {e : Expr} (h : e.isEmptyAtom = true) :
    ∃ l, e = .lit l (.atom "") :=
  eq_of_atomName? (of_decide_eq_true h)

/-- A node that no desugaring accepts, with its role and the way from it outwards. -/
structure Offence where
  node : Expr
  context : Context
  trail : List Frame

/-- What an offence is refused with. A field with no base is wrong as written; for all others a rule
is missing. -/
def Offence.refusal (o : Offence) : Refusal :=
  match o.node with
  | .field l none name => .missingBase l name
  | e => .unsupported e o.context o.trail

namespace Site

/-- A site that no desugaring accepts: a node outside the grammar, a field with no base, or a field
access in a pattern. -/
def isOffence (s : Site) : Bool :=
  match s.part with
  | .expr (.foreign ..) | .expr (.field _ none _) => true
  | .expr (.field _ (some base) _) => s.context = .pattern && !base.isEmptyAtom
  | _ => false

/-- A site whose node is replaced: an aggregate or a field access in a body. -/
def isSugar (s : Site) : Bool :=
  match s.part with
  | .expr (.map ..) => s.context = .body
  | .expr (.field _ (some base) _) => s.context = .body && !base.isEmptyAtom
  | _ => false

/-- Sugar is only replaced in bodies. -/
theorem isSugar_eq_false {s : Site} (h : s.context ≠ .body) : s.isSugar = false := by
  unfold isSugar
  split <;> simp [h]

/-- The frame that a node adds to the trail of a refusal. -/
def frame? : Site → Option Frame
  | ⟨_, .expr e⟩ => some ⟨e.tag, e.loc⟩
  | ⟨_, .clause c⟩ => some ⟨"clause", c.loc⟩
  | _ => none

/-- A refusal as seen from outside the site. -/
def outward (s : Site) (r : Refusal) : Refusal := (s.frame?.map r.within).getD r

/-- The site after desugaring. -/
def desugar : Site → Desugared Site
  | ⟨ctx, .expr e⟩ => return ⟨ctx, .expr (← e.desugar ctx)⟩
  | ⟨ctx, .clause c⟩ => return ⟨ctx, .clause (← c.desugar)⟩
  | ⟨ctx, .segment s⟩ => return ⟨ctx, .segment (← s.desugar ctx)⟩
  | ⟨ctx, .qualifier q⟩ => return ⟨ctx, .qualifier (← q.desugar ctx)⟩
  | ⟨ctx, .recordField f⟩ => return ⟨ctx, .recordField (← f.desugar ctx)⟩
  | ⟨ctx, .entry e⟩ => return ⟨ctx, .entry (← e.desugar ctx)⟩

theorem desugar_expr {ctx : Context} {e e' : Expr} (h : e.desugar ctx = .ok e') :
    desugar ⟨ctx, .expr e⟩ = .ok ⟨ctx, .expr e'⟩ := by
  rw [desugar, h]
  rfl

/-- How a site is put together again from its children once they are desugared. A site that is no
sugar keeps its label and its frame; sugar becomes calls. -/
inductive Assembled : Site → List Site → Site → Prop
  | kept {s t : Site} {cs : List Site} (sugar : s.isSugar = false := by rfl)
      (context : t.context = s.context := by rfl)
      (label : t.part.label? = s.part.label? := by rfl) (frame : t.frame? = s.frame? := by rfl)
      (plain : t.isSugar = false := by rfl) (sound : t.isOffence = false := by rfl)
      (below : cs = t.children := by rfl) : Assembled s cs t
  | literal {l : Loc} {es es' : List Entry} :
      Assembled ⟨.body, .expr (.map l none es)⟩ (each .body .entry es')
        ⟨.body, .expr (Container.storeAll (Container.new l) es')⟩
  | update {l : Loc} {b b' : Expr} {es es' : List Entry} :
      Assembled ⟨.body, .expr (.map l (some b) es)⟩ (⟨.body, .expr b'⟩ :: each .body .entry es')
        ⟨.body, .expr (Container.storeAll b' es')⟩
  | access {l : Loc} {b b' : Expr} {name : String} (base : b.isEmptyAtom = false) :
      Assembled ⟨.body, .expr (.field l (some b) name)⟩ [⟨.body, .expr b'⟩]
        ⟨.body, .expr (Container.fetch l name b')⟩

section Children

variable (ctx : Context)

/-- Desugaring the children of one sort in turn is what a list function does that handles the items
in turn. -/
theorem mapM_each {α : Type} {node : α → Part} {f : α → Desugared α}
    (F : List α → Desugared (List α))
    (item : ∀ x, desugar ⟨ctx, node x⟩ = return ⟨ctx, node (← f x)⟩)
    (nil : F [] = .ok []) (cons : ∀ x xs, F (x :: xs) = return (← f x) :: (← F xs))
    (xs : List α) : (each ctx node xs).mapM desugar = each ctx node <$> F xs := by
  induction xs with
  | nil => simp [nil, each]
  | cons x xs ih =>
      simp only [each, List.map_cons, List.mapM_cons] at ih ⊢
      rw [item, ih, cons]
      cases f x <;> cases F xs <;> rfl

theorem mapM_exprs (es : List Expr) :
    (each ctx .expr es).mapM desugar = each ctx .expr <$> Expr.desugarList ctx es :=
  mapM_each ctx (Expr.desugarList ctx) (fun _ => rfl) rfl (fun _ _ => rfl) es

theorem mapM_clauses (cs : List Clause) :
    (each ctx .clause cs).mapM desugar = each ctx .clause <$> Clause.desugarList cs :=
  mapM_each ctx Clause.desugarList (fun _ => rfl) rfl (fun _ _ => rfl) cs

theorem mapM_segments (ss : List Segment) :
    (each ctx .segment ss).mapM desugar = each ctx .segment <$> Segment.desugarList ctx ss := by
  apply mapM_each ctx (Segment.desugarList ctx) (fun _ => rfl) rfl
  rintro ⟨l, e, size, types⟩ ss
  simp [Segment.desugarList, Segment.desugar]

theorem mapM_qualifiers (qs : List Qualifier) :
    (each ctx .qualifier qs).mapM desugar = each ctx .qualifier <$> Qualifier.desugarList ctx qs :=
  mapM_each ctx (Qualifier.desugarList ctx) (fun _ => rfl) rfl (fun _ _ => rfl) qs

theorem mapM_recordFields (fs : List RecordField) :
    (each ctx .recordField fs).mapM desugar =
      each ctx .recordField <$> RecordField.desugarList ctx fs := by
  apply mapM_each ctx (RecordField.desugarList ctx) (fun _ => rfl) rfl
  rintro ⟨l, name, e⟩ fs
  simp [RecordField.desugarList, RecordField.desugar]

theorem mapM_entries (es : List Entry) :
    (each ctx .entry es).mapM desugar = each ctx .entry <$> Entry.desugarList ctx es := by
  apply mapM_each ctx (Entry.desugarList ctx) (fun _ => rfl) rfl
  rintro ⟨l, key, e⟩ es
  simp [Entry.desugarList, Entry.desugar]

theorem mapM_after (after : Option After) :
    (belowAfter ctx after).mapM desugar = belowAfter ctx <$> After.desugarOpt ctx after := by
  rcases after with _ | ⟨timeout, es⟩
  · rfl
  · rw [belowAfter, mapM_exprs, Expr.desugarList, After.desugarOpt]
    cases timeout.desugar ctx <;> cases Expr.desugarList ctx es <;> rfl

end Children

/-- What desugaring makes of a site is settled by what it makes of the children: it assembles their
outcomes, or passes on the first refusal among them. -/
def Follows (s : Site) : Prop :=
  match s.desugar with
  | .ok t => ∃ cs, s.children.mapM desugar = .ok cs ∧ Assembled s cs t
  | .error r => ∃ r', s.children.mapM desugar = .error r' ∧ r = s.outward r'

theorem follows_map (ctx : Context) (l : Loc) (base : Option Expr) (es : List Entry) :
    Follows ⟨ctx, .expr (.map l base es)⟩ := by
  simp only [Follows, desugar, Expr.desugar, children, belowExpr, List.mapM_append,
    mapM_exprs, Expr.desugarList_toList, mapM_entries]
  cases hbase : Expr.desugarOpt ctx base with
  | error r => exact ⟨_, rfl, rfl⟩
  | ok base' =>
      cases Entry.desugarList ctx es with
      | error r => exact ⟨_, rfl, rfl⟩
      | ok es' =>
          by_cases body : ctx = .body
          · subst body
            rcases base with _ | b
            · cases hbase
              exact ⟨_, rfl, .literal⟩
            · cases hb : b.desugar .body with
              | error r => simp [Expr.desugarOpt, hb] at hbase
              | ok b' =>
                  simp only [Expr.desugarOpt, hb] at hbase
                  cases hbase
                  exact ⟨_, rfl, .update⟩
          · simp only [if_neg body]
            exact ⟨_, rfl,
              .kept (by simp [isSugar, body]) rfl rfl rfl (by simp [isSugar, body]) rfl rfl⟩

theorem follows_field {ctx : Context} {l : Loc} {base : Option Expr} {name : String}
    (h : isOffence ⟨ctx, .expr (.field l base name)⟩ = false) :
    Follows ⟨ctx, .expr (.field l base name)⟩ := by
  rcases base with _ | b
  · simp [isOffence] at h
  · cases root : b.isEmptyAtom with
    | true =>
        obtain ⟨l', rfl⟩ := Expr.eq_of_isEmptyAtom root
        exact ⟨_, rfl, .kept (by simp [isSugar, root]) rfl rfl rfl (by simp [isSugar, root])
          (by simp [isOffence, root]) rfl⟩
    | false =>
        simp only [Follows, desugar, Expr.desugar, children, belowExpr, Option.toList, mapM_exprs,
          Expr.desugarList, root]
        cases hb : b.desugar ctx with
        | error r =>
            cases ctx with
            | pattern => simp [isOffence, root] at h
            | body | undefined | guard => exact ⟨_, rfl, rfl⟩
        | ok b' =>
            cases ctx with
            | pattern => simp [isOffence, root] at h
            | body => exact ⟨_, rfl, .access root⟩
            | undefined | guard => exact ⟨_, rfl, .kept⟩

theorem follows_expr {ctx : Context} {e : Expr} (h : isOffence ⟨ctx, .expr e⟩ = false) :
    Follows ⟨ctx, .expr e⟩ := by
  -- In each arm the children are gone through in order: the first refusal among them is passed on,
  -- and when all are desugared the node is rebuilt from them.
  cases e with
  | foreign l tag raw => simp [isOffence] at h
  | lit l v | var l v | funRef l name arity | recordIndex l name field =>
      exact ⟨_, rfl, .kept⟩
  | tuple l es | block l es =>
      simp only [Follows, desugar, Expr.desugar, children, belowExpr, mapM_exprs]
      cases Expr.desugarList ctx es with
      | error r => exact ⟨_, rfl, rfl⟩
      | ok es' => exact ⟨_, rfl, .kept⟩
  | unOp l op a | catching l a | recordField l a name field =>
      simp only [Follows, desugar, Expr.desugar, children, belowExpr, mapM_exprs, Expr.desugarList]
      cases a.desugar ctx with
      | error r => exact ⟨_, rfl, rfl⟩
      | ok a' => exact ⟨_, rfl, .kept⟩
  | cons l a b | binOp l op a b | remote l a b =>
      simp only [Follows, desugar, Expr.desugar, children, belowExpr, mapM_exprs, Expr.desugarList]
      cases a.desugar ctx with
      | error r => exact ⟨_, rfl, rfl⟩
      | ok a' =>
          cases b.desugar ctx with
          | error r => exact ⟨_, rfl, rfl⟩
          | ok b' => exact ⟨_, rfl, .kept⟩
  | bind l p a =>
      simp only [Follows, desugar, Expr.desugar, children, belowExpr, List.mapM_cons, List.mapM_nil]
      cases p.desugar .pattern with
      | error r => exact ⟨_, rfl, rfl⟩
      | ok p' =>
          cases a.desugar ctx with
          | error r => exact ⟨_, rfl, rfl⟩
          | ok a' => exact ⟨_, rfl, .kept⟩
  | remoteFunRef l m f a =>
      simp only [Follows, desugar, Expr.desugar, children, belowExpr, mapM_exprs, Expr.desugarList]
      cases m.desugar ctx with
      | error r => exact ⟨_, rfl, rfl⟩
      | ok m' =>
          cases f.desugar ctx with
          | error r => exact ⟨_, rfl, rfl⟩
          | ok f' =>
              cases a.desugar ctx with
              | error r => exact ⟨_, rfl, rfl⟩
              | ok a' => exact ⟨_, rfl, .kept⟩
  | call l f args =>
      simp only [Follows, desugar, Expr.desugar, children, belowExpr, mapM_exprs, Expr.desugarList]
      cases f.desugar ctx with
      | error r => exact ⟨_, rfl, rfl⟩
      | ok f' =>
          cases Expr.desugarList ctx args with
          | error r => exact ⟨_, rfl, rfl⟩
          | ok args' => exact ⟨_, rfl, .kept⟩
  | bin l ss =>
      simp only [Follows, desugar, Expr.desugar, children, belowExpr, mapM_segments]
      cases Segment.desugarList ctx ss with
      | error r => exact ⟨_, rfl, rfl⟩
      | ok ss' => exact ⟨_, rfl, .kept⟩
  | listComp l t qs | binComp l t qs =>
      simp only [Follows, desugar, Expr.desugar, children, belowExpr, List.mapM_append, mapM_exprs,
        mapM_qualifiers, Expr.desugarList]
      cases t.desugar ctx with
      | error r => exact ⟨_, rfl, rfl⟩
      | ok t' =>
          cases Qualifier.desugarList ctx qs with
          | error r => exact ⟨_, rfl, rfl⟩
          | ok qs' => exact ⟨_, rfl, .kept⟩
  | ifs l cs | closure l cs | namedClosure l name cs =>
      simp only [Follows, desugar, Expr.desugar, children, belowExpr, mapM_clauses]
      cases Clause.desugarList cs with
      | error r => exact ⟨_, rfl, rfl⟩
      | ok cs' => exact ⟨_, rfl, .kept⟩
  | caseOf l s cs =>
      simp only [Follows, desugar, Expr.desugar, children, belowExpr, List.mapM_append, mapM_exprs,
        mapM_clauses, Expr.desugarList]
      cases s.desugar ctx with
      | error r => exact ⟨_, rfl, rfl⟩
      | ok s' =>
          cases Clause.desugarList cs with
          | error r => exact ⟨_, rfl, rfl⟩
          | ok cs' => exact ⟨_, rfl, .kept⟩
  | tryOf l es cs hs after =>
      simp only [Follows, desugar, Expr.desugar, children, belowExpr, List.mapM_append, mapM_exprs,
        mapM_clauses]
      cases Expr.desugarList ctx es with
      | error r => exact ⟨_, rfl, rfl⟩
      | ok es' =>
          cases Clause.desugarList cs with
          | error r => exact ⟨_, rfl, rfl⟩
          | ok cs' =>
              cases Clause.desugarList hs with
              | error r => exact ⟨_, rfl, rfl⟩
              | ok hs' =>
                  cases Expr.desugarList ctx after with
                  | error r => exact ⟨_, rfl, rfl⟩
                  | ok after' => exact ⟨_, rfl, .kept⟩
  | receive l cs after =>
      simp only [Follows, desugar, Expr.desugar, children, belowExpr, List.mapM_append,
        mapM_clauses, mapM_after]
      cases Clause.desugarList cs with
      | error r => exact ⟨_, rfl, rfl⟩
      | ok cs' =>
          cases After.desugarOpt ctx after with
          | error r => exact ⟨_, rfl, rfl⟩
          | ok after' => exact ⟨_, rfl, .kept⟩
  | record l base name fs =>
      simp only [Follows, desugar, Expr.desugar, children, belowExpr, List.mapM_append,
        mapM_exprs, Expr.desugarList_toList, mapM_recordFields]
      cases Expr.desugarOpt ctx base with
      | error r => exact ⟨_, rfl, rfl⟩
      | ok base' =>
          cases RecordField.desugarList ctx fs with
          | error r => exact ⟨_, rfl, rfl⟩
          | ok fs' => exact ⟨_, rfl, .kept⟩
  | exception l kind p stack =>
      simp only [Follows, desugar, Expr.desugar, children, belowExpr, List.mapM_append, mapM_exprs,
        Expr.desugarList_toList, Expr.desugarList]
      cases kind.desugar ctx with
      | error r => exact ⟨_, rfl, rfl⟩
      | ok kind' =>
          cases p.desugar ctx with
          | error r => exact ⟨_, rfl, rfl⟩
          | ok p' =>
              cases Expr.desugarOpt ctx stack with
              | error r => exact ⟨_, rfl, rfl⟩
              | ok stack' => exact ⟨_, rfl, .kept⟩
  | map l base es => exact follows_map ctx l base es
  | field l base name => exact follows_field h

theorem follows_clause (ctx : Context) (c : Clause) : Follows ⟨ctx, .clause c⟩ := by
  obtain ⟨l, patterns, guards, body⟩ := c
  simp only [Follows, desugar, Clause.desugar, children, List.mapM_append, mapM_exprs,
    Expr.desugarList_flatten]
  cases Expr.desugarList .pattern patterns with
  | error r => exact ⟨_, rfl, rfl⟩
  | ok patterns' =>
      cases Expr.desugarGuards .guard guards with
      | error r => exact ⟨_, rfl, rfl⟩
      | ok guards' =>
          cases Expr.desugarList .body body with
          | error r => exact ⟨_, rfl, rfl⟩
          | ok body' =>
              -- That the clause is kept is a matter of computing either side.
              exact ⟨_, rfl, .kept rfl rfl rfl rfl rfl rfl rfl⟩

theorem follows_segment (ctx : Context) (s : Segment) : Follows ⟨ctx, .segment s⟩ := by
  obtain ⟨l, e, size, types⟩ := s
  simp only [Follows, desugar, Segment.desugar, children, List.mapM_append, mapM_exprs,
    Expr.desugarList, Expr.desugarList_toList]
  cases e.desugar ctx with
  | error r => exact ⟨_, rfl, rfl⟩
  | ok e' =>
      cases Expr.desugarOpt ctx size with
      | error r => exact ⟨_, rfl, rfl⟩
      | ok size' => exact ⟨_, rfl, .kept rfl rfl rfl rfl rfl rfl rfl⟩

theorem follows_qualifier (ctx : Context) (q : Qualifier) : Follows ⟨ctx, .qualifier q⟩ := by
  cases q with
  | generate l p e | binGenerate l p e =>
      simp only [Follows, desugar, Qualifier.desugar, children, mapM_exprs, Expr.desugarList]
      cases p.desugar ctx with
      | error r => exact ⟨_, rfl, rfl⟩
      | ok p' =>
          cases e.desugar ctx with
          | error r => exact ⟨_, rfl, rfl⟩
          | ok e' => exact ⟨_, rfl, .kept rfl rfl rfl rfl rfl rfl rfl⟩
  | filter test =>
      simp only [Follows, desugar, Qualifier.desugar, children, mapM_exprs, Expr.desugarList]
      cases test.desugar ctx with
      | error r => exact ⟨_, rfl, rfl⟩
      | ok test' => exact ⟨_, rfl, .kept rfl rfl rfl rfl rfl rfl rfl⟩

theorem follows_recordField (ctx : Context) (f : RecordField) : Follows ⟨ctx, .recordField f⟩ := by
  obtain ⟨l, name, e⟩ := f
  simp only [Follows, desugar, RecordField.desugar, children, mapM_exprs, Expr.desugarList]
  cases e.desugar ctx with
  | error r => exact ⟨_, rfl, rfl⟩
  | ok e' => exact ⟨_, rfl, .kept rfl rfl rfl rfl rfl rfl rfl⟩

theorem follows_entry (ctx : Context) (e : Entry) : Follows ⟨ctx, .entry e⟩ := by
  obtain ⟨l, key, e⟩ := e
  simp only [Follows, desugar, Entry.desugar, children, mapM_exprs, Expr.desugarList]
  cases e.desugar ctx with
  | error r => exact ⟨_, rfl, rfl⟩
  | ok e' => exact ⟨_, rfl, .kept rfl rfl rfl rfl rfl rfl rfl⟩

theorem follows {s : Site} (h : s.isOffence = false) : Follows s := by
  obtain ⟨ctx, p⟩ := s
  cases p with
  | expr e => exact follows_expr h
  | clause c => exact follows_clause ctx c
  | segment s => exact follows_segment ctx s
  | qualifier q => exact follows_qualifier ctx q
  | recordField f => exact follows_recordField ctx f
  | entry e => exact follows_entry ctx e

/-! ## Offences -/

/-- An offence is refused for itself, whatever stands below it. -/
theorem desugar_offence {s : Site} (h : s.isOffence = true) :
    ∃ e, s.part = .expr e ∧
      s.desugar = .error (s.outward (Offence.refusal ⟨e, s.context, []⟩)) := by
  obtain ⟨ctx, p⟩ := s
  cases p with
  | expr e =>
      refine ⟨e, rfl, ?_⟩
      cases e with
      | foreign l tag raw => rfl
      | field l base name =>
          rcases base with _ | b
          · rfl
          · simp only [isOffence, Bool.and_eq_true, decide_eq_true_eq, Bool.not_eq_true'] at h
            obtain ⟨rfl, root⟩ := h
            simp [desugar, Expr.desugar, root, Offence.refusal, outward, frame?]
      | _ => simp [isOffence] at h
  | _ => simp [isOffence] at h

/-! ## What a successful desugaring did -/

theorem mapM_eq_ok_iff {cs ds : List Site} :
    cs.mapM desugar = .ok ds ↔ List.Forall₂ (fun c d => c.desugar = .ok d) cs ds := by
  induction cs generalizing ds with
  | nil => cases ds <;> simp
  | cons c cs ih =>
      rw [List.mapM_cons]
      cases hc : c.desugar with
      | error r => cases ds <;> simp [hc]
      | ok d =>
          cases hcs : cs.mapM desugar with
          | error r => cases ds <;> simp [hc, ← ih, hcs]
          | ok ds' => cases ds <;> simp [hc, ← ih, hcs]

/-- What relates some sites to all their outcomes relates them to the outcomes they have. -/
theorem forall₂_outcomes {R : Site → Site → Prop} {cs ds : List Site}
    (below : List.Forall₂ (fun c d => c.desugar = .ok d) cs ds)
    (h : ∀ c ∈ cs, ∀ d, c.desugar = .ok d → R c d) : List.Forall₂ R cs ds := by
  induction below with
  | nil => exact .nil
  | cons hcd _ ih =>
      rw [List.forall_mem_cons] at h
      exact .cons (h.1 _ hcd) (ih h.2)

theorem forall_outcomes {p : Site → Prop} {cs ds : List Site}
    (below : List.Forall₂ (fun c d => c.desugar = .ok d) cs ds)
    (h : ∀ c ∈ cs, ∀ d, c.desugar = .ok d → p d) : ∀ d ∈ ds, p d := by
  have related : List.Forall₂ (fun c d => p d ∧ c.desugar = .ok d) cs ds := by
    apply forall₂_outcomes below
    intro c hc d hd
    exact ⟨h c hc d hd, hd⟩
  exact ((List.forall₂_and_left _ _).mp related.flip).1

/-- A site that is desugared is no offence, and is assembled from its desugared children. -/
theorem desugar_ok {s t : Site} (h : s.desugar = .ok t) :
    s.isOffence = false ∧
      ∃ cs, List.Forall₂ (fun c d => c.desugar = .ok d) s.children cs ∧ Assembled s cs t := by
  cases offence : s.isOffence with
  | true =>
      obtain ⟨e, -, he⟩ := desugar_offence offence
      rw [he] at h
      cases h
  | false =>
      have hs := follows offence
      rw [Follows, h] at hs
      obtain ⟨cs, hcs, assembled⟩ := hs
      exact ⟨rfl, cs, mapM_eq_ok_iff.mp hcs, assembled⟩

theorem exists_outcome {cs ds : List Site}
    (below : List.Forall₂ (fun c d => c.desugar = .ok d) cs ds) :
    ∀ c ∈ cs, ∃ d, c.desugar = .ok d := by
  induction below with
  | nil => simp
  | cons hcd _ ih => exact List.forall_mem_cons.mpr ⟨⟨_, hcd⟩, ih⟩

/-- A term that is desugared holds no offence. -/
theorem not_isOffence_of_desugar (s : Site) :
    ∀ t, s.desugar = .ok t → ∀ n ∈ s.nodes, n.isOffence = false := by
  induction s using Site.induction with
  | step s ih =>
      intro t ht n hn
      obtain ⟨sound, cs, below, -⟩ := desugar_ok ht
      rw [nodes_eq, List.mem_cons, List.mem_flatMap] at hn
      rcases hn with rfl | ⟨c, hc, hn⟩
      · exact sound
      · obtain ⟨d, hd⟩ := exists_outcome below c hc
        exact ih c hc d hd n hn

end Site

/-- An expression that is no sugar keeps its label and its tag. -/
theorem Expr.kept_of_desugar {ctx : Context} {e e' : Expr} (h : e.desugar ctx = .ok e')
    (plain : Site.isSugar ⟨ctx, .expr e⟩ = false) : e'.label = e.label ∧ e'.tag = e.tag := by
  obtain ⟨-, cs, -, assembled⟩ := Site.desugar_ok (Site.desugar_expr h)
  cases assembled with
  | kept sugar context label frame plain sound below =>
      have frame := Option.some.inj frame
      exact ⟨Option.some.inj label, congrArg Frame.kind frame⟩
  | literal => cases plain
  | update => cases plain
  | access base => simp [Site.isSugar, base] at plain

theorem Expr.length_desugarList {ctx : Context} {es es' : List Expr}
    (h : Expr.desugarList ctx es = .ok es') : es'.length = es.length := by
  have run := Site.mapM_exprs ctx es
  rw [h, Except.map_ok, Site.mapM_eq_ok_iff] at run
  simpa [Site.each] using run.length_eq.symm

/-- The rules for sugar alone say what becomes of sugar in a body: what they accept is what the node
is desugared to, and they decline what is no sugar. -/
theorem Expr.offer_spec (e : Expr) :
    match e.offer with
    | .ok (.accepted e') => Site.isSugar ⟨.body, .expr e⟩ = true ∧ e.desugar .body = .ok e'
    | .ok .declined => Site.isSugar ⟨.body, .expr e⟩ = false
    | .error r => e.desugar .body = .error (r.within ⟨e.tag, e.loc⟩) := by
  cases e with
  | map l base es =>
      simp only [offer, desugar, ↓reduceIte, Site.isSugar, decide_true, true_and]
      cases Expr.desugarOpt .body base with
      | error r => rfl
      | ok base' => cases Entry.desugarList .body es <;> rfl
  | field l base name =>
      cases base with
      | none => rfl
      | some base =>
          cases root : base.isEmptyAtom with
          | true => simp [offer, Site.isSugar, root]
          | false =>
              simp only [offer, desugar, Site.isSugar, root, Bool.false_eq_true, ↓reduceIte]
              cases base.desugar .body <;> simp
  | _ => rfl

end Unsugar
