import Unsugar.Proofs.Desugar.Outcome
import Mathlib.Algebra.BigOperators.Group.List.Basic
import Mathlib.Algebra.Order.Group.Multiset
import Mathlib.Data.Multiset.Bind
import Mathlib.Tactic.Abel

/-!
# Conservation of nodes

Desugaring moves nodes about: a chain of stores turns entries inside out, and an update without
entries vanishes into its base. It neither loses nor copies any of them. The account is kept in
multisets of labels. Sugar in a body is consumed, an aggregate together with its entries, and calls
of the container are produced in its place; the entries of an aggregate are charged to the
aggregate, so that every other site, entries included, keeps its label.

Main statement: the labels of a desugared term and those consumed are the labels of the term and
those produced (`labels_desugar`).
-/

namespace Unsugar

namespace Site

/-! ## Sums over all sites -/

section Total

variable {M : Type} [AddCommMonoid M]

/-- A quantity summed over all sites of a term. -/
def total (f : Site → M) (s : Site) : M := (s.nodes.map f).sum

theorem total_eq (f : Site → M) (s : Site) :
    total f s = f s + (s.children.map (total f)).sum := by
  rw [total, nodes_eq, List.map_cons, List.sum_cons, List.map_flatMap, List.flatMap_def,
    List.sum_flatten, List.map_map]
  rfl

end Total

theorem mem_sum_map {α β : Type} {f : α → Multiset β} {l : List α} {x : β} :
    x ∈ (l.map f).sum ↔ ∃ a ∈ l, x ∈ f a := by
  have join : (l.map f).sum = Multiset.join (l.map f : List (Multiset β)) := by
    rw [Multiset.join, Multiset.sum_coe]
  rw [join, Multiset.mem_join]
  simp

/-- The label of a site, if it has one. -/
def ownLabels (s : Site) : Multiset NodeLabel := ↑s.part.label?.toList

/-- The labels of all sites of a term. -/
def labels (s : Site) : Multiset NodeLabel := s.total ownLabels

theorem labels_eq (s : Site) : s.labels = s.ownLabels + (s.children.map labels).sum :=
  total_eq ownLabels s

theorem mem_labels {s : Site} {x : NodeLabel} :
    x ∈ s.labels ↔ ∃ n ∈ s.nodes, n.part.label? = some x := by
  rw [labels, total, mem_sum_map]
  simp [ownLabels]

/-! ## What is consumed and produced -/

/-- The labels of a call of a container function, without its arguments. -/
def calleeLabels (l : Loc) (function : String) : Multiset NodeLabel :=
  {⟨l, .call⟩, ⟨l, .remote⟩, ⟨l, .lit (.atom "orddict")⟩, ⟨l, .lit (.atom function)⟩}

/-- The labels of a call of a container function that takes a key, with the key but without its
other arguments. -/
def keyedLabels (l : Loc) (function key : String) : Multiset NodeLabel :=
  ⟨l, .lit (.atom key)⟩ ::ₘ calleeLabels l function

/-- The labels of a call that stores an entry, without the value and the container. -/
def storeLabels (e : Entry) : Multiset NodeLabel := keyedLabels e.loc "store" e.key

/-- The labels that go where sugar stands in a body: its own one, and those of its entries. -/
def consumed (s : Site) : Multiset NodeLabel :=
  match s.part with
  | .expr (.map l base es) =>
      if s.isSugar then (Expr.map l base es).label ::ₘ ↑(es.map Entry.label) else 0
  | .expr (.field l base name) => if s.isSugar then {(Expr.field l base name).label} else 0
  | _ => 0

/-- The labels that come where sugar stands in a body: a new container for an aggregate without
base, a store for each entry of an aggregate, and a fetch for a field. -/
def produced (s : Site) : Multiset NodeLabel :=
  match s.part with
  | .expr (.map l none es) =>
      if s.isSugar then calleeLabels l "new" + (es.map storeLabels).sum else 0
  | .expr (.map _ (some _) es) => if s.isSugar then (es.map storeLabels).sum else 0
  | .expr (.field l _ name) => if s.isSugar then keyedLabels l "fetch" name else 0
  | _ => 0

theorem consumed_eq_zero {s : Site} (h : s.isSugar = false) : s.consumed = 0 := by
  unfold consumed
  split <;> simp [h]

theorem produced_eq_zero {s : Site} (h : s.isSugar = false) : s.produced = 0 := by
  unfold produced
  split <;> simp [h]

/-! ## Labels of container calls -/

section Calls

variable (ctx : Context)

theorem labels_atom (l : Loc) (name : String) :
    labels ⟨ctx, .expr (.lit l (.atom name))⟩ = {⟨l, .lit (.atom name)⟩} := by
  rw [labels_eq]
  simp [ownLabels, children, belowExpr, Part.label?, Expr.label, Expr.head, Expr.loc]

theorem labels_remoteCall (l : Loc) (function : String) (args : List Expr) :
    labels ⟨ctx, .expr (.remoteCall l Container.module function args)⟩ =
      calleeLabels l function + (args.map fun a => labels ⟨ctx, .expr a⟩).sum := by
  rw [Expr.remoteCall, labels_eq]
  simp only [children, belowExpr, each, List.map_cons, List.sum_cons, List.map_map]
  rw [labels_eq ⟨ctx, .expr (.remote _ _ _)⟩]
  simp only [children, belowExpr, each, List.map_cons, List.sum_cons, List.map_nil, List.sum_nil,
    labels_atom]
  simp only [ownLabels, Part.label?, Expr.label, Expr.head, Expr.loc, Option.toList_some,
    Multiset.coe_singleton, calleeLabels, Container.module, Multiset.insert_eq_cons,
    ← Multiset.singleton_add, Function.comp_def]
  abel

theorem labels_entry (e : Entry) :
    labels ⟨ctx, .entry e⟩ = {e.label} + labels ⟨ctx, .expr e.value⟩ := by
  rw [labels_eq]
  simp [ownLabels, children, each, Part.label?]

/-- Storing entries puts the calls of the stores in the place of the labels of the entries. -/
theorem labels_storeAll (b : Expr) (es : List Entry) :
    labels ⟨ctx, .expr (Container.storeAll b es)⟩ + ↑(es.map Entry.label) =
      labels ⟨ctx, .expr b⟩ + (es.map storeLabels).sum + ((each ctx .entry es).map labels).sum := by
  induction es generalizing b with
  | nil => simp [Container.storeAll, each]
  | cons e es ih =>
      have store : labels ⟨ctx, .expr (Container.store b e)⟩ =
          storeLabels e + labels ⟨ctx, .expr e.value⟩ + labels ⟨ctx, .expr b⟩ := by
        rw [Container.store, labels_remoteCall]
        simp only [List.map_cons, List.sum_cons, List.map_nil, List.sum_nil, labels_atom,
          storeLabels, keyedLabels, ← Multiset.singleton_add]
        abel
      show labels ⟨ctx, .expr (Container.storeAll (Container.store b e) es)⟩ + _ = _
      simp only [each, List.map_cons, List.sum_cons, ← Multiset.cons_coe,
        ← Multiset.singleton_add] at ih ⊢
      rw [add_left_comm, ih, store, labels_entry]
      abel

end Calls

/-! ## The account -/

/-- Desugared entries keep their locations and keys. -/
theorem label_entries {ctx : Context} {es es' : List Entry}
    (below : List.Forall₂ (fun c d => c.desugar = .ok d) (each ctx .entry es)
      (each ctx .entry es')) :
    es'.map Entry.label = es.map Entry.label ∧ es'.map storeLabels = es.map storeLabels := by
  rw [each, each, List.forall₂_map_left_iff, List.forall₂_map_right_iff] at below
  induction below with
  | nil => exact ⟨rfl, rfl⟩
  | @cons e e' es es' he _ ih =>
      cases hv : e.value.desugar ctx with
      | error r => simp [desugar, Entry.desugar, hv] at he
      | ok v =>
          simp only [desugar, Entry.desugar, hv] at he
          cases he
          simp [ih, Entry.label, storeLabels]

/-- The account of a site, for one outcome. -/
def Balanced (s t : Site) : Prop :=
  t.labels + s.total consumed = s.labels + s.total produced

/-- Balanced children are balanced as a whole. -/
theorem sum_balanced {cs ds : List Site} (h : List.Forall₂ Balanced cs ds) :
    (ds.map labels).sum + (cs.map (total consumed)).sum =
      (cs.map labels).sum + (cs.map (total produced)).sum := by
  induction h with
  | nil => rfl
  | @cons c d cs ds hcd _ ih =>
      simp only [List.map_cons, List.sum_cons]
      rw [Balanced] at hcd
      calc (d.labels + (ds.map labels).sum) + (c.total consumed + (cs.map (total consumed)).sum)
          = (d.labels + c.total consumed) +
              ((ds.map labels).sum + (cs.map (total consumed)).sum) := by abel
        _ = (c.labels + c.total produced) +
              ((cs.map labels).sum + (cs.map (total produced)).sum) := by rw [hcd, ih]
        _ = _ := by abel

/-- The account of sugar: its outcome `t` has traded the labels `gone` for `come`, and the outcomes
`d` of its children balance. -/
theorem balance_sugar (own : Multiset NodeLabel) {gone come t d cᵢ cₒ p : Multiset NodeLabel}
    (traded : t + gone = come + d) (children : d + cᵢ = cₒ + p) :
    t + (own + gone + cᵢ) = own + cₒ + (come + p) := by
  calc t + (own + gone + cᵢ) = own + (t + gone) + cᵢ := by abel
    _ = own + come + (d + cᵢ) := by rw [traded]; abel
    _ = own + cₒ + (come + p) := by rw [children]; abel

theorem balanced_of_desugar (s : Site) : ∀ t, s.desugar = .ok t → Balanced s t := by
  induction s using Site.induction with
  | step s ih =>
      intro t ht
      obtain ⟨-, cs, below, assembled⟩ := desugar_ok ht
      have sum := sum_balanced (forall₂_outcomes below ih)
      -- What is left to check is that the site itself has traded its own labels.
      rw [Balanced, total_eq, total_eq produced, labels_eq s]
      cases assembled with
      | kept sugar context label frame plain sound eq =>
          have own : t.ownLabels = s.ownLabels := by rw [ownLabels, ownLabels, label]
          rw [labels_eq t, own, ← eq, consumed_eq_zero sugar, produced_eq_zero sugar, zero_add,
            zero_add, add_assoc, sum, add_assoc]
      | @literal l es es' =>
          obtain ⟨hlabel, hstore⟩ := label_entries below
          have traded : labels ⟨.body, .expr (Container.storeAll (Container.new l) es')⟩ +
              ↑(es.map Entry.label) = (calleeLabels l "new" + (es.map storeLabels).sum) +
                ((each .body .entry es').map labels).sum := by
            rw [← hlabel, ← hstore, labels_storeAll, Container.new, labels_remoteCall]
            rw [List.map_nil, List.sum_nil, add_zero]
          simp only [consumed, produced, isSugar, decide_true, if_true, ownLabels, Part.label?,
            Option.toList_some, Multiset.coe_singleton, ← Multiset.singleton_add]
          exact balance_sugar _ traded sum
      | @update l b b' es es' =>
          obtain ⟨hlabel, hstore⟩ := label_entries (List.forall₂_cons.mp below).2
          have traded : labels ⟨.body, .expr (Container.storeAll b' es')⟩ +
              ↑(es.map Entry.label) = (es.map storeLabels).sum +
                ((⟨.body, .expr b'⟩ :: each .body .entry es').map labels).sum := by
            rw [← hlabel, ← hstore, labels_storeAll, List.map_cons, List.sum_cons]
            abel
          simp only [consumed, produced, isSugar, decide_true, if_true, ownLabels, Part.label?,
            Option.toList_some, Multiset.coe_singleton, ← Multiset.singleton_add]
          exact balance_sugar _ traded sum
      | @access l b b' name base =>
          have traded : labels ⟨.body, .expr (Container.fetch l name b')⟩ + 0 =
              keyedLabels l "fetch" name + ([⟨.body, .expr b'⟩].map labels).sum := by
            rw [Container.fetch, labels_remoteCall, keyedLabels, ← Multiset.singleton_add]
            simp only [List.map_cons, List.sum_cons, List.map_nil, List.sum_nil, labels_atom]
            abel
          have account := balance_sugar {(Expr.field l (some b) name).label} traded sum
          simp only [consumed, produced, isSugar, base, decide_true, Bool.not_false, Bool.and_true,
            if_true, ownLabels, Part.label?, Option.toList_some, Multiset.coe_singleton]
          rwa [add_zero] at account

/-! ## What the account leaves alone -/

/-- Only labels of sugar are consumed. -/
theorem isSugar_of_mem_consumed {s : Site} {x : NodeLabel} (h : x ∈ s.consumed) :
    x.head.isSugar = true := by
  unfold consumed at h
  split at h
  · split at h
    · simp only [Multiset.mem_cons, Multiset.mem_coe, List.mem_map] at h
      rcases h with rfl | ⟨e, -, rfl⟩ <;> rfl
    · simp at h
  · split at h
    · rw [Multiset.mem_singleton] at h
      rw [h]
      rfl
    · simp at h
  · simp at h

theorem mem_calleeLabels {l : Loc} {function : String} {x : NodeLabel}
    (h : x ∈ calleeLabels l function) : x.loc = l ∧ x.head.isSugar = false := by
  simp only [calleeLabels, Multiset.insert_eq_cons, Multiset.mem_cons, Multiset.mem_singleton] at h
  rcases h with rfl | rfl | rfl | rfl <;> exact ⟨rfl, rfl⟩

theorem mem_keyedLabels {l : Loc} {function key : String} {x : NodeLabel}
    (h : x ∈ keyedLabels l function key) : x.loc = l ∧ x.head.isSugar = false := by
  rw [keyedLabels, Multiset.mem_cons] at h
  rcases h with rfl | h
  · exact ⟨rfl, rfl⟩
  · exact mem_calleeLabels h

/-- The site or one directly below it has a label at the location. -/
def IsLocated (s : Site) (l : Loc) : Prop :=
  ∃ n, (n = s ∨ n ∈ s.children) ∧ ∃ y, n.part.label? = some y ∧ y.loc = l

theorem isLocated_expr (ctx : Context) (e : Expr) : IsLocated ⟨ctx, .expr e⟩ e.loc :=
  ⟨_, Or.inl rfl, e.label, rfl, rfl⟩

theorem isLocated_store {ctx : Context} {l : Loc} {base : Option Expr} {es : List Entry}
    {x : NodeLabel} (h : x ∈ (es.map storeLabels).sum) :
    x.head.isSugar = false ∧ IsLocated ⟨ctx, .expr (.map l base es)⟩ x.loc := by
  obtain ⟨e, he, hx⟩ := mem_sum_map.mp h
  obtain ⟨loc, head⟩ := mem_keyedLabels hx
  refine ⟨head, ⟨ctx, .entry e⟩, Or.inr ?_, e.label, rfl, loc.symm⟩
  exact List.mem_append_right _ (mem_each.mpr ⟨e, he, rfl⟩)

/-- What is produced is no sugar, and has the location of the sugar that it replaces or of one of
its entries. -/
theorem of_mem_produced {s : Site} {x : NodeLabel} (h : x ∈ s.produced) :
    x.head.isSugar = false ∧ s.IsLocated x.loc := by
  cases sugar : s.isSugar with
  | false =>
      rw [produced_eq_zero sugar] at h
      simp at h
  | true =>
      obtain ⟨ctx, p⟩ := s
      unfold produced at h
      split at h
      · next l es eq =>
          subst eq
          rw [if_pos sugar, Multiset.mem_add] at h
          rcases h with h | h
          · obtain ⟨loc, head⟩ := mem_calleeLabels h
            exact ⟨head, loc ▸ isLocated_expr ctx _⟩
          · exact isLocated_store h
      · next l base es eq =>
          subst eq
          rw [if_pos sugar] at h
          exact isLocated_store h
      · next l base name eq =>
          subst eq
          rw [if_pos sugar] at h
          obtain ⟨loc, head⟩ := mem_keyedLabels h
          exact ⟨head, loc ▸ isLocated_expr ctx _⟩
      · simp at h

theorem exists_loc_of_mem_produced {s : Site} {x : NodeLabel} (h : x ∈ s.total produced) :
    ∃ y ∈ s.labels, y.loc = x.loc := by
  obtain ⟨n, hn, hx⟩ := mem_sum_map.mp h
  obtain ⟨-, m, hm, y, hy, loc⟩ := of_mem_produced hx
  refine ⟨y, mem_labels.mpr ⟨m, ?_, hy⟩, loc⟩
  rcases hm with rfl | hm
  · exact hn
  · exact mem_nodes_of_mem_children s n hn m hm

end Site

/-- Nothing is lost, copied or moved: in the labels of a term, desugaring puts those of the
container calls, at locations of the term, in the place of those of the sugar in bodies; every other
label occurs as often as before. -/
theorem labels_desugar {ctx : Context} {e e' : Expr} (h : e.desugar ctx = .ok e') :
    Site.total Site.consumed ⟨ctx, .expr e⟩ ≤ Site.labels ⟨ctx, .expr e⟩ ∧
    Site.labels ⟨ctx, .expr e'⟩ + Site.total Site.consumed ⟨ctx, .expr e⟩ =
      Site.labels ⟨ctx, .expr e⟩ + Site.total Site.produced ⟨ctx, .expr e⟩ ∧
    (Site.labels ⟨ctx, .expr e'⟩).filter (fun x => x.head.isSugar = false) =
      (Site.labels ⟨ctx, .expr e⟩).filter (fun x => x.head.isSugar = false) +
        Site.total Site.produced ⟨ctx, .expr e⟩ ∧
    ∀ x ∈ Site.labels ⟨ctx, .expr e'⟩, ∃ y ∈ Site.labels ⟨ctx, .expr e⟩, y.loc = x.loc := by
  have account := Site.balanced_of_desugar _ _ (Site.desugar_expr h)
  rw [Site.Balanced] at account
  generalize (⟨ctx, .expr e⟩ : Site) = s at account ⊢
  generalize (⟨ctx, .expr e'⟩ : Site) = t at account ⊢
  have gone : ∀ x ∈ s.total Site.consumed, x.head.isSugar = true := by
    intro x hx
    obtain ⟨n, -, hn⟩ := Site.mem_sum_map.mp hx
    exact Site.isSugar_of_mem_consumed hn
  have come : ∀ x ∈ s.total Site.produced, x.head.isSugar = false := by
    intro x hx
    obtain ⟨n, -, hn⟩ := Site.mem_sum_map.mp hx
    exact (Site.of_mem_produced hn).1
  refine ⟨?_, account, ?_, ?_⟩
  · -- What is consumed is all sugar and what is produced is none, so the sugar alone bounds it.
    have none : (s.total Site.produced).filter (fun x => x.head.isSugar = true) = 0 :=
      Multiset.filter_eq_nil.mpr (by simpa using come)
    have sugar := congrArg (Multiset.filter fun x => x.head.isSugar = true) account
    rw [Multiset.filter_add, Multiset.filter_add, Multiset.filter_eq_self.mpr gone, none,
      add_zero] at sugar
    calc s.total Site.consumed ≤ _ + s.total Site.consumed := Multiset.le_add_left _ _
      _ = s.labels.filter fun x => x.head.isSugar = true := sugar
      _ ≤ s.labels := Multiset.filter_le _ _
  · have none : (s.total Site.consumed).filter (fun x => x.head.isSugar = false) = 0 :=
      Multiset.filter_eq_nil.mpr (by simpa using gone)
    have plain := congrArg (Multiset.filter fun x => x.head.isSugar = false) account
    rwa [Multiset.filter_add, Multiset.filter_add, Multiset.filter_eq_self.mpr come, none,
      add_zero] at plain
  · intro x hx
    have mem : x ∈ s.labels + s.total Site.produced := by
      rw [← account]
      exact Multiset.mem_add.mpr (Or.inl hx)
    rcases Multiset.mem_add.mp mem with hx | hx
    · exact ⟨x, hx, rfl⟩
    · exact Site.exists_loc_of_mem_produced hx

/-- An aggregate gives up its label and that of its entry, and the labels of two calls come in. -/
theorem labels_desugar_singleton :
    Site.labels ⟨.body, .expr (Container.storeAll (Container.new (.onLine 1))
        [⟨.onLine 2, "a", .var (.onLine 3) "X"⟩])⟩ +
      {⟨.onLine 1, .map⟩, ⟨.onLine 2, .entry "a"⟩} =
    Site.labels ⟨.body, .expr (.map (.onLine 1) none [⟨.onLine 2, "a", .var (.onLine 3) "X"⟩])⟩ +
      (Site.calleeLabels (.onLine 1) "new" + Site.keyedLabels (.onLine 2) "store" "a") := by
  have h : (Expr.map (.onLine 1) none [⟨.onLine 2, "a", .var (.onLine 3) "X"⟩]).desugar .body =
      .ok (Container.storeAll (Container.new (.onLine 1))
        [⟨.onLine 2, "a", .var (.onLine 3) "X"⟩]) := rfl
  obtain ⟨-, account, -⟩ := labels_desugar h
  simpa [Site.total_eq, Site.children, Site.belowExpr, Site.each, Site.consumed, Site.produced,
    Site.isSugar, Expr.label, Expr.head, Expr.loc, Entry.label, Site.storeLabels] using account

end Unsugar
