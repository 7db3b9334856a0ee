import Unsugar.Listing
import Mathlib.Data.List.Basic

/-!
# Listings of units

How a group is set depends on the column it begins in and on what follows it, but only up to the next
forced end of a line: the look-ahead stops there, and the next line begins in a column that does not
depend on what stood before. Forms are kept apart by forced ends of lines, so each is set as it would
be alone.

Main statement: the listing of a unit is made of the listings of its forms (`unitListing_paragraphs`).
-/

namespace Unsugar

/-! ## Layout up to the end of a line -/

namespace Layout

/-- Documents that end the line at once: no look-ahead gets past their beginning, and how they are set
does not depend on the column. -/
structure EndsLine (items : List Item) : Prop where
  fits (column : Nat) : fits column [] items = true
  set (column : Nat) : set column items = set 0 items

theorem endsLine_hard (indent : Nat) (flat : Bool) (rest : List Item) :
    EndsLine (⟨indent, flat, .hard⟩ :: rest) := by
  constructor
  · intro column
    rw [Layout.fits, Layout.fits]
    rfl
  · intro column
    rw [Layout.set, Layout.set]

theorem endsLine_hard_append (indent : Nat) (flat : Bool) (d : Doc) (rest : List Item) :
    EndsLine (⟨indent, flat, .append .hard d⟩ :: rest) := by
  constructor
  · intro column
    rw [Layout.fits, Layout.fits, Layout.fits]
    rfl
  · intro column
    rw [Layout.set, Layout.set, Layout.set, Layout.set]

/-- What stands behind the end of a line has no say in what fits before it. -/
theorem fits_append {last : List Item} (h : EndsLine last) (column : Nat)
    (front : List (Bool × Doc)) (following : List Item) :
    fits column front (following ++ last) = fits column front following := by
  fun_induction fits column front following with
  | case1 column => exact h.fits column
  | case2 column i rest ih =>
      rw [List.cons_append, fits]
      exact ih
  | case3 column flat front following ih =>
      rw [fits]
      exact ih
  | case4 column flat s front following empty ih =>
      rw [fits, if_pos empty]
      exact ih
  | case5 column flat s front following nonempty ih => rw [fits, if_neg nonempty, ih]
  | case6 column following front => rw [fits]
  | case7 column front following ih => rw [fits, ih]
  | case8 column following flat front => rw [fits]
  | case9 column flat a b front following ih =>
      rw [fits]
      exact ih
  | case10 column flat indent d front following ih =>
      rw [fits]
      exact ih
  | case11 column flat d front following ih =>
      rw [fits]
      exact ih

/-- Documents are set the same whatever stands behind the end of their line. -/
theorem set_append {last : List Item} (h : EndsLine last) (column : Nat) (items : List Item) :
    set column (items ++ last) = set column items ++ set 0 last := by
  fun_induction set column items with
  | case1 column => exact h.set column
  | case2 column indent flat rest ih =>
      rw [List.cons_append, set]
      exact ih
  | case3 column indent flat s rest ih => rw [List.cons_append, set, ih, List.append_assoc]
  | case4 column indent flat rest ih => rw [List.cons_append, set, ih, List.append_assoc]
  | case5 column indent rest ih => rw [List.cons_append, set, ih, List.append_assoc]
  | case6 column indent rest ih => rw [List.cons_append, set, ih, List.cons_append]
  | case7 column indent flat a b rest ih =>
      rw [List.cons_append, set]
      exact ih
  | case8 column indent flat n d rest ih =>
      rw [List.cons_append, set]
      exact ih
  | case9 column indent flat d rest ih =>
      -- The group is set flat or broken as it is without `last`.
      rw [List.cons_append, set, fits_append h]
      exact ih

end Layout

/-! ## Documents with lines of their own -/

namespace Doc

open Layout

theorem render_append {a b : Doc} (h : EndsLine [⟨0, false, b⟩]) :
    (a ++ b).render = a.render ++ b.render := by
  have items : set 0 [⟨0, false, .append a b⟩] = set 0 ([⟨0, false, a⟩] ++ [⟨0, false, b⟩]) := by
    rw [Layout.set]
    rfl
  show String.ofList (set 0 [⟨0, false, .append a b⟩]) = _
  rw [items, set_append h, String.ofList_append]
  rfl

theorem render_hard : Doc.hard.render = "\n" := by
  rw [render, Layout.set, Layout.set]
  rfl

theorem render_hard_append (d : Doc) : (Doc.hard ++ d).render = "\n" ++ d.render := by
  show String.ofList (set 0 [⟨0, false, .append .hard d⟩]) = _
  rw [Layout.set, Layout.set, String.ofList_append]
  rfl

/-- A document is set as it is alone, and so is the one on the next line. -/
theorem render_join_hard (ds : List Doc) :
    (join .hard ds).render = "\n".intercalate (ds.map render) := by
  induction ds with
  | nil =>
      rw [join, render, Layout.set, Layout.set]
      rfl
  | cons d ds ih =>
      cases ds with
      | nil => rw [join, List.map_singleton, String.intercalate_singleton]
      | cons d' ds =>
          have next : EndsLine [⟨0, false, Doc.hard ++ join .hard (d' :: ds)⟩] :=
            endsLine_hard_append 0 false _ []
          have lines : join .hard (d :: d' :: ds) = d ++ (Doc.hard ++ join .hard (d' :: ds)) := rfl
          rw [lines, render_append next, render_hard_append, ih]
          simp only [List.map_cons, String.intercalate_cons_cons, String.append_assoc]

end Doc

/-! ## Units -/

namespace Form

/-- The listings of the forms that are printed, each with the end of its last line. -/
def paragraphs (fs : List Form) : List String :=
  (fs.filter (!·.isEof)).map fun f => f.listing ++ "\n"

theorem paragraphs_append (fs gs : List Form) :
    paragraphs (fs ++ gs) = paragraphs fs ++ paragraphs gs := by
  rw [paragraphs, List.filter_append, List.map_append]
  rfl

theorem paragraphs_cons {f : Form} (h : f.isEof = false) (fs : List Form) :
    paragraphs (f :: fs) = (f.listing ++ "\n") :: paragraphs fs := by
  rw [paragraphs, List.filter_cons, if_pos (by simp [h]), List.map_cons]
  rfl

theorem paragraphs_eq_nil {fs : List Form} (h : ∀ f ∈ fs, f.isEof = true) : paragraphs fs = [] := by
  have none : fs.filter (!·.isEof) = [] := by
    rw [List.filter_eq_nil_iff]
    intro f hf
    simp [h f hf]
  rw [paragraphs, none]
  rfl

theorem unitListing_eq (fs : List Form) : unitListing fs = "\n".intercalate (paragraphs fs) := by
  rw [unitListing, Doc.render_join_hard, List.map_map, paragraphs]
  congr 1
  apply List.map_congr_left
  intro f _
  show (Listing.form f ++ Doc.hard).render = f.listing ++ "\n"
  rw [Doc.render_append (Layout.endsLine_hard 0 false []), Doc.render_hard]
  rfl

end Form

/-- What stands in the middle of a joined text, and what stands around it. -/
theorem intercalate_append_cons (separator : String) (front : List String) (s : String)
    (back : List String) :
    separator.intercalate (front ++ s :: back) =
      separator.intercalate (front ++ [""]) ++ s ++ separator.intercalate ("" :: back) := by
  induction front with
  | nil => cases back <;> simp [String.append_assoc]
  | cons t front ih =>
      rw [List.cons_append, List.cons_append, String.intercalate_cons_of_ne_nil (by simp),
        String.intercalate_cons_of_ne_nil (by simp), ih]
      simp only [String.append_assoc]

/-- Listings of units are compositional. A unit is listed as the listings of its forms, the marker of
the end apart, each with the end of its last line, and with one further end of a line between them.
So a form between others contributes what it is listed as alone, and the others what they contribute
to any form; and a unit in which no form is printed has the empty listing. -/
theorem unitListing_paragraphs :
    (∀ fs : List Form, Form.unitListing fs =
      "\n".intercalate ((fs.filter (!·.isEof)).map fun f => f.listing ++ "\n")) ∧
    (∀ (before : List Form) (f : Form) (after : List Form), f.isEof = false →
      Form.unitListing (before ++ f :: after) =
        "\n".intercalate (Form.paragraphs before ++ [""]) ++ (f.listing ++ "\n") ++
          "\n".intercalate ("" :: Form.paragraphs after)) ∧
    ∀ fs : List Form, (∀ f ∈ fs, f.isEof = true) → Form.unitListing fs = "" := by
  refine ⟨Form.unitListing_eq, ?_, ?_⟩
  · intro before f after printed
    rw [Form.unitListing_eq, Form.paragraphs_append, Form.paragraphs_cons printed,
      intercalate_append_cons]
  · intro fs none
    rw [Form.unitListing_eq, Form.paragraphs_eq_nil none, String.intercalate_nil]

/-- A function between a marker of a file and the marker of the end, which is not listed. -/
theorem unitListing_paragraphs_function :
    let l := Loc.onLine 2
    let f : Form := .function l "f" 1 [⟨l, [.var l "X"], [], [.var l "X"]⟩]
    (f.isEof = false ∧ f.listing = "f(X) ->\n    X." ∧
      Form.unitListing ([Form.fileMarker 1 "a.src"] ++ f :: [.eof l]) =
        "-file(\"a.src\", 1).\n\nf(X) ->\n    X.\n") ∧
    (∀ g ∈ [Form.eof l], g.isEof = true) ∧ Form.unitListing [.eof l] = "" := by
  intro l f
  obtain ⟨-, around, empty⟩ := unitListing_paragraphs
  have opening : "\n".intercalate (Form.paragraphs [Form.fileMarker 1 "a.src"] ++ [""]) =
      "-file(\"a.src\", 1).\n\n" := by
    decide +kernel
  have closing : "\n".intercalate ("" :: Form.paragraphs [.eof l]) = "" := by
    decide +kernel
  have printed : f.isEof = false := rfl
  have alone : f.listing = "f(X) ->\n    X." := by
    decide +kernel
  have only_eof : ∀ g ∈ [Form.eof l], g.isEof = true := by simp [Form.isEof]
  refine ⟨⟨printed, alone, ?_⟩, only_eof, empty _ only_eof⟩
  rw [around _ f _ printed, opening, closing, alone]
  rfl

end Unsugar
