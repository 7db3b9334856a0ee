import Unsugar.Text.Cluster

/-!
# Documents and their layout

A document is text with places where a line may or must end. Layout fills lines of 80 characters: a
group is set on one line if it fits there together with what follows it up to the next place where a
line ends anyway, and otherwise each of its own soft breaks ends a line.

Layout works through a list of documents still to be set, each with its indentation and with whether
it stands in a group that is set on one line. A group with a forced break in it never fits on one
line, so a forced break is only ever met in broken groups.
-/

namespace Unsugar

inductive Doc where
  | nil
  | text (s : String)
  /-- A blank in a flat group, else the end of a line. -/
  | soft
  /-- The end of a line. -/
  | hard
  | append (front back : Doc)
  | nest (indent : Nat) (doc : Doc)
  | group (doc : Doc)

namespace Doc

instance : Append Doc := ⟨append⟩

/-- Documents with a separator between them. -/
def join (separator : Doc) : List Doc → Doc
  | [] => nil
  | [d] => d
  | d :: rest => d ++ (separator ++ join separator rest)

/-- The number of constructors. -/
def weight : Doc → Nat
  | nil | text _ | soft | hard => 1
  | append a b => a.weight + b.weight + 1
  | nest _ d | group d => d.weight + 1

end Doc

namespace Layout

/-- A document still to be set. -/
structure Item where
  indent : Nat
  flat : Bool
  doc : Doc

/-- What is left to do: the weights of all documents. -/
@[simp] def weight : List Item → Nat
  | [] => 0
  | i :: rest => i.doc.weight + weight rest

@[simp] def flatWeight : List (Bool × Doc) → Nat
  | [] => 0
  | i :: rest => i.2.weight + flatWeight rest

/-- The length of a line. -/
def lineLength : Nat := 80

/-- Whether a line filled up to `column` can take the documents in front, flat or not, and then those
that follow, up to the first end of a line. Groups among those that follow count as broken. -/
def fits (column : Nat) (front : List (Bool × Doc)) (following : List Item) : Bool :=
  match front, following with
  | [], [] => true
  | [], i :: rest => fits column [(false, i.doc)] rest
  | (_, .nil) :: front, following => fits column front following
  | (_, .text s) :: front, following =>
      if s.isEmpty then fits column front following
      else
        column + Text.room s ≤ lineLength && fits (column + Text.room s) front following
  | (false, .soft) :: _, _ => true
  | (true, .soft) :: front, following =>
      column + 1 ≤ lineLength && fits (column + 1) front following
  | (flat, .hard) :: _, _ => !flat
  | (flat, .append a b) :: front, following =>
      fits column ((flat, a) :: (flat, b) :: front) following
  | (flat, .nest _ d) :: front, following => fits column ((flat, d) :: front) following
  | (flat, .group d) :: front, following => fits column ((flat, d) :: front) following
termination_by (flatWeight front + weight following, following.length)
decreasing_by
  all_goals simp_wf
  all_goals simp [Doc.weight, Prod.lex_def]
  all_goals omega

/-- The end of a line and the indentation of the next one. -/
def newLine (indent : Nat) : List Char := '\n' :: List.replicate indent ' '

/-- The text of documents set one after the other from `column` on. -/
def set (column : Nat) (items : List Item) : List Char :=
  match items with
  | [] => []
  | ⟨_, _, .nil⟩ :: rest => set column rest
  | ⟨_, _, .text s⟩ :: rest => s.toList ++ set (column + Text.room s) rest
  | ⟨indent, _, .hard⟩ :: rest => newLine indent ++ set indent rest
  | ⟨indent, false, .soft⟩ :: rest => newLine indent ++ set indent rest
  | ⟨_, true, .soft⟩ :: rest => ' ' :: set (column + 1) rest
  | ⟨indent, flat, .append a b⟩ :: rest =>
      set column (⟨indent, flat, a⟩ :: ⟨indent, flat, b⟩ :: rest)
  | ⟨indent, flat, .nest n d⟩ :: rest => set column (⟨indent + n, flat, d⟩ :: rest)
  | ⟨indent, flat, .group d⟩ :: rest =>
      set column (⟨indent, flat || fits column [(true, d)] rest, d⟩ :: rest)
termination_by weight items
decreasing_by
  all_goals simp [Doc.weight]
  all_goals omega

end Layout

/-- The text of a document. -/
def Doc.render (d : Doc) : String := String.ofList (Layout.set 0 [⟨0, false, d⟩])

end Unsugar
