import Unsugar.Listing
import Mathlib.Data.List.Basic

/-!
# Listings of operators

Operators are printed without regard to precedence, and only an operand gets parentheses: neither a
match nor a catch puts any around what it contains. The listings can be read back all the same. A
prefix operator, `catch`, a variable and a parenthesis begin differently, and what follows an operand
is the end, a closing parenthesis, or a blank and a word that tells a match from an infix operator.

Main statement: expressions made of variables and operators have the same listing just if they are
the same up to locations (`listing_eq_iff_formula_eq`).
-/

namespace Unsugar

/-! ## Documents without a place to break -/

/-- Documents of text alone, with their characters. -/
inductive Doc.Plain : Doc → List Char → Prop
  | text (s : String) : Plain (.text s) s.toList
  | append {a b : Doc} {front back : List Char} :
      Plain a front → Plain b back → Plain (a ++ b) (front ++ back)

/-- Plain documents are set as they are, in whatever column and group they stand. -/
theorem Doc.Plain.set {d : Doc} {cs : List Char} (h : d.Plain cs) (column indent : Nat) (flat : Bool)
    (rest : List Layout.Item) :
    ∃ after, Layout.set column (⟨indent, flat, d⟩ :: rest) = cs ++ Layout.set after rest := by
  induction h generalizing column rest with
  | text s => exact ⟨_, by rw [Layout.set]⟩
  | @append a b front back _ _ first second =>
      obtain ⟨between, hfirst⟩ := first column (⟨indent, flat, b⟩ :: rest)
      obtain ⟨after, hsecond⟩ := second between rest
      refine ⟨after, ?_⟩
      show Layout.set column (⟨indent, flat, .append a b⟩ :: rest) = _
      rw [Layout.set, hfirst, hsecond, List.append_assoc]

theorem Doc.Plain.render {d : Doc} {cs : List Char} (h : d.Plain cs) :
    d.render = String.ofList cs := by
  obtain ⟨after, hset⟩ := h.set 0 0 false []
  rw [Doc.render, hset, Layout.set, List.append_nil]

/-! ## Formulas -/

namespace Formula

/-- Whether a character may stand in a name; letters beyond ASCII may. -/
def isWordChar (c : Char) : Bool := Listing.isNameChar c || 0x80 ≤ c.toNat

/-- Whether a character may begin a variable; letters beyond ASCII may. -/
def isCapital (c : Char) : Bool := c = '_' || ('A' ≤ c && c ≤ 'Z') || 0x80 ≤ c.toNat

def isVariable (name : String) : Bool :=
  match name.toList with
  | [] => false
  | c :: rest => isCapital c && rest.all isWordChar

/-- Whether a character may stand in an infix operator. -/
def isInfixChar (c : Char) : Bool := c ≠ ' ' && c ≠ '(' && c ≠ ')'

def isInfix (op : String) : Bool := op ≠ "" && op ≠ "=" && op.toList.all isInfixChar

/-- The name of a variable: a capital or `_`, then letters, digits and the like. -/
abbrev Variable := { name : String // isVariable name }

/-- An infix operator. That of a match is not one. -/
abbrev Infix := { op : String // isInfix op }

inductive Prefix where
  | plus
  | minus
  | not
  | bnot
deriving DecidableEq

/-- The operator itself. -/
def Prefix.text : Prefix → String
  | plus => "+"
  | minus => "-"
  | not => "not"
  | bnot => "bnot"

end Formula

/-- What is made of variables and operators, without locations. -/
inductive Formula where
  | var (name : Formula.Variable)
  | binOp (op : Formula.Infix) (left right : Formula)
  | unOp (op : Formula.Prefix) (operand : Formula)
  | catching (body : Formula)
  /-- A match `Name = Value`. -/
  | bind (name : Formula.Variable) (value : Formula)
deriving DecidableEq

namespace Formula

/-- The expression is the formula with locations at its nodes. -/
inductive Located : Formula → Expr → Prop
  | var (l : Loc) (name : Variable) : Located (var name) (.var l name)
  | binOp (l : Loc) (op : Infix) {a b : Formula} {left right : Expr} :
      Located a left → Located b right → Located (binOp op a b) (.binOp l op left right)
  | unOp (l : Loc) (p : Prefix) {a : Formula} {e : Expr} :
      Located a e → Located (unOp p a) (.unOp l p.text e)
  | catching (l : Loc) {a : Formula} {e : Expr} : Located a e → Located (catching a) (.catching l e)
  | bind (l l' : Loc) (name : Variable) {a : Formula} {e : Expr} :
      Located a e → Located (bind name a) (.bind l (.var l' name) e)

/-! ## The text of a formula -/

def isOperation : Formula → Bool
  | var _ => false
  | _ => true

/-- A formula in the place of an operand, of which `cs` is the text. -/
def operandText (a : Formula) (cs : List Char) : List Char :=
  if a.isOperation then '(' :: (cs ++ [')']) else cs

/-- The operator as it stands in front of its operand. -/
def Prefix.sign : Prefix → List Char
  | plus => ['+']
  | minus => ['-']
  | not => ['n', 'o', 't', ' ']
  | bnot => ['b', 'n', 'o', 't', ' ']

def text : Formula → List Char
  | var name => name.val.toList
  | binOp op l r =>
      operandText l l.text ++ (' ' :: (op.val.toList ++ ' ' :: operandText r r.text))
  | unOp p a => p.sign ++ operandText a a.text
  | catching a => ['c', 'a', 't', 'c', 'h', ' '] ++ a.text
  | bind name a => name.val.toList ++ ([' ', '=', ' '] ++ a.text)

theorem Prefix.toList_prefixOperator (p : Prefix) : (Listing.prefixOperator p.text).toList = p.sign := by
  cases p <;> decide

theorem Located.isOperation {a : Formula} {e : Expr} (h : a.Located e) :
    Listing.isOperation e = a.isOperation := by
  cases h <;> rfl

theorem plain_operand {a : Formula} {e : Expr} (h : a.Located e) {d : Doc} {cs : List Char}
    (plain : d.Plain cs) : (Listing.operand e d).Plain (operandText a cs) := by
  rw [Listing.operand, operandText, h.isOperation]
  split
  · exact ((Doc.Plain.text "(").append plain).append (.text ")")
  · exact plain

theorem Located.plain {a : Formula} {e : Expr} (h : a.Located e) : (Listing.expr e).Plain a.text := by
  induction h with
  | var l name =>
      rw [Listing.expr]
      exact .text _
  | @binOp l op a b left right hl hr ihl ihr =>
      have word : (" " ++ op.val ++ " ").toList = ' ' :: (op.val.toList ++ [' ']) := by
        simp [String.toList_append]
      rw [Listing.expr]
      have infixed := ((plain_operand hl ihl).append (.text (" " ++ op.val ++ " "))).append
        (plain_operand hr ihr)
      simpa [text, word] using infixed
  | @unOp l p a e h ih =>
      rw [Listing.expr, text, ← p.toList_prefixOperator]
      exact .append (.text _) (plain_operand h ih)
  | catching l h ih =>
      rw [Listing.expr]
      exact .append (.text "catch ") ih
  | @bind l l' name a e h ih =>
      rw [Listing.expr, Listing.expr, text, ← List.append_assoc]
      exact .append (.append (.text name.val) (.text " = ")) ih

/-- The listing of an expression is the text of its formula. -/
theorem Located.listing {a : Formula} {e : Expr} (h : a.Located e) :
    e.listing = String.ofList a.text :=
  h.plain.render

/-! ## Reading a formula -/

inductive Opening where
  | sign (p : Prefix)
  | catching
  | operand

/-- How a formula begins, and what stands behind a sign or `catch`. -/
def opening : List Char → Opening × List Char
  | '+' :: cs => (.sign .plus, cs)
  | '-' :: cs => (.sign .minus, cs)
  | 'n' :: 'o' :: 't' :: ' ' :: cs => (.sign .not, cs)
  | 'b' :: 'n' :: 'o' :: 't' :: ' ' :: cs => (.sign .bnot, cs)
  | 'c' :: 'a' :: 't' :: 'c' :: 'h' :: ' ' :: cs => (.catching, cs)
  | cs => (.operand, cs)

/-- Readers take a formula off the front of a text. -/
abbrev Reader := List Char → Option (Formula × List Char)

/-- A variable, or a formula in parentheses. -/
def readOperand (inner : Reader) : Reader
  | '(' :: cs =>
      match inner cs with
      | some (a, ')' :: rest) => some (a, rest)
      | _ => none
  | cs =>
      let name := String.ofList (cs.takeWhile isWordChar)
      if h : isVariable name then some (.var ⟨name, h⟩, cs.dropWhile isWordChar) else none

def name? : Formula → Option Variable
  | var name => some name
  | _ => none

/-- What stands behind the operand in front: the right side of an infix operator or of a match, or
nothing. -/
def readTail (inner : Reader) (front : Formula) : Reader
  | ' ' :: cs =>
      let op := String.ofList (cs.takeWhile isInfixChar)
      let behind := (cs.dropWhile isInfixChar).drop 1
      if h : isInfix op then do
        let (right, rest) ← readOperand inner behind
        return (.binOp ⟨op, h⟩ front right, rest)
      else if op = "=" then do
        let name ← front.name?
        let (value, rest) ← inner behind
        return (.bind name value, rest)
      else none
  | cs => some (front, cs)

/-- The formula in front of a text, if it is not nested deeper than `depth`. -/
def read : (depth : Nat) → Reader
  | 0, _ => none
  | depth + 1, cs =>
      match opening cs with
      | (.sign p, behind) => do
          let (a, rest) ← readOperand (read depth) behind
          return (.unOp p a, rest)
      | (.catching, behind) => do
          let (a, rest) ← read depth behind
          return (.catching a, rest)
      | (.operand, cs) => do
          let (front, behind) ← readOperand (read depth) cs
          readTail (read depth) front behind

/-- What may follow a formula: the end, or a closing parenthesis. -/
def Closed (rest : List Char) : Prop := ∀ c ∈ rest.head?, c = ')'

/-- What may follow a word: the end, or a character that does not belong to it. -/
def Stops (p : Char → Bool) (rest : List Char) : Prop := ∀ c ∈ rest.head?, p c = false

theorem Stops.split {p : Char → Bool} {word rest : List Char} (stops : Stops p rest)
    (all : word.all p) :
    (word ++ rest).takeWhile p = word ∧ (word ++ rest).dropWhile p = rest := by
  rw [List.all_eq_true] at all
  rw [List.takeWhile_append_of_pos all, List.dropWhile_append_of_pos all]
  cases rest with
  | nil => simp
  | cons c rest =>
      have first : p c = false := stops c rfl
      simp [List.takeWhile, List.dropWhile, first]

theorem Closed.stops {rest : List Char} (closed : Closed rest) : Stops isWordChar rest := by
  intro c hc
  rw [closed c hc]
  decide

theorem stops_blank (p : Char → Bool) (h : p ' ' = false) (rest : List Char) :
    Stops p (' ' :: rest) := by
  intro c hc
  rw [List.head?_cons, Option.mem_some_iff] at hc
  rw [← hc, h]

theorem isWordChar_of_isCapital {c : Char} (h : isCapital c) : isWordChar c := by
  simp only [isCapital, isWordChar, Listing.isNameChar, Listing.isAsciiLetter, Bool.or_eq_true] at h ⊢
  tauto

theorem Variable.toList_eq (name : Variable) :
    ∃ c cs, name.val.toList = c :: cs ∧ isCapital c ∧ name.val.toList.all isWordChar := by
  obtain ⟨name, h⟩ := name
  rw [isVariable] at h
  split at h
  · cases h
  · next c rest eq =>
      rw [Bool.and_eq_true] at h
      refine ⟨c, rest, eq, h.1, ?_⟩
      rw [eq, List.all_cons, Bool.and_eq_true]
      exact ⟨isWordChar_of_isCapital h.1, h.2⟩

/-- No sign and no `catch` begins like a variable or a parenthesis. -/
theorem opening_operand {c : Char} (h : isCapital c ∨ c = '(') (cs : List Char) :
    opening (c :: cs) = (.operand, c :: cs) := by
  unfold opening
  split
  case h_6 => rfl
  all_goals
    next eq =>
      rw [(List.cons.inj eq).1] at h
      exact absurd h (by decide)

theorem readOperand_variable (inner : Reader) (name : Variable) {rest : List Char}
    (stops : Stops isWordChar rest) :
    readOperand inner (name.val.toList ++ rest) = some (.var name, rest) := by
  obtain ⟨c, cs, eq, first, all⟩ := name.toList_eq
  obtain ⟨word, behind⟩ := stops.split all
  have outside : ∀ inside, name.val.toList ++ rest ≠ '(' :: inside := by
    intro inside same
    rw [eq] at same
    rw [(List.cons.inj same).1] at first
    exact absurd first (by decide)
  rw [readOperand, word, behind]
  · simp only [String.ofList_toList]
    rw [dif_pos name.property]
  · exact outside

theorem readOperand_operandText {a : Formula} {inner : Reader} {rest : List Char}
    (stops : Stops isWordChar rest) (h : inner (a.text ++ ')' :: rest) = some (a, ')' :: rest)) :
    readOperand inner (operandText a a.text ++ rest) = some (a, rest) := by
  cases a with
  | var name => exact readOperand_variable inner name stops
  | binOp | unOp | catching | bind =>
      simp only [operandText, isOperation, if_pos, List.cons_append, List.append_assoc,
        List.nil_append]
      rw [readOperand, h]
      rfl

theorem opening_operandText (a : Formula) (rest : List Char) :
    opening (operandText a a.text ++ rest) = (.operand, operandText a a.text ++ rest) := by
  cases a with
  | var name =>
      obtain ⟨c, cs, eq, first, -⟩ := name.toList_eq
      show opening (name.val.toList ++ rest) = (.operand, name.val.toList ++ rest)
      rw [eq]
      exact opening_operand (.inl first) _
  | binOp | unOp | catching | bind => exact opening_operand (.inr rfl) _

theorem readTail_binOp {inner : Reader} {op : Infix} {front right : Formula} {cs rest : List Char}
    (h : readOperand inner cs = some (right, rest)) :
    readTail inner front (' ' :: (op.val.toList ++ ' ' :: cs)) =
      some (.binOp op front right, rest) := by
  have all : op.val.toList.all isInfixChar := by
    have := op.property
    rw [isInfix, Bool.and_eq_true] at this
    exact this.2
  obtain ⟨word, behind⟩ := (stops_blank isInfixChar (by decide) cs).split all
  rw [readTail, word, behind]
  simp only [String.ofList_toList]
  rw [dif_pos op.property, List.drop_one, List.tail_cons, h]
  rfl

theorem readTail_bind {inner : Reader} {name : Variable} {value : Formula} {cs rest : List Char}
    (h : inner cs = some (value, rest)) :
    readTail inner (.var name) (' ' :: '=' :: ' ' :: cs) = some (.bind name value, rest) := by
  obtain ⟨word, behind⟩ := (stops_blank isInfixChar (by decide) cs).split
    (show ['='].all isInfixChar by decide)
  rw [List.singleton_append] at word behind
  rw [readTail, word, behind, dif_neg (by decide), if_pos rfl, List.drop_one, List.tail_cons, h]
  rfl

theorem readTail_closed {inner : Reader} {front : Formula} {rest : List Char}
    (closed : Closed rest) : readTail inner front rest = some (front, rest) := by
  rw [readTail]
  rintro cs rfl
  exact absurd (closed ' ' rfl) (by decide)

theorem read_operand {depth : Nat} {a : Formula} {behind : List Char}
    (h : readOperand (read depth) (operandText a a.text ++ behind) = some (a, behind)) :
    read (depth + 1) (operandText a a.text ++ behind) = readTail (read depth) a behind := by
  rw [read, opening_operandText]
  show (readOperand (read depth) (operandText a a.text ++ behind)).bind _ = _
  rw [h, Option.bind_some]

theorem read_sign {depth : Nat} {p : Prefix} {a : Formula} {cs rest : List Char}
    (h : readOperand (read depth) cs = some (a, rest)) :
    read (depth + 1) (p.sign ++ cs) = some (.unOp p a, rest) := by
  have sign : opening (p.sign ++ cs) = (.sign p, cs) := by cases p <;> rfl
  rw [read, sign]
  show (readOperand (read depth) cs).bind _ = _
  rw [h, Option.bind_some]
  rfl

theorem read_catching {depth : Nat} {a : Formula} {cs rest : List Char}
    (h : read depth cs = some (a, rest)) :
    read (depth + 1) (['c', 'a', 't', 'c', 'h', ' '] ++ cs) = some (.catching a, rest) := by
  rw [read]
  show (read depth cs).bind _ = _
  rw [h, Option.bind_some]
  rfl

theorem length_le_operandText (a : Formula) : a.text.length ≤ (operandText a a.text).length := by
  rw [operandText]
  split
  · rw [List.length_cons, List.length_append]
    omega
  · exact Nat.le_refl _

theorem closed_parenthesis (rest : List Char) : Closed (')' :: rest) := by simp [Closed]

/-- A formula is read back from its text. -/
theorem read_text : ∀ (a : Formula) (depth : Nat) (rest : List Char), a.text.length < depth →
    Closed rest → read depth (a.text ++ rest) = some (a, rest)
  | _, 0, _, deep, _ => absurd deep (Nat.not_lt_zero _)
  | var name, depth + 1, rest, _, closed => by
      have front := readOperand_variable (read depth) name closed.stops
      exact (read_operand (a := var name) front).trans (readTail_closed closed)
  | binOp op l r, depth + 1, rest, deep, closed => by
      have left_le := length_le_operandText l
      have right_le := length_le_operandText r
      simp only [text, List.length_append, List.length_cons] at deep
      -- Whatever `op` is made of, the left operand ends at the blank before it and `op` at the next.
      have right : readOperand (read depth) (operandText r r.text ++ rest) = some (r, rest) :=
        readOperand_operandText closed.stops
          (read_text r depth _ (by omega) (closed_parenthesis rest))
      have left : readOperand (read depth) (operandText l l.text ++
          ' ' :: (op.val.toList ++ ' ' :: (operandText r r.text ++ rest))) = some (l, _) :=
        readOperand_operandText (stops_blank isWordChar (by decide) _)
          (read_text l depth _ (by omega) (closed_parenthesis _))
      simpa [text] using (read_operand left).trans (readTail_binOp right)
  | unOp p a, depth + 1, rest, deep, closed => by
      have operand_le := length_le_operandText a
      have sign_pos : 0 < p.sign.length := by cases p <;> decide
      simp only [text, List.length_append] at deep
      rw [text, List.append_assoc]
      exact read_sign (readOperand_operandText closed.stops
        (read_text a depth _ (by omega) (closed_parenthesis rest)))
  | catching a, depth + 1, rest, deep, closed => by
      simp only [text, List.length_append, List.length_cons] at deep
      rw [text, List.append_assoc]
      exact read_catching (read_text a depth rest (by omega) closed)
  | bind name a, depth + 1, rest, deep, closed => by
      simp only [text, List.length_append, List.length_cons] at deep
      have front := readOperand_variable (read depth) name
        (stops_blank isWordChar (by decide) ('=' :: ' ' :: (a.text ++ rest)))
      have behind := read_text a depth rest (by omega) closed
      rw [text, List.append_assoc]
      exact (read_operand (a := var name) front).trans (readTail_bind behind)

/-- The formula that a text is, if it is one. -/
def ofText? (s : String) : Option Formula :=
  match read (s.length + 1) s.toList with
  | some (a, []) => some a
  | _ => none

theorem ofText?_text (a : Formula) : ofText? (String.ofList a.text) = some a := by
  have whole := read_text a _ [] (Nat.lt_succ_self _) (by simp [Closed])
  rw [List.append_nil] at whole
  rw [ofText?, String.length_ofList, String.toList_ofList, whole]

end Formula

/-- The listing of an expression made of variables and operators can be read back as its formula. -/
theorem ofText?_listing {a : Formula} {e : Expr} (h : a.Located e) :
    Formula.ofText? e.listing = some a := by
  rw [h.listing, Formula.ofText?_text]

/-- Printed operators keep their grouping. Two expressions made of variables, infix and prefix
operators, catches and matches with variables have the same listing just if they are the same formula,
and so differ in locations only. -/
theorem listing_eq_iff_formula_eq {a b : Formula} {e e' : Expr} (h : a.Located e)
    (h' : b.Located e') : e.listing = e'.listing ↔ a = b := by
  constructor
  · intro same
    have read : some a = some b := by
      rw [← ofText?_listing h, ← ofText?_listing h', same]
    exact Option.some.inj read
  · rintro rfl
    rw [h.listing, h'.listing]

/-- A sum with a catch on its left, and a catch of a sum, which has no parentheses. The locations in
the first have no say. -/
theorem listing_eq_iff_formula_eq_catch :
    let a : Formula.Variable := ⟨"A", by decide⟩
    let b : Formula.Variable := ⟨"B", by decide⟩
    let plus : Formula.Infix := ⟨"+", by decide⟩
    let outer : Formula := .binOp plus (.catching (.var a)) (.var b)
    let inner : Formula := .catching (.binOp plus (.var a) (.var b))
    let sum (l : Loc) : Expr := .binOp l "+" (.catching l (.var l "A")) (.var l "B")
    let attempt : Expr :=
      .catching .unknown (.binOp .unknown "+" (.var .unknown "A") (.var .unknown "B"))
    outer.Located (sum .unknown) ∧ outer.Located (sum (.onLine 7)) ∧ inner.Located attempt ∧
    (sum .unknown).listing = "(catch A) + B" ∧ attempt.listing = "catch A + B" ∧
    (sum .unknown).listing = (sum (.onLine 7)).listing ∧
    (sum .unknown).listing ≠ attempt.listing := by
  intro a b plus outer inner sum attempt
  have hsum (l : Loc) : outer.Located (sum l) := .binOp l plus (.catching l (.var l a)) (.var l b)
  have hattempt : inner.Located attempt := .catching _ (.binOp _ plus (.var _ a) (.var _ b))
  refine ⟨hsum _, hsum _, hattempt, by decide +kernel, by decide +kernel,
    (listing_eq_iff_formula_eq (hsum _) (hsum _)).mpr rfl, ?_⟩
  rw [Ne, listing_eq_iff_formula_eq (hsum _) hattempt]
  exact Formula.noConfusion

end Unsugar
