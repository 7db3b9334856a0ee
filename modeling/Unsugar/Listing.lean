import Unsugar.Layout
import Unsugar.Form
import Unsugar.Json.Printer
import Unsugar.Text.Quoted
import Unsugar.Decimal.Style

/-!
# Listings

Forms written as source of the host language, for people who inspect a unit. Lists of arguments and
the like are groups that break after commas; bodies and clauses always take lines of their own.
Operators are printed without regard to precedence: an operand that is itself an operator, a match or
a catch stands in parentheses.
-/

namespace Unsugar

namespace Listing

instance : Coe String Doc := ⟨.text⟩

/-! ## Names and literals -/

def isAsciiLower (c : Char) : Bool := 'a' ≤ c && c ≤ 'z'

def isAsciiLetter (c : Char) : Bool := isAsciiLower c || ('A' ≤ c && c ≤ 'Z')

def isNameChar (c : Char) : Bool :=
  isAsciiLetter c || ('0' ≤ c && c ≤ '9') || c = '_' || c = '@'

/-- Whether an atom needs no quotes: a lower-case letter, then letters, digits, `_` and `@`. -/
def isPlainAtom : List Char → Bool
  | [] => false
  | c :: rest => isAsciiLower c && rest.all isNameChar

/-- A character inside the quotes of an atom. -/
def atomChar (c : Char) : List Char :=
  if c = '\\' then ['\\', '\\'] else if c = '\'' then ['\\', '\''] else [c]

/-- An atom, in quotes where it needs them. -/
def atomText (name : String) : String :=
  if isPlainAtom name.toList then name
  else String.ofList ('\'' :: name.toList.flatMap atomChar ++ ['\''])

def literal : Literal → Doc
  | .atom name => .text (atomText name)
  | .integer n => .text (toString n)
  | .float x => .text (Decimal.Style.term.write x)
  | .char c => .text (String.ofList ('$' :: Text.asciiChar c))
  | .str s => .text (Text.quoted s)
  | .nil => .text "[]"

/-- A prefix operator; a blank keeps a word apart from its operand. -/
def prefixOperator (op : String) : String :=
  if op.toList.all isAsciiLetter then op ++ " " else op

/-! ## Shapes -/

/-- Items after commas, which may each end a line. -/
def commas (items : List Doc) : Doc := .group (.nest 4 (.join (.text "," ++ .soft) items))

/-- The expressions of a body, each on a line of its own. -/
def body (items : List Doc) : Doc := .join (.text "," ++ .hard) items

/-- Lines indented below what stands before. -/
def below (d : Doc) : Doc := .nest 4 (.hard ++ d)

/-- Whether an operand needs parentheses. -/
def isOperation : Expr → Bool
  | .binOp .. | .unOp .. | .bind .. | .catching .. => true
  | _ => false

/-- An expression in the place of an operand, of which `d` is the listing. -/
def operand (e : Expr) (d : Doc) : Doc := if isOperation e then "(" ++ d ++ ")" else d

/-- How the head of a clause is written. -/
inductive Head where
  /-- `name(Patterns)`, in functions and named closures. -/
  | named (name : String)
  /-- `(Patterns)`, in closures. -/
  | arguments
  /-- `Pattern`, after `case`, `receive` and `try`. -/
  | bare
  /-- The guards alone, after `if`. -/
  | guardsOnly

/-- A clause from the listings of its parts. -/
def clauseOf (head : Head) (patterns : List Doc) (guards : List Doc) (items : List Doc) : Doc :=
  let args := commas patterns
  let tests := Doc.join "; " guards
  let guarded (front : Doc) : Doc :=
    if guards.isEmpty then front else front ++ " when " ++ tests
  let front := match head with
    | .named name => guarded (Doc.text (atomText name) ++ "(" ++ args ++ ")")
    | .arguments => guarded ("(" ++ args ++ ")")
    | .bare => guarded args
    | .guardsOnly => tests
  front ++ " ->" ++ below (body items)

/-- Clauses, each on lines of its own. -/
def clausesOf (cs : List Doc) : Doc := .join (.text ";" ++ .hard) cs

/-- A keyword, clauses below it, and `end`. -/
def clauseBlock (opening : Doc) (cs : List Doc) : Doc :=
  opening ++ below (clausesOf cs) ++ Doc.hard ++ "end"

/-- A section of a block: a keyword and lines below it; nothing without lines. -/
def blockPart (keyword : String) (items : List Doc) (lines : Doc) : Doc :=
  if items.isEmpty then .nil else Doc.text keyword ++ below lines ++ Doc.hard

/-- A list of heads with a tail, if it is not proper. -/
def listOf (heads : List Doc) (tail : Option Doc) : Doc :=
  match tail with
  | none => "[" ++ commas heads ++ "]"
  | some t => "[" ++ commas heads ++ " | " ++ t ++ "]"

/-! ## Expressions -/

mutual

def expr : Expr → Doc
  | .lit _ v => literal v
  | .var _ name => name
  | .tuple _ es => "\x7b" ++ commas (exprs es) ++ "\x7d"
  | .cons _ h t =>
      let (heads, tail) := spine t fun _ => expr t
      listOf (expr h :: heads) tail
  | .bin _ ss => "<<" ++ commas (segments ss) ++ ">>"
  | .binOp _ op l r => operand l (expr l) ++ Doc.text (" " ++ op ++ " ") ++ operand r (expr r)
  | .unOp _ op e => Doc.text (prefixOperator op) ++ operand e (expr e)
  | .call _ f args => operand f (expr f) ++ "(" ++ commas (exprs args) ++ ")"
  | .remote _ m f => expr m ++ ":" ++ expr f
  | .listComp _ t qs => "[" ++ expr t ++ " || " ++ commas (qualifiers qs) ++ "]"
  | .binComp _ t qs => "<< " ++ expr t ++ " || " ++ commas (qualifiers qs) ++ " >>"
  | .block _ es => "begin" ++ below (body (exprs es)) ++ Doc.hard ++ "end"
  | .ifs _ cs => clauseBlock "if" (clauses .guardsOnly cs)
  | .caseOf _ subject cs => clauseBlock ("case " ++ expr subject ++ " of") (clauses .bare cs)
  | .tryOf _ es cs hs after =>
      "try" ++ below (body (exprs es)) ++ Doc.hard
        ++ blockPart "of" (clauses .bare cs) (clausesOf (clauses .bare cs))
        ++ blockPart "catch" (clauses .bare hs) (clausesOf (clauses .bare hs))
        ++ blockPart "after" (exprs after) (body (exprs after))
        ++ "end"
  | .catching _ e => "catch " ++ expr e
  | .receive _ cs after =>
      "receive"
        ++ (if cs.isEmpty then .nil else below (clausesOf (clauses .bare cs)))
        ++ afterSection after ++ Doc.hard ++ "end"
  | .closure _ cs => clauseBlock "fun" (clauses .arguments cs)
  | .namedClosure _ name cs => clauseBlock "fun" (clauses (.named name) cs)
  | .funRef _ name arity => .text s!"fun {atomText name}/{arity}"
  | .remoteFunRef _ m f a => "fun " ++ expr m ++ ":" ++ expr f ++ "/" ++ expr a
  | .record _ base name fs =>
      baseOf base ++ Doc.text ("#" ++ atomText name ++ "\x7b") ++ commas (recordFields fs) ++ "\x7d"
  | .recordField _ e name field =>
      operand e (expr e) ++ Doc.text s!"#{atomText name}.{atomText field}"
  | .recordIndex _ name field => .text s!"#{atomText name}.{atomText field}"
  | .map _ base es => baseOf base ++ "#\x7b" ++ commas (entries es) ++ "\x7d"
  | .field _ base name => rootlessBase base ++ "." ++ Doc.text (atomText name)
  | .exception _ kind pattern stack =>
      expr kind ++ ":" ++ expr pattern ++ stackOf stack
  | .bind _ p e => expr p ++ " = " ++ expr e
  | .foreign _ tag _ => .text ("<?" ++ tag ++ "?>")

def exprs : List Expr → List Doc
  | [] => []
  | e :: rest => expr e :: exprs rest

/-- The further heads and the tail of a list whose first tail is `e`; `whole` is the listing of `e`,
which only a tail that is no list needs. -/
def spine : (e : Expr) → (whole : Unit → Doc) → List Doc × Option Doc
  | .cons _ h t, _ =>
      let (heads, tail) := spine t fun _ => expr t
      (expr h :: heads, tail)
  | .lit _ .nil, _ => ([], none)
  | _, whole => ([], some (whole ()))

def guards : List (List Expr) → List Doc
  | [] => []
  | g :: rest => commas (exprs g) :: guards rest

def clauses (head : Head) : List Clause → List Doc
  | [] => []
  | ⟨_, ps, gs, es⟩ :: rest => clauseOf head (exprs ps) (guards gs) (exprs es) :: clauses head rest

def segments : List Segment → List Doc
  | [] => []
  | ⟨_, e, size, types⟩ :: rest =>
      (operand e (expr e) ++ sizeSuffix size
        ++ (match types with
            | none => Doc.nil
            | some ts => "/" ++ Doc.text ("-".intercalate ts))) :: segments rest

def sizeSuffix : Option Expr → Doc
  | none => .nil
  | some e => ":" ++ operand e (expr e)

def qualifiers : List Qualifier → List Doc
  | [] => []
  | .generate _ p s :: rest => (expr p ++ " <- " ++ expr s) :: qualifiers rest
  | .binGenerate _ p s :: rest => (expr p ++ " <= " ++ expr s) :: qualifiers rest
  | .filter test :: rest => expr test :: qualifiers rest

def recordFields : List RecordField → List Doc
  | [] => []
  | ⟨_, name, e⟩ :: rest => (Doc.text name ++ " = " ++ expr e) :: recordFields rest

def entries : List Entry → List Doc
  | [] => []
  | ⟨_, key, e⟩ :: rest => (Doc.text (atomText key) ++ " = " ++ expr e) :: entries rest

def baseOf : Option Expr → Doc
  | none => .nil
  | some e => operand e (expr e)

/-- The base of a field. A root-qualified name is written without its empty atom. -/
def rootlessBase : Option Expr → Doc
  | none => .nil
  | some e => if e.isEmptyAtom then .nil else operand e (expr e)

def stackOf : Option Expr → Doc
  | none => .nil
  | some e => ":" ++ expr e

def afterSection : Option After → Doc
  | none => .nil
  | some ⟨timeout, es⟩ =>
      .hard ++ "after" ++ below (expr timeout ++ " ->" ++ below (body (exprs es)))

end

/-! ## Forms -/

def form : Form → Doc
  | .file _ name line => .text s!"-file({Text.quoted name}, {line})."
  | .function _ name _ cs => clausesOf (clauses (.named name) cs) ++ "."
  | .attr _ name value => .text s!"-{atomText name}({value.compact})."
  | .eof _ => .nil
  | .other value => .text ("%% " ++ value.compact)

end Listing

/-- An expression as source. -/
def Expr.listing (e : Expr) : String := (Listing.expr e).render

namespace Form

/-- A form as source. -/
def listing (f : Form) : String := (Listing.form f).render

def isEof : Form → Bool
  | eof _ => true
  | _ => false

/-- A unit as source, one form a paragraph; the marker of the end is left out. -/
def unitListing (forms : List Form) : String :=
  (Doc.join .hard ((forms.filter (!·.isEof)).map fun f => Listing.form f ++ Doc.hard)).render

end Form

end Unsugar
