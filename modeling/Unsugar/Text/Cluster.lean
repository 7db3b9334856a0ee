import Unsugar.Text.ClusterClasses
import Unsugar.Text.Extending

/-!
# User-perceived characters

How many characters a reader counts in a text: its extended grapheme clusters. The rules look at
the classes of two neighbours, and three of them also at what came before: a pictograph and its
joiner, a consonant and its linker, and the parity of a run of regional indicators. One left to
right pass therefore carries the class of the last character and these three facts.
-/

namespace Unsugar.Text

/-- The class of a character in the rules on neighbours. -/
inductive BreakClass where
  | cr | lf | control
  | extend | joiner | spacing | prepend
  | regional
  | leading | vowel | trailing | syllableOpen | syllableClosed
  | other
deriving DecidableEq

/-- Precomposed Hangul syllables come in rows of 28: one without a final consonant, then 27 with
one. -/
def BreakClass.ofChar (c : Char) : BreakClass :=
  let n := c.toNat
  if c = '\r' then .cr
  else if c = '\n' then .lf
  else if n = 0x200D then .joiner
  else if breakingControl.mem c then .control
  else if extending.mem c || (0x1F3FB ≤ n && n ≤ 0x1F3FF) then .extend
  else if spacingMark.mem c then .spacing
  else if prepended.mem c then .prepend
  else if 0x1F1E6 ≤ n && n ≤ 0x1F1FF then .regional
  else if leadingJamo.mem c then .leading
  else if vowelJamo.mem c then .vowel
  else if trailingJamo.mem c then .trailing
  else if 0xAC00 ≤ n && n ≤ 0xD7A3 then
    if (n - 0xAC00) % 28 = 0 then .syllableOpen else .syllableClosed
  else .other

/-- How far the sequence "pictograph, extending characters, joiner" has come. -/
inductive PictographRun where
  | none | started | joined
deriving DecidableEq

/-- How far the sequence "consonant, signs among which a linker" has come. -/
inductive ConjunctRun where
  | none | started | linked
deriving DecidableEq

/-- What the rules need to know about the characters already passed. -/
structure ClusterState where
  last : BreakClass
  oddRegionals : Bool
  pictograph : PictographRun
  conjunct : ConjunctRun

/-- The state after a character; `prior` is the state before it, if any. -/
def ClusterState.next (prior : Option ClusterState) (c : Char) : ClusterState :=
  let cls := BreakClass.ofChar c
  { last := cls
    oddRegionals := cls = .regional && !(prior.map (·.oddRegionals)).getD false
    pictograph :=
      if pictographic.mem c then .started
      else match (prior.map (·.pictograph)).getD .none, cls with
        | .started, .extend => .started
        | .started, .joiner => .joined
        | _, _ => .none
    conjunct :=
      if conjunctConsonant.mem c then .started
      else match (prior.map (·.conjunct)).getD .none with
        | .none => .none
        | run =>
            if conjunctLinker.mem c then .linked
            else if cls = .joiner || (cls = .extend && c.toNat ≠ 0x200C) then run
            else .none }

/-- Whether a cluster ends between the characters passed and the next one. -/
def ClusterState.breaksBefore (st : ClusterState) (c : Char) : Bool :=
  match st.last, BreakClass.ofChar c with
  | .cr, .lf => false
  | .cr, _ | .lf, _ | .control, _ => true
  | _, .cr | _, .lf | _, .control => true
  | .leading, .leading | .leading, .vowel => false
  | .leading, .syllableOpen | .leading, .syllableClosed => false
  | .syllableOpen, .vowel | .syllableOpen, .trailing => false
  | .vowel, .vowel | .vowel, .trailing => false
  | .syllableClosed, .trailing | .trailing, .trailing => false
  | _, .extend | _, .joiner | _, .spacing => false
  | .prepend, _ => false
  | .regional, .regional => !st.oddRegionals
  | _, _ =>
      !(st.conjunct = .linked && conjunctConsonant.mem c)
        && !(st.pictograph = .joined && pictographic.mem c)

/-- The number of clusters that begin in a text after the characters passed. -/
def clustersFrom (prior : Option ClusterState) : List Char → Nat
  | [] => 0
  | c :: rest =>
      let opens := match prior with
        | none => true
        | some st => st.breaksBefore c
      (if opens then 1 else 0) + clustersFrom (some (.next prior c)) rest

/-- The room a text takes when a line is filled: its clusters. In ASCII text every character counts,
line breaks included. -/
def room (s : String) : Nat :=
  if s.toList.all (·.toNat < 0x80) then s.length else clustersFrom none s.toList

end Unsugar.Text
