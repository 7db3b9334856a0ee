import Unsugar.Listing
import Mathlib.Data.List.Basic

/-!
# Listings of atoms

An atom that is a lower-case word is printed as it is, and any other in quotes, where backslashes and
quotes get a backslash before them. Either way the text can be read back, so different atoms are
printed differently. But the words that listings use as syntax are lower-case words, too, and nothing
sets an atom of such a name apart from them.

Main statement: the text of an atom by its name, and that it is not taken for a keyword just if the
name is none (`atomText_spells`). In a listing an atom may look like the end of a block
(`keyword_without_quotes`).
-/

namespace Unsugar

namespace Listing

/-- The words that listings use as syntax. -/
def keywords : List String :=
  ["begin", "end", "if", "case", "of", "when", "try", "catch", "after", "receive", "fun"]

/-- A lower-case letter of ASCII, and then letters and digits of ASCII, `_` and `@`. -/
def IsWord (text : String) : Prop :=
  ∃ c rest, text.toList = c :: rest ∧ c.isLower ∧ ∀ d ∈ rest, d.isAlphanum ∨ d = '_' ∨ d = '@'

/-- A text in quotes. -/
def quote (content : List Char) : String := String.ofList ('\'' :: content ++ ['\''])

/-- What the characters between two quotes stand for. A backslash and the character behind it stand
for that character. A quote that has no backslash before it would end the text, and a backslash at
the end would take the quote behind it. -/
def unescape? : List Char → Option (List Char)
  | [] => some []
  | '\\' :: c :: rest => (unescape? rest).map (c :: ·)
  | c :: rest => if c = '\\' ∨ c = '\'' then none else (unescape? rest).map (c :: ·)

/-- The text is one of an atom of that name, and of nothing else: a word that is no keyword and is
the name itself, or a text in quotes that stands for the name. -/
def Spells (text name : String) : Prop :=
  (text = name ∧ IsWord text ∧ text ∉ keywords) ∨
    ∃ content, text = quote content ∧ unescape? content = some name.toList

/-- The characters with a backslash before each one that is `c`. -/
def escape (c : Char) (cs : List Char) : List Char :=
  cs.flatMap fun d => if d = c then ['\\', d] else [d]

/-! ## Words -/

theorem isAsciiLetter_eq (c : Char) : isAsciiLetter c = c.isAlpha := by
  have upper : ('A' ≤ c && c ≤ 'Z') = c.isUpper := (Bool.decide_and _ _).symm
  rw [isAsciiLetter, upper]
  exact Bool.or_comm _ _

theorem isNameChar_iff {c : Char} : isNameChar c = true ↔ c.isAlphanum ∨ c = '_' ∨ c = '@' := by
  simp only [isNameChar, isAsciiLetter_eq, Char.isAlphanum, Bool.or_eq_true, decide_eq_true_eq]
  tauto

theorem isPlainAtom_iff {name : String} : isPlainAtom name.toList = true ↔ IsWord name := by
  unfold IsWord
  cases name.toList with
  | nil => simp [isPlainAtom]
  | cons c rest =>
      have lower : isAsciiLower c = c.isLower := rfl
      simp [isPlainAtom, lower, isNameChar_iff]

instance (text : String) : Decidable (IsWord text) := decidable_of_iff _ isPlainAtom_iff

theorem isWord_of_mem_keywords : ∀ word ∈ keywords, IsWord word := by
  decide

theorem not_isWord_quote (content : List Char) : ¬IsWord (quote content) := by
  rintro ⟨c, rest, chars, lower, -⟩
  rw [quote, String.toList_ofList, List.cons_append] at chars
  rw [← (List.cons.inj chars).1] at lower
  exact absurd lower (by decide)

/-! ## Quotes -/

theorem quote_inj {content content' : List Char} :
    quote content = quote content' ↔ content = content' := by
  simp [quote, String.ofList_inj]

theorem unescape?_escaped (c : Char) (rest : List Char) :
    unescape? ('\\' :: c :: rest) = (unescape? rest).map (c :: ·) := by
  rw [unescape?]

theorem unescape?_cons {c : Char} (backslash : c ≠ '\\') (quote : c ≠ '\'') (rest : List Char) :
    unescape? (c :: rest) = (unescape? rest).map (c :: ·) := by
  rw [unescape?, if_neg (not_or.mpr ⟨backslash, quote⟩)]
  rintro d rest' rfl
  exact absurd rfl backslash

/-- Backslashes are escaped before quotes, so those that quotes get are not escaped in turn. -/
theorem flatMap_atomChar (cs : List Char) : cs.flatMap atomChar = escape '\'' (escape '\\' cs) := by
  rw [escape, escape, List.flatMap_assoc]
  congr 1
  funext c
  by_cases backslash : c = '\\'
  · simp [atomChar, backslash]
  · by_cases quote : c = '\'' <;> simp [atomChar, backslash, quote]

theorem unescape?_flatMap_atomChar (cs : List Char) : unescape? (cs.flatMap atomChar) = some cs := by
  induction cs with
  | nil => rfl
  | cons c cs ih =>
      rw [List.flatMap_cons, atomChar]
      split_ifs with backslash quote <;> simp only [List.cons_append, List.nil_append]
      · rw [unescape?_escaped, ih, backslash]
        rfl
      · rw [unescape?_escaped, ih, quote]
        rfl
      · rw [unescape?_cons backslash quote, ih]
        rfl

/-! ## Atoms -/

theorem atomText_of_isWord {name : String} (h : IsWord name) : atomText name = name := by
  rw [atomText, if_pos (isPlainAtom_iff.mpr h)]

theorem atomText_of_not_isWord {name : String} (h : ¬IsWord name) :
    atomText name = quote (name.toList.flatMap atomChar) := by
  rw [atomText, if_neg (isPlainAtom_iff.not.mpr h)]
  rfl

/-- A backslash in front of a quote, and one at the end. -/
example : atomText "\\'\\" = "'\\\\\\'\\\\'" := by decide

theorem isWord_atomText {name : String} : IsWord (atomText name) ↔ IsWord name := by
  by_cases word : IsWord name
  · rw [atomText_of_isWord word]
  · rw [atomText_of_not_isWord word]
    exact iff_of_false (not_isWord_quote _) word

/-- Atoms of different names are printed differently. -/
theorem atomText_inj {name name' : String} : atomText name = atomText name' ↔ name = name' := by
  refine ⟨fun same => ?_, fun same => by rw [same]⟩
  have words : IsWord name ↔ IsWord name' := by
    rw [← isWord_atomText, same, isWord_atomText]
  by_cases word : IsWord name
  · rwa [atomText_of_isWord word, atomText_of_isWord (words.mp word)] at same
  · rw [atomText_of_not_isWord word, atomText_of_not_isWord (words.not.mp word), quote_inj] at same
    have read : some name.toList = some name'.toList := by
      rw [← unescape?_flatMap_atomChar name.toList, same, unescape?_flatMap_atomChar]
    exact String.toList_inj.mp (Option.some.inj read)

theorem spells_atomText_iff {name : String} : Spells (atomText name) name ↔ name ∉ keywords := by
  by_cases word : IsWord name
  · rw [atomText_of_isWord word]
    constructor
    · rintro (⟨-, -, free⟩ | ⟨content, quoted, -⟩)
      · exact free
      · exact absurd (quoted ▸ word) (not_isWord_quote content)
    · intro free
      exact .inl ⟨rfl, word, free⟩
  · rw [atomText_of_not_isWord word]
    refine iff_of_true (.inr ⟨_, rfl, unescape?_flatMap_atomChar _⟩) fun keyword => ?_
    exact word (isWord_of_mem_keywords name keyword)

theorem atomText_mem_keywords {name : String} : atomText name ∈ keywords ↔ name ∈ keywords := by
  by_cases word : IsWord name
  · rw [atomText_of_isWord word]
  · have quoted : ¬IsWord (atomText name) := isWord_atomText.not.mpr word
    exact iff_of_false (mt (isWord_of_mem_keywords _) quoted) (mt (isWord_of_mem_keywords _) word)

end Listing

open Listing

/-- The text of an atom by its name. A lower-case word is its own text. Any other name stands in
quotes, its backslashes escaped first and then its quotes, and what stands there is read as the name
again. So different atoms are printed differently. The text is one of an atom and of nothing else
just if the name is no keyword. -/
theorem atomText_spells (name : String) :
    (IsWord name ∧ atomText name = name ∨
      ¬IsWord name ∧ ∃ content, atomText name = quote content ∧
        content = escape '\'' (escape '\\' name.toList) ∧
        unescape? content = some name.toList) ∧
    (∀ other, atomText other = atomText name ↔ other = name) ∧
    (Spells (atomText name) name ↔ name ∉ keywords) ∧
    (atomText name ∈ keywords ↔ name ∈ keywords) := by
  refine ⟨?_, fun other => atomText_inj, spells_atomText_iff, atomText_mem_keywords⟩
  by_cases word : IsWord name
  · exact .inl ⟨word, atomText_of_isWord word⟩
  · exact .inr ⟨word, _, atomText_of_not_isWord word, flatMap_atomChar _,
      unescape?_flatMap_atomChar _⟩

/-- The atom `end` is printed as the keyword. In a block it looks like the end of it. -/
theorem keyword_without_quotes :
    atomText "end" = "end" ∧ "end" ∈ keywords ∧ ¬Spells (atomText "end") "end" ∧
      (Expr.block .unknown [.lit .unknown (.atom "end")]).listing = "begin\n    end\nend" := by
  have keyword : "end" ∈ keywords := by decide
  exact ⟨by decide, keyword, fun spells => spells_atomText_iff.mp spells keyword, by decide +kernel⟩

end Unsugar
