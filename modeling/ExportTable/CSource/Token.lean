/-!
# Tokens of C source text

A token keeps its spelling, the line on which it starts, and whether anything separated it from the
token before. Rendering writes tokens back with every separation reduced to one space.
-/

namespace ExportTable.CSource

/-- Punctuation is any single character that belongs to no other kind. -/
inductive TokenKind where
  | identifier
  | number
  | literal
  | punctuation
  deriving DecidableEq, Repr

structure Token where
  kind : TokenKind
  text : String
  /-- Counted from one. -/
  line : Nat
  /-- White space, a comment or a directive stands before the token. -/
  spaced : Bool
  deriving DecidableEq, Repr

namespace Token

def isPunctuation (t : Token) (c : Char) : Bool :=
  t.kind = .punctuation && t.text = String.singleton c

def isWord (t : Token) (word : String) : Bool := t.kind = .identifier && t.text = word

theorem isPunctuation_iff {t : Token} {c : Char} :
    t.isPunctuation c ↔ t.kind = .punctuation ∧ t.text = String.singleton c := by
  simp [isPunctuation]

theorem isPunctuation_of_ne {t : Token} {c d : Char} (h : t.isPunctuation c) (hne : c ≠ d) :
    t.isPunctuation d = false := by
  rw [isPunctuation_iff] at h
  simp [isPunctuation, h.2, String.singleton_inj, hne]

theorem isPunctuation_of_kind {t : Token} (h : t.kind ≠ .punctuation) (c : Char) :
    t.isPunctuation c = false := by
  simp [isPunctuation, h]

theorem isPunctuation_of_isWord {t : Token} {word : String} (h : t.isWord word) (c : Char) :
    t.isPunctuation c = false := by
  apply isPunctuation_of_kind
  simp only [isWord, Bool.and_eq_true, decide_eq_true_eq] at h
  simp [h.1]

theorem isWord_of_ne {t : Token} {word other : String} (h : t.isWord word) (hne : word ≠ other) :
    t.isWord other = false := by
  simp only [isWord, Bool.and_eq_true, decide_eq_true_eq] at h
  simp [isWord, h.2, hne]

theorem isWord_of_kind {t : Token} (h : t.kind ≠ .identifier) (word : String) :
    t.isWord word = false := by
  simp [isWord, h]

theorem isWord_of_isPunctuation {t : Token} {c : Char} (h : t.isPunctuation c) (word : String) :
    t.isWord word = false := by
  apply isWord_of_kind
  simp [(isPunctuation_iff.mp h).1]

/-- The token as it is written after another one. -/
def continuation (t : Token) : String := if t.spaced then " " ++ t.text else t.text

end Token

def render : List Token → String
  | [] => ""
  | t :: ts => t.text ++ String.join (ts.map Token.continuation)

end ExportTable.CSource
