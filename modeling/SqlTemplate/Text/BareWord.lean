/-! The ASCII characters of bare words in statements. -/

namespace SqlTemplate.Text

def isAsciiWord (c : Char) : Bool :=
  c.isAlphanum || c == '_'

def isBareStart (c : Char) : Bool :=
  c.isAlpha || c == '_'

def isBareLater (c : Char) : Bool :=
  isAsciiWord c || c == '$'

theorem isBareLater_of_isBareStart {c : Char} (start : isBareStart c) : isBareLater c := by
  simp only [isBareStart, isBareLater, isAsciiWord, Char.isAlphanum, Bool.or_eq_true] at *
  rcases start with letter | underscore
  · exact Or.inl (Or.inl (Or.inl letter))
  · exact Or.inl (Or.inr underscore)

end SqlTemplate.Text
