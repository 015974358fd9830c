/-!
# Escaped text

In a written document the five characters that markup is made of stand as references. Everything
else stands for itself.
-/

namespace XsdInfer.Text

/-- The five references that every document knows, by name. -/
def predefined : List (String × Char) :=
  [("lt", '<'), ("gt", '>'), ("amp", '&'), ("apos", '\''), ("quot", '"')]

/-- A character as it is written in the value of an attribute. -/
def escapeChar (c : Char) : List Char :=
  if c = '<' then "&lt;".toList
  else if c = '>' then "&gt;".toList
  else if c = '&' then "&amp;".toList
  else if c = '\'' then "&apos;".toList
  else if c = '"' then "&quot;".toList
  else [c]

/-- A text as it is written in the value of an attribute. -/
def escape (s : List Char) : List Char :=
  s.flatMap escapeChar

/-- Nothing is escaped as nothing. -/
@[simp]
theorem escape_nil : escape [] = [] := rfl

/-- A text is escaped character by character. -/
@[simp]
theorem escape_cons (c : Char) (s : List Char) : escape (c :: s) = escapeChar c ++ escape s := by
  simp [escape]

/-- No escaped character ends a value or a tag. -/
theorem not_mem_escapeChar {c : Char} (h : c = '<' ∨ c = '>' ∨ c = '\'' ∨ c = '"') (a : Char) :
    c ∉ escapeChar a := by
  unfold escapeChar
  split
  next => rcases h with rfl | rfl | rfl | rfl <;> simp
  next =>
    split
    next => rcases h with rfl | rfl | rfl | rfl <;> simp
    next =>
      split
      next => rcases h with rfl | rfl | rfl | rfl <;> simp
      next =>
        split
        next => rcases h with rfl | rfl | rfl | rfl <;> simp
        next =>
          split
          next => rcases h with rfl | rfl | rfl | rfl <;> simp
          next => rcases h with rfl | rfl | rfl | rfl <;> simp only [List.mem_singleton] <;> grind

/-- An escaped text holds no character that ends a value or a tag. -/
theorem not_mem_escape {c : Char} (h : c = '<' ∨ c = '>' ∨ c = '\'' ∨ c = '"') (s : List Char) :
    c ∉ escape s := by
  intro mem
  obtain ⟨a, _, at_a⟩ := List.mem_flatMap.mp mem
  exact not_mem_escapeChar h a at_a

end XsdInfer.Text
