import SqlTemplate.Template.Compile

/-! Templates built piece by piece. -/

namespace SqlTemplate

structure Template (τ : Type) where
  fragments : List String
  embedded : List (Embedded τ)
  alternates : fragments.length = embedded.length + 1

namespace Template

variable {τ : Type}

def start (text : String) : Template τ := ⟨[text], [], rfl⟩

def appendLast (text : String) : List String → List String
  | [] => []
  | [last] => [last ++ text]
  | fragment :: rest => fragment :: appendLast text rest

@[simp] theorem length_appendLast (text : String) (fragments : List String) :
    (appendLast text fragments).length = fragments.length := by
  fun_induction appendLast text fragments <;> simp_all

/-- Appends literal text, which may hold placeholders. -/
def text (template : Template τ) (text : String) : Template τ :=
  { template with
    fragments := appendLast text template.fragments
    alternates := by rw [length_appendLast, template.alternates] }

def embed (template : Template τ) (value : Embedded τ) : Template τ :=
  ⟨template.fragments ++ [""], template.embedded ++ [value], by
    simp [template.alternates]⟩

def raw (template : Template τ) (value : Value) : Template τ :=
  template.embed (.raw value)

def computed (template : Template τ) (compute : τ) : Template τ :=
  template.embed (.computed compute)

def toStatement (template : Template τ) : Except TemplateError (Statement τ) :=
  compile template.fragments template.embedded

def embeddedQuoted : Embedded τ → String
  | .raw value => "Raw(" ++ value.quoted ++ ")"
  | .computed _ => "Transformer(Transformer(..))"

def quoted (template : Template τ) : String :=
  "Template \x7b fragments: " ++ Text.listed (template.fragments.map Text.quoted) ++
    ", embedded: " ++ Text.listed (template.embedded.map embeddedQuoted) ++ " \x7d"

end Template

end SqlTemplate
