import SeriesQuery.Error

/-!
Text in the writing. The first error stays, and nothing is written after it.
-/

namespace SeriesQuery

structure Buffer where
  text : String := ""
  error : Option Error := none

/-- What adds to a buffer. -/
abbrev Step := Buffer → Buffer

namespace Buffer

/-- The finished text, or the error. -/
def result (b : Buffer) : Except Error String :=
  match b.error with
  | some e => .error e
  | none => .ok b.text

end Buffer

namespace Step

variable {b : Buffer}

def skip : Step := id

def write (s : String) : Step := fun b =>
  match b.error with
  | some _ => b
  | none => { b with text := b.text ++ s }

def writeChar (c : Char) : Step := fun b =>
  match b.error with
  | some _ => b
  | none => { b with text := b.text.push c }

def fail (e : Error) : Step := fun b =>
  match b.error with
  | some _ => b
  | none => { b with error := some e }

/-- One step after the other. -/
def seq (steps : List Step) : Step := fun b =>
  steps.foldl (fun b step => step b) b

/-- The steps with a separator between any two of them. -/
def separated (separator : Step) (steps : List Step) : Step :=
  seq (steps.intersperse separator)

@[simp] theorem seq_nil : seq [] b = b := rfl

@[simp] theorem seq_cons (step : Step) (steps : List Step) :
    seq (step :: steps) b = seq steps (step b) := rfl

theorem seq_append (steps rest : List Step) : seq (steps ++ rest) b = seq rest (seq steps b) := by
  simp [seq]

/-- What a step leaves in an empty buffer. -/
def result (step : Step) : Except Error String := (step {}).result

end Step

end SeriesQuery
