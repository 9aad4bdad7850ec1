/-! # Runs of characters

The longest run of characters of one kind at the head of a text ends where the text behind it
stops the run: there the text is at its end, or a character of another kind follows. -/

namespace RuleAtlas.Text

/-- No character at the head of the text goes on a run of the given kind. -/
def Stops (kind : Char → Bool) (rest : List Char) : Prop := ∀ c ∈ rest.head?, kind c = false

section
variable {kind : Char → Bool} {run rest : List Char}

@[simp] theorem stops_nil : Stops kind [] := fun _ member => by simp at member

@[simp] theorem stops_cons {c : Char} : Stops kind (c :: rest) ↔ kind c = false := by
  simp [Stops]

theorem Stops.mono {other : Char → Bool} (stops : Stops kind rest)
    (included : ∀ c, other c = true → kind c = true) : Stops other rest := by
  intro c member
  cases held : other c with
  | false => rfl
  | true =>
    have excluded := stops c member
    rw [included c held] at excluded
    cases excluded

theorem takeWhile_of_stops (all : ∀ c ∈ run, kind c = true) (stops : Stops kind rest) :
    (run ++ rest).takeWhile kind = run := by
  rw [List.takeWhile_append_of_pos all]
  cases rest with
  | nil => simp
  | cons c rest => rw [List.takeWhile_cons_of_neg (by simpa using stops), List.append_nil]

theorem dropWhile_of_stops (all : ∀ c ∈ run, kind c = true) (stops : Stops kind rest) :
    (run ++ rest).dropWhile kind = rest := by
  rw [List.dropWhile_append_of_pos all]
  cases rest with
  | nil => rfl
  | cons c rest => rw [List.dropWhile_cons_of_neg (by simpa using stops)]

/-- Behind its longest run a text stops the run. -/
theorem stops_dropWhile (text : List Char) : Stops kind (text.dropWhile kind) := by
  intro c member
  have headNot := List.head?_dropWhile_not kind text
  rw [Option.mem_def.1 member] at headNot
  simpa using headNot

end

end RuleAtlas.Text
