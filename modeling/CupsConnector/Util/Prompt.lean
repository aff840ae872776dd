import Mathlib.Data.List.Basic

/-!
# Prompts of the connector's init command (`gcp-cups-connector-util/init.go`)

`initConfigFile` asks its questions on the terminal. `fmt.Scan` reads one whitespace-separated
word per call from standard input, and `log.Fatalln` ends the program with a message.

* `Terminal`: the words left on standard input and the lines printed so far; `Exit`: how the
  program stops before returning.
* `stringToBool`, `scanYesOrNo`, `scanNonEmptyString`.
* `scanYesOrNo_first_answer`: the question is repeated until a word parses as a boolean; that
  word's value is the answer, and exactly the words up to it are consumed.
-/

namespace CupsConnector

/-- How the program stops before the function returns: `log.Fatal` with its message, or still
polling the token endpoint when the replies given to the model run out. -/
inductive Exit
  | fatal (msg : String)
  | polling
  deriving DecidableEq, Repr

/-- The terminal: the words that `fmt.Scan` will read from standard input (each non-empty), and
the lines printed to standard output. -/
structure Terminal where
  input : List String
  output : List String
  deriving DecidableEq, Repr

/-- `fmt.Println` of each line. -/
def Terminal.print (t : Terminal) (lines : List String) : Terminal :=
  { t with output := t.output ++ lines }

@[simp] theorem Terminal.print_input (t : Terminal) (lines : List String) :
    (t.print lines).input = t.input := rfl

@[simp] theorem Terminal.print_output (t : Terminal) (lines : List String) :
    (t.print lines).output = t.output ++ lines := rfl

/-- `stringToBool`: whether `val` parses as a boolean, and the value. Only `val[0:1]`, the first
byte, is read. `strings.ToLower` of that byte lower-cases an ASCII letter; a byte of a
multi-byte character lowers to no ASCII character, as a non-ASCII `Char` is left alone by
`Char.toLower`. -/
def stringToBool (val : String) : Bool × Bool :=
  match val.toList with
  | [] => (false, false)
  | c :: _ =>
    match c.toLower with
    | 'y' | 't' | '1' => (true, true)
    | 'n' | 'f' | '0' => (true, false)
    | _ => (false, true)

/-- The loop of `scanYesOrNo` over the words left on standard input; `out` is what is printed
so far. -/
def scanYesOrNoLoop (question : String) (out : List String) :
    List String → Except Exit (Bool × Terminal)
  | [] => .error (.fatal "EOF")
  | answer :: rest =>
    match stringToBool answer with
    | (true, value) => .ok (value, ⟨rest, out ++ [question, ""]⟩)
    | (false, _) => scanYesOrNoLoop question (out ++ [question]) rest

/-- `scanYesOrNo`: print the question and read a word, until a word parses as a boolean. The
end of standard input is fatal (`log.Fatalln(io.EOF)`). -/
def scanYesOrNo (question : String) (t : Terminal) : Except Exit (Bool × Terminal) :=
  scanYesOrNoLoop question t.output t.input

/-- `scanNonEmptyString`: print the prompt and read a word. The `length` that `fmt.Scan`
returns is the number of operands it filled, 1 whenever it returns no error, so the loop ends
with the first word read. -/
def scanNonEmptyString (prompt : String) (t : Terminal) : Except Exit (String × Terminal) :=
  match t.input with
  | [] => .error (.fatal "EOF")
  | answer :: rest => .ok (answer, ⟨rest, t.output ++ [prompt, ""]⟩)

theorem scanYesOrNoLoop_unparsed {question : String} {out : List String} {answer : String}
    (rest : List String) (h : (stringToBool answer).1 = false) :
    scanYesOrNoLoop question out (answer :: rest) =
      scanYesOrNoLoop question (out ++ [question]) rest := by
  rw [scanYesOrNoLoop]
  rcases hs : stringToBool answer with ⟨_ | _, v⟩
  · rfl
  · simp [hs] at h

theorem scanYesOrNoLoop_parsed {question : String} {out : List String} {answer : String}
    (rest : List String) (h : (stringToBool answer).1 = true) :
    scanYesOrNoLoop question out (answer :: rest) =
      .ok ((stringToBool answer).2, ⟨rest, out ++ [question, ""]⟩) := by
  rw [scanYesOrNoLoop]
  rcases hs : stringToBool answer with ⟨_ | _, v⟩
  · simp [hs] at h
  · rfl

/-- **`scanYesOrNo`.** The answer is the value of the first word on standard input that parses
as a boolean. The words before it and that word are consumed, and the question is printed once
for each of them, followed by an empty line. -/
theorem scanYesOrNo_first_answer (question : String) (pre : List String) (answer : String)
    (post out : List String) (hpre : ∀ w ∈ pre, (stringToBool w).1 = false)
    (hanswer : (stringToBool answer).1 = true) :
    scanYesOrNo question ⟨pre ++ answer :: post, out⟩ =
      .ok ((stringToBool answer).2,
        ⟨post, out ++ List.replicate pre.length question ++ [question, ""]⟩) := by
  unfold scanYesOrNo
  induction pre generalizing out with
  | nil => simpa using @scanYesOrNoLoop_parsed question out answer post hanswer
  | cons w pre ih =>
    simp only [List.cons_append, List.mem_cons, forall_eq_or_imp] at hpre ⊢
    rw [scanYesOrNoLoop_unparsed _ hpre.1, ih _ hpre.2]
    simp [List.replicate_succ]

theorem scanYesOrNo_first_answer_sample :
    (∀ w ∈ ["maybe", "?"], (stringToBool w).1 = false) ∧ (stringToBool "Yes").1 = true ∧
      scanYesOrNo "Enable local printing?" ⟨["maybe", "?", "Yes", "n"], []⟩ =
        .ok (true, ⟨["n"], ["Enable local printing?", "Enable local printing?",
          "Enable local printing?", ""]⟩) :=
  ⟨by decide, by decide,
    scanYesOrNo_first_answer _ ["maybe", "?"] "Yes" ["n"] [] (by decide) (by decide)⟩

/-- An answer of `scanYesOrNo` is the value of the first word that parses, and the words after it
are left on standard input. -/
theorem scanYesOrNoLoop_eq_ok {question : String} {out input : List String} {b : Bool}
    {t' : Terminal} (h : scanYesOrNoLoop question out input = .ok (b, t')) :
    ∃ pre w, input = pre ++ w :: t'.input ∧ (∀ x ∈ pre, (stringToBool x).1 = false) ∧
      (stringToBool w).1 = true ∧ b = (stringToBool w).2 := by
  induction input generalizing out with
  | nil => cases h
  | cons w rest ih =>
    cases hw : (stringToBool w).1
    · rw [scanYesOrNoLoop_unparsed _ hw] at h
      obtain ⟨pre, w', rfl, hpre, hw'⟩ := ih h
      exact ⟨w :: pre, w', rfl, by simpa [hw] using hpre, hw'⟩
    · rw [scanYesOrNoLoop_parsed _ hw] at h
      cases h
      exact ⟨[], w, rfl, by simp, hw, rfl⟩

/-- With no word that parses, `scanYesOrNo` reads to the end of standard input and fails. -/
theorem scanYesOrNo_eof (question : String) (input out : List String)
    (h : ∀ w ∈ input, (stringToBool w).1 = false) :
    scanYesOrNo question ⟨input, out⟩ = .error (.fatal "EOF") := by
  unfold scanYesOrNo
  induction input generalizing out with
  | nil => rfl
  | cons w input ih =>
    simp only [List.mem_cons, forall_eq_or_imp] at h
    rw [scanYesOrNoLoop_unparsed _ h.1, ih _ h.2]

end CupsConnector
