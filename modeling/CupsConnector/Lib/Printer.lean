import Mathlib.Data.List.Basic

/-!
# The printer record (`lib/printer.go`)

The connector's view of one printer, shared by the CUPS side and the GCP side, and the
instruction that `DiffPrinters` emits for it.

* `Printer σ δ`: the fields of `lib.Printer`.  The state and description sections
  (`*cdd.PrinterStateSection`, `*cdd.PrinterDescriptionSection`) belong to the `cdd` package,
  which is not part of this source: they are the type parameters `σ` and `δ`, a nil pointer is
  `none`, and `reflect.DeepEqual` on two such pointers is `=` on `Option σ` and `Option δ`.
* `Tags`, a Go `map[string]string`, is an association list read through `List.lookup`; the
  `*Semaphore` is only ever copied, and is kept as its address.
* `GoMap α`: the package's other maps, `map[string]α`, read as `m[k]` with its `ok`.
* `goStringLT`: Go's `<` on strings, the bytewise order of the UTF-8 encodings.
* `printerSliceToMapByName` (the last printer of each name wins), `PrinterIsRaw` and
  `FilterRawPrinters`.
-/

namespace CupsConnector

/-- `lib.Printer`: one printer as CUPS reports it, or as GCP has it registered. -/
structure Printer (σ δ : Type) where
  gcpID : String
  name : String
  defaultDisplayName : String
  uuid : String
  manufacturer : String
  model : String
  gcpVersion : String
  setupURL : String
  supportURL : String
  updateURL : String
  connectorVersion : String
  state : Option σ
  description : Option δ
  capsHash : String
  tags : List (String × String)
  cupsJobSemaphore : Nat
  deriving DecidableEq, Repr

/-- `lib.PrinterDiffOperation`. -/
inductive PrinterDiffOperation
  | registerPrinter
  | updatePrinter
  | deletePrinter
  | noChangeToPrinter
  deriving DecidableEq, Repr

/-- `lib.PrinterDiff`: the changes to push to one GCP printer.  The flags default to `false`,
Go's zero value, so `{ operation := .deletePrinter, printer := p }` is the source's
`PrinterDiff{Operation: DeletePrinter, Printer: p}`. -/
structure PrinterDiff (σ δ : Type) where
  operation : PrinterDiffOperation
  printer : Printer σ δ
  defaultDisplayNameChanged : Bool := false
  manufacturerChanged : Bool := false
  modelChanged : Bool := false
  gcpVersionChanged : Bool := false
  setupURLChanged : Bool := false
  supportURLChanged : Bool := false
  updateURLChanged : Bool := false
  connectorVersionChanged : Bool := false
  stateChanged : Bool := false
  descriptionChanged : Bool := false
  capsHashChanged : Bool := false
  tagsChanged : Bool := false
  deriving DecidableEq, Repr

variable {σ δ : Type}

/-- All twelve change flags of a diff are clear. -/
def PrinterDiff.FlagsClear (d : PrinterDiff σ δ) : Prop :=
  d.defaultDisplayNameChanged = false ∧ d.manufacturerChanged = false ∧
    d.modelChanged = false ∧ d.gcpVersionChanged = false ∧ d.setupURLChanged = false ∧
    d.supportURLChanged = false ∧ d.updateURLChanged = false ∧
    d.connectorVersionChanged = false ∧ d.stateChanged = false ∧
    d.descriptionChanged = false ∧ d.capsHashChanged = false ∧ d.tagsChanged = false

/-! ### Go maps and strings -/

/-- A Go `map[string]α`: `m k` is `m[k]` with its `ok` result, as an `Option`. -/
abbrev GoMap (α : Type) := String → Option α

/-- `make(map[string]α)`. -/
def GoMap.empty {α : Type} : GoMap α := fun _ => none

/-- `m[k] = v`. -/
def GoMap.insert {α : Type} (m : GoMap α) (k : String) (v : α) : GoMap α :=
  fun k' => if k' = k then some v else m k'

@[simp] theorem GoMap.empty_apply {α : Type} (k : String) : (GoMap.empty : GoMap α) k = none :=
  rfl

@[simp] theorem GoMap.insert_apply {α : Type} (m : GoMap α) (k k' : String) (v : α) :
    m.insert k v k' = if k' = k then some v else m k' := rfl

/-- The runtime's byte comparison behind Go's string order: the first differing byte decides,
and a proper prefix sorts first. -/
def bytesLT : List UInt8 → List UInt8 → Bool
  | [], [] => false
  | [], _ :: _ => true
  | _ :: _, [] => false
  | x :: xs, y :: ys => if x.toNat < y.toNat then true else if x = y then bytesLT xs ys else false

/-- Go's `a < b` on strings: the bytes of the UTF-8 encodings, compared lexicographically. -/
def goStringLT (a b : String) : Bool := bytesLT a.toUTF8.data.toList b.toUTF8.data.toList

theorem bytesLT_irrefl (l : List UInt8) : bytesLT l l = false := by
  induction l with
  | nil => rfl
  | cons x xs ih => simp [bytesLT, ih]

/-- Go's string order is strict: no string is below itself. -/
theorem goStringLT_irrefl (a : String) : goStringLT a a = false := bytesLT_irrefl _

/-- The order is on bytes, not on version numbers. -/
example : goStringLT "10" "9" = true := by decide

theorem ne_of_goStringLT {a b : String} (h : goStringLT a b = true) : a ≠ b := by
  rintro rfl
  simp [goStringLT_irrefl] at h

/-! ### Printers by name -/

/-- `printerSliceToMapByName`: every name of `s` to a printer of that name; a later printer
overwrites an earlier one. -/
def printerSliceToMapByName (s : List (Printer σ δ)) : GoMap (Printer σ δ) :=
  s.foldl (fun m p => m.insert p.name p) GoMap.empty

/-- The last printer of `s` named `n`. -/
def lastNamed (s : List (Printer σ δ)) (n : String) : Option (Printer σ δ) :=
  (s.filter (·.name = n)).getLast?

theorem foldl_insert_apply (s : List (Printer σ δ)) (m : GoMap (Printer σ δ)) (n : String) :
    s.foldl (fun m p => m.insert p.name p) m n = (lastNamed s n).or (m n) := by
  induction s generalizing m with
  | nil => rfl
  | cons p s ih =>
    rw [List.foldl_cons, ih]
    by_cases hp : p.name = n
    · have : lastNamed (p :: s) n = some ((lastNamed s n).getD p) := by
        simp only [lastNamed, List.filter_cons, hp, decide_True, if_true, List.getLast?_cons]
      rw [this]
      cases lastNamed s n <;> simp [hp]
    · simp only [lastNamed, List.filter_cons, hp, decide_False, GoMap.insert_apply, Ne.symm hp]
      rfl

/-- The map built by `printerSliceToMapByName` sends each name to the last printer of that
name. -/
theorem printerSliceToMapByName_apply (s : List (Printer σ δ)) (n : String) :
    printerSliceToMapByName s n = lastNamed s n := by
  simp [printerSliceToMapByName, foldl_insert_apply]

theorem lastNamed_name {s : List (Printer σ δ)} {n : String} {c : Printer σ δ}
    (h : lastNamed s n = some c) : c.name = n ∧ c ∈ s := by
  have hc := List.mem_of_getLast?_eq_some h
  simp only [List.mem_filter, decide_eq_true_eq] at hc
  exact ⟨hc.2, hc.1⟩

theorem lastNamed_eq_none {s : List (Printer σ δ)} {n : String} :
    lastNamed s n = none ↔ n ∉ s.map (·.name) := by
  simp [lastNamed, List.filter_eq_nil_iff]

/-- With pairwise distinct names, the last printer named `c.name` is `c` itself. -/
theorem lastNamed_of_nodup {s : List (Printer σ δ)} (hs : (s.map (·.name)).Nodup)
    {c : Printer σ δ} (hc : c ∈ s) : lastNamed s c.name = some c := by
  induction s with
  | nil => simp at hc
  | cons p s ih =>
    simp only [List.map_cons, List.nodup_cons, List.mem_map] at hs
    rcases List.mem_cons.1 hc with rfl | hc
    · have : s.filter (·.name = c.name) = [] :=
        List.filter_eq_nil_iff.2 fun q hq h => hs.1 ⟨q, hq, by simpa using h⟩
      simp [lastNamed, this]
    · have hne : p.name ≠ c.name := fun h => hs.1 ⟨c, hc, h.symm⟩
      simpa [lastNamed, List.filter_cons, hne] using ih hs.2 hc

/-- With pairwise distinct names, the last printer of a name does not depend on the order. -/
theorem lastNamed_perm {s s' : List (Printer σ δ)} (hs : (s.map (·.name)).Nodup) (hp : s'.Perm s)
    (n : String) : lastNamed s' n = lastNamed s n := by
  cases h : lastNamed s n with
  | none => exact lastNamed_eq_none.2 fun hm => lastNamed_eq_none.1 h ((hp.map _).mem_iff.1 hm)
  | some c =>
    obtain ⟨rfl, hc⟩ := lastNamed_name h
    exact lastNamed_of_nodup ((hp.map _).nodup_iff.2 hs) (hp.mem_iff.2 hc)

/-! ### Raw printers -/

/-- `PrinterIsRaw`: a raw queue carries CUPS' sentinel make-and-model.  A missing tag reads as
Go's zero value `""`. -/
def printerIsRaw (printer : Printer σ δ) : Bool :=
  (printer.tags.lookup "printer-make-and-model").getD "" == "Local Raw Printer"

/-- `FilterRawPrinters`: one pass that appends each printer to the raw or the non-raw slice. -/
def filterRawPrinters (printers : List (Printer σ δ)) : List (Printer σ δ) × List (Printer σ δ) :=
  printers.foldl
    (fun acc p => if printerIsRaw p then (acc.1, acc.2 ++ [p]) else (acc.1 ++ [p], acc.2))
    ([], [])

theorem foldl_filterRaw (printers : List (Printer σ δ)) (notRaw raw : List (Printer σ δ)) :
    printers.foldl
        (fun acc p => if printerIsRaw p then (acc.1, acc.2 ++ [p]) else (acc.1 ++ [p], acc.2))
        (notRaw, raw) =
      (notRaw ++ printers.filter (fun p => !printerIsRaw p), raw ++ printers.filter printerIsRaw) := by
  induction printers generalizing notRaw raw with
  | nil => simp
  | cons p ps ih => by_cases h : printerIsRaw p <;> simp [h, ih, List.filter_cons]

/-- `FilterRawPrinters` splits its input, in order, into the printers that are not raw and the
printers that are. -/
theorem filterRawPrinters_eq (printers : List (Printer σ δ)) :
    filterRawPrinters printers =
      (printers.filter (fun p => !printerIsRaw p), printers.filter printerIsRaw) := by
  simpa using foldl_filterRaw printers [] []

end CupsConnector
