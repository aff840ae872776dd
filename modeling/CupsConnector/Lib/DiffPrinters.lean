import CupsConnector.Lib.DiffPrinter

/-!
# Reconciling two printer lists (`DiffPrinters`)

`diffPrinters cupsPrinters gcpPrinters` runs the source's two loops: one over the GCP printers,
which deletes repeated and stale GCP printers and diffs the others against the CUPS printer of
the same name, and one over the CUPS printers, which registers those whose name the first loop
never considered.  A panic is an `Except.error`; the nil slice is `none`.

* `DiffState`, `gcpStep` (lines 105-130), `cupsStep` (lines 134-137), `diffPrinters`;
* `markSeen`: each GCP printer with whether an earlier GCP printer has its name, which is what
  `printersConsidered` answers inside the first loop (`foldlM_gcpStep`);
* `diffPrinters_eq`, the closed form every later result is read from: the run panics iff some
  first GCP printer of a name panics in `diffPrinter`, and otherwise it returns the accumulated
  diffs iff one of them is not `NoChangeToPrinter`.
-/

namespace CupsConnector

variable {σ δ : Type}

/-- The variables of `DiffPrinters` that its loops update. -/
structure DiffState (σ δ : Type) where
  dirty : Bool
  diffs : List (PrinterDiff σ δ)
  printersConsidered : GoMap Unit

/-- Lines 114-117: the CUPS printer with the GCP printer's id and job semaphore. -/
def Printer.withGCPFields (cupsPrinter gcpPrinter : Printer σ δ) : Printer σ δ :=
  { cupsPrinter with
    gcpID := gcpPrinter.gcpID
    cupsJobSemaphore := gcpPrinter.cupsJobSemaphore }

@[simp] theorem Printer.withGCPFields_name (c g : Printer σ δ) :
    (c.withGCPFields g).name = c.name := rfl

@[simp] theorem Printer.withGCPFields_gcpVersion (c g : Printer σ δ) :
    (c.withGCPFields g).gcpVersion = c.gcpVersion := rfl

/-- `PrinterDiff{Operation: DeletePrinter, Printer: p}`. -/
def deleteDiff (p : Printer σ δ) : PrinterDiff σ δ := { operation := .deletePrinter, printer := p }

/-- `PrinterDiff{Operation: RegisterPrinter, Printer: p}`. -/
def registerDiff (p : Printer σ δ) : PrinterDiff σ δ :=
  { operation := .registerPrinter, printer := p }

/-- The test of line 122: the diff asks for a change. -/
def PrinterDiff.isChange (d : PrinterDiff σ δ) : Bool := decide (d.operation ≠ .noChangeToPrinter)

@[simp] theorem deleteDiff_isChange (p : Printer σ δ) : (deleteDiff p).isChange = true := rfl

@[simp] theorem registerDiff_isChange (p : Printer σ δ) : (registerDiff p).isChange = true := rfl

/-- One pass of the CUPS loop (lines 134-137). -/
def cupsStep (st : DiffState σ δ) (cupsPrinter : Printer σ δ) : DiffState σ δ :=
  if (st.printersConsidered cupsPrinter.name).isSome then st
  else { st with diffs := st.diffs ++ [registerDiff cupsPrinter], dirty := true }

/-- Each printer of `gs` with whether its name is in `seen` or belongs to an earlier printer
of `gs`. -/
def markSeen (seen : List String) : List (Printer σ δ) → List (Printer σ δ × Bool)
  | [] => []
  | g :: gs => (g, decide (g.name ∈ seen)) :: markSeen (g.name :: seen) gs

@[simp] theorem markSeen_map_fst (seen : List String) (gs : List (Printer σ δ)) :
    (markSeen seen gs).map Prod.fst = gs := by
  induction gs generalizing seen with
  | nil => rfl
  | cons g gs ih => simp [markSeen, ih]

@[simp] theorem length_markSeen (seen : List String) (gs : List (Printer σ δ)) :
    (markSeen seen gs).length = gs.length := by
  rw [← List.length_map _ Prod.fst, markSeen_map_fst]

theorem GoMap.insert_unit_of_isSome {m : GoMap Unit} {k : String} (h : (m k).isSome) :
    m.insert k () = m := by
  funext k'
  by_cases hk : k' = k
  · subst hk; cases hm : m k' <;> simp_all
  · simp [hk]

theorem foldl_insert_isSome (gs : List (Printer σ δ)) (m : GoMap Unit) (n : String) :
    (gs.foldl (fun m g => m.insert g.name ()) m n).isSome =
      (decide (n ∈ gs.map (·.name)) || (m n).isSome) := by
  induction gs generalizing m with
  | nil => simp
  | cons g gs ih =>
    rw [List.foldl_cons, ih]
    by_cases h : n = g.name <;> simp [h]

theorem foldl_cupsStep (cs : List (Printer σ δ)) (st : DiffState σ δ) :
    cs.foldl cupsStep st =
      let regs := (cs.filter (fun c => !(st.printersConsidered c.name).isSome)).map registerDiff
      { st with dirty := st.dirty || !regs.isEmpty, diffs := st.diffs ++ regs } := by
  induction cs generalizing st with
  | nil => simp
  | cons c cs ih =>
    rw [List.foldl_cons, ih]
    cases h : st.printersConsidered c.name <;> simp [cupsStep, h, List.filter_cons]

/-- Whether the GCP loop panics at `g`, given whether its name was considered before. -/
def gcpPanics (byName : GoMap (Printer σ δ)) (g : Printer σ δ) (considered : Bool) : Bool :=
  if considered then false
  else match byName g.name with
    | some c => goStringLT c.gcpVersion g.gcpVersion
    | none => false

section PanicEquations

variable (byName : GoMap (Printer σ δ)) (g : Printer σ δ) {c : Printer σ δ}

@[simp] theorem gcpPanics_true : gcpPanics byName g true = false := rfl

theorem gcpPanics_of_none (h : byName g.name = none) : gcpPanics byName g false = false := by
  simp only [gcpPanics, h, Bool.false_eq_true, if_false]

theorem gcpPanics_of_some (h : byName g.name = some c) :
    gcpPanics byName g false = goStringLT c.gcpVersion g.gcpVersion := by
  simp only [gcpPanics, h, Bool.false_eq_true, if_false]

end PanicEquations

section Loops

variable [DecidableEq σ] [DecidableEq δ]

/-- One pass of the GCP loop (lines 105-130). -/
def gcpStep (cupsPrintersByName : GoMap (Printer σ δ)) (st : DiffState σ δ)
    (gcpPrinter : Printer σ δ) : Except String (DiffState σ δ) :=
  if (st.printersConsidered gcpPrinter.name).isSome then
    pure { st with diffs := st.diffs ++ [deleteDiff gcpPrinter], dirty := true }
  else
    let printersConsidered := st.printersConsidered.insert gcpPrinter.name ()
    match cupsPrintersByName gcpPrinter.name with
    | some cupsPrinter => do
      let diff ← diffPrinter (cupsPrinter.withGCPFields gcpPrinter) gcpPrinter
      pure { dirty := st.dirty || diff.isChange, diffs := st.diffs ++ [diff], printersConsidered }
    | none =>
      pure { dirty := true, diffs := st.diffs ++ [deleteDiff gcpPrinter], printersConsidered }

/-- `DiffPrinters` (lines 96-145). -/
def diffPrinters (cupsPrinters gcpPrinters : List (Printer σ δ)) :
    Except String (Option (List (PrinterDiff σ δ))) := do
  let cupsPrintersByName := printerSliceToMapByName cupsPrinters
  let st ← gcpPrinters.foldlM (gcpStep cupsPrintersByName) ⟨false, [], GoMap.empty⟩
  let st := cupsPrinters.foldl cupsStep st
  pure (if st.dirty then some st.diffs else none)

/-! ### The GCP loop, one printer at a time -/

/-- What the GCP loop appends for `g`, given whether its name was considered before. -/
def gcpDiff (byName : GoMap (Printer σ δ)) (g : Printer σ δ) (considered : Bool) :
    PrinterDiff σ δ :=
  if considered then deleteDiff g
  else match byName g.name with
    | some c => diffPrinterResult (c.withGCPFields g) g
    | none => deleteDiff g

section Equations

variable (byName : GoMap (Printer σ δ)) (g : Printer σ δ) {c : Printer σ δ}

@[simp] theorem gcpDiff_true : gcpDiff byName g true = deleteDiff g := rfl

theorem gcpDiff_of_none (h : byName g.name = none) : gcpDiff byName g false = deleteDiff g := by
  simp only [gcpDiff, h, Bool.false_eq_true, if_false]

theorem gcpDiff_of_some (h : byName g.name = some c) :
    gcpDiff byName g false = diffPrinterResult (c.withGCPFields g) g := by
  simp only [gcpDiff, h, Bool.false_eq_true, if_false]

end Equations

/-- **One pass of the GCP loop**: it panics or appends `gcpDiff`, and marks the name. -/
theorem gcpStep_eq (byName : GoMap (Printer σ δ)) (st : DiffState σ δ) (g : Printer σ δ) :
    gcpStep byName st g =
      let b := (st.printersConsidered g.name).isSome
      if gcpPanics byName g b then throw downgradePanic
      else pure { dirty := st.dirty || (gcpDiff byName g b).isChange,
                  diffs := st.diffs ++ [gcpDiff byName g b],
                  printersConsidered := st.printersConsidered.insert g.name () } := by
  unfold gcpStep
  cases hb : (st.printersConsidered g.name).isSome
  · simp only [Bool.false_eq_true, if_false]
    cases hc : byName g.name with
    | none => simp [gcpPanics_of_none _ _ hc, gcpDiff_of_none _ _ hc]
    | some c =>
      simp only [gcpPanics_of_some _ _ hc, gcpDiff_of_some _ _ hc, diffPrinter_eq,
        Printer.withGCPFields_gcpVersion]
      by_cases hv : goStringLT c.gcpVersion g.gcpVersion = true <;> simp only [hv] <;> rfl
  · simp only [if_true, gcpPanics_true, gcpDiff_true, GoMap.insert_unit_of_isSome hb]
    simp

/-- **The GCP loop**, from a state whose considered names are `seen`. -/
theorem foldlM_gcpStep (byName : GoMap (Printer σ δ)) (gs : List (Printer σ δ))
    (st : DiffState σ δ) (seen : List String)
    (hseen : ∀ n, (st.printersConsidered n).isSome = decide (n ∈ seen)) :
    gs.foldlM (gcpStep byName) st =
      let ds := (markSeen seen gs).map (fun x => gcpDiff byName x.1 x.2)
      if (markSeen seen gs).any (fun x => gcpPanics byName x.1 x.2) then throw downgradePanic
      else pure { dirty := st.dirty || ds.any (·.isChange), diffs := st.diffs ++ ds,
                  printersConsidered := gs.foldl (fun m g => m.insert g.name ()) st.printersConsidered } := by
  induction gs generalizing st seen with
  | nil => simp [markSeen]
  | cons g gs ih =>
    rw [List.foldlM_cons, gcpStep_eq, hseen]
    by_cases hp : gcpPanics byName g (decide (g.name ∈ seen))
    · simp [hp, markSeen]; rfl
    · have hseen' : ∀ n, ((st.printersConsidered.insert g.name ()) n).isSome =
          decide (n ∈ g.name :: seen) := by
        intro n; by_cases h : n = g.name <;> simp [h, hseen]
      simp only [hp, Bool.false_eq_true, if_false, pure_bind,
        ih ⟨_, _, st.printersConsidered.insert g.name ()⟩ _ hseen', markSeen,
        List.any_cons, List.map_cons, Bool.false_or, List.foldl_cons, Bool.or_assoc,
        List.append_assoc, List.singleton_append]

/-- The diffs `DiffPrinters` accumulates: one per GCP printer, in order, then a registration
for each CUPS printer whose name no GCP printer has. -/
def accumulatedDiffs (cups gcp : List (Printer σ δ)) : List (PrinterDiff σ δ) :=
  (markSeen [] gcp).map (fun x => gcpDiff (printerSliceToMapByName cups) x.1 x.2) ++
    (cups.filter (fun c => c.name ∉ gcp.map (·.name))).map registerDiff

/-- Whether `DiffPrinters` panics: at a GCP printer whose name comes first. -/
def diffPanics (cups gcp : List (Printer σ δ)) : Bool :=
  (markSeen [] gcp).any (fun x => gcpPanics (printerSliceToMapByName cups) x.1 x.2)

/-- **Closed form of `DiffPrinters`.** -/
theorem diffPrinters_eq (cups gcp : List (Printer σ δ)) :
    diffPrinters cups gcp =
      if diffPanics cups gcp then throw downgradePanic
      else pure (if (accumulatedDiffs cups gcp).any (·.isChange)
        then some (accumulatedDiffs cups gcp) else none) := by
  have hloop := foldlM_gcpStep (printerSliceToMapByName cups) gcp ⟨false, [], GoMap.empty⟩ []
    (fun n => by simp)
  have hregs : ∀ l : List (Printer σ δ),
      (l.map registerDiff).any (·.isChange) = !(l.map registerDiff).isEmpty := by
    intro l; cases l <;> simp
  unfold diffPrinters diffPanics
  dsimp only
  rw [hloop]
  by_cases hp : (markSeen [] gcp).any (fun x => gcpPanics (printerSliceToMapByName cups) x.1 x.2)
  · simp [hp]; rfl
  · simp only [hp, Bool.false_eq_true, if_false, pure_bind, foldl_cupsStep, foldl_insert_isSome,
      GoMap.empty_apply, Option.isSome_none, Bool.or_false, Bool.false_or, accumulatedDiffs,
      List.any_append, hregs, List.nil_append, decide_not]

end Loops

end CupsConnector
