import CupsConnector.Lib.Printer

/-!
# One printer's diff (`diffPrinter`)

`diffPrinter pc pg` compares the CUPS printer `pc` (the one that is correct) with the GCP
printer `pg` (the one that will be updated), field by field:

* `fieldDiff`: the `UpdatePrinter` of `pc` that the source builds in lines 153-199, each flag
  set when its field differs;
* `diffPrinterResult`: that diff when a flag is set (lines 201-206), otherwise a
  `NoChangeToPrinter` of `pg` (lines 208-211);
* `diffPrinter`: the same, behind the downgrade panic of line 169, which is `throw`.  The source
  sets the first three flags before it can panic; they are lost with the panic, so the panic is
  tested first here.

The flags are characterized by the field (in)equalities they test (`fieldDiff_anyChanged`,
`diffPrinterResult_flagsReport`), and the panic by Go's bytewise string order
(`diffPrinter_eq`).
-/

namespace CupsConnector

variable {σ δ : Type}

/-- Lines 195-199: the tags are compared through their `tagshash` tag, and a tag missing on
either side counts as a change. -/
def tagsHashChanged (pg pc : Printer σ δ) : Bool :=
  match pg.tags.lookup "tagshash", pc.tags.lookup "tagshash" with
  | some gcpTagshash, some cupsTagshash => decide (gcpTagshash ≠ cupsTagshash)
  | _, _ => true

/-- Lines 201-204: some flag of `d` is set. -/
def PrinterDiff.anyChanged (d : PrinterDiff σ δ) : Bool :=
  d.defaultDisplayNameChanged || d.manufacturerChanged || d.modelChanged ||
    d.gcpVersionChanged || d.setupURLChanged || d.supportURLChanged ||
    d.updateURLChanged || d.connectorVersionChanged || d.stateChanged ||
    d.descriptionChanged || d.capsHashChanged || d.tagsChanged

/-- Both printers carry a `tagshash` tag, and the same one. -/
def TagshashMatch (p q : Printer σ δ) : Prop :=
  ∃ h, p.tags.lookup "tagshash" = some h ∧ q.tags.lookup "tagshash" = some h

theorem tagsHashChanged_eq_false {pg pc : Printer σ δ} :
    tagsHashChanged pg pc = false ↔ TagshashMatch pc pg := by
  unfold tagsHashChanged TagshashMatch
  split
  · simp_all
  · next h => simpa using fun x hc hg => h x x hg hc

/-- A diff that reports no change has all its flags clear. -/
theorem flagsClear_of_anyChanged {d : PrinterDiff σ δ} (h : d.anyChanged = false) :
    d.FlagsClear := by
  simpa [PrinterDiff.anyChanged, PrinterDiff.FlagsClear, and_assoc] using h

section Compare

variable [DecidableEq σ] [DecidableEq δ]

/-- Lines 153-199: an `UpdatePrinter` of `pc` with every flag set whose field of `pg` differs.
`reflect.DeepEqual` on the section pointers is `=`. -/
def fieldDiff (pc pg : Printer σ δ) : PrinterDiff σ δ where
  operation := .updatePrinter
  printer := pc
  defaultDisplayNameChanged := decide (pg.defaultDisplayName ≠ pc.defaultDisplayName)
  manufacturerChanged := decide (pg.manufacturer ≠ pc.manufacturer)
  modelChanged := decide (pg.model ≠ pc.model)
  gcpVersionChanged := decide (pg.gcpVersion ≠ pc.gcpVersion)
  setupURLChanged := decide (pg.setupURL ≠ pc.setupURL)
  supportURLChanged := decide (pg.supportURL ≠ pc.supportURL)
  updateURLChanged := decide (pg.updateURL ≠ pc.updateURL)
  connectorVersionChanged := decide (pg.connectorVersion ≠ pc.connectorVersion)
  stateChanged := decide (pg.state ≠ pc.state)
  descriptionChanged := decide (pg.description ≠ pc.description)
  capsHashChanged := decide (pg.capsHash ≠ pc.capsHash)
  tagsChanged := tagsHashChanged pg pc

/-- What `diffPrinter` returns when it does not panic (lines 201-211). -/
def diffPrinterResult (pc pg : Printer σ δ) : PrinterDiff σ δ :=
  let d := fieldDiff pc pg
  if d.anyChanged then d else { operation := .noChangeToPrinter, printer := pg }

/-- The message of the panic at line 169. -/
def downgradePanic : String := "GCP version cannot be downgraded; delete GCP printers"

/-- `diffPrinter` (lines 152-212).  `goStringLT pc.gcpVersion pg.gcpVersion` is the source's
`pg.GCPVersion > pc.GCPVersion`. -/
def diffPrinter (pc pg : Printer σ δ) : Except String (PrinterDiff σ δ) :=
  if pg.gcpVersion ≠ pc.gcpVersion ∧ goStringLT pc.gcpVersion pg.gcpVersion = true then
    throw downgradePanic
  else
    pure (diffPrinterResult pc pg)

/-! ### What the comparison means -/

/-- The eleven fields other than the tags that `diffPrinter` compares are equal. -/
def FieldsAgree (p q : Printer σ δ) : Prop :=
  p.defaultDisplayName = q.defaultDisplayName ∧ p.manufacturer = q.manufacturer ∧
    p.model = q.model ∧ p.gcpVersion = q.gcpVersion ∧ p.setupURL = q.setupURL ∧
    p.supportURL = q.supportURL ∧ p.updateURL = q.updateURL ∧
    p.connectorVersion = q.connectorVersion ∧ p.state = q.state ∧
    p.description = q.description ∧ p.capsHash = q.capsHash

omit [DecidableEq σ] [DecidableEq δ] in
theorem FieldsAgree.refl (p : Printer σ δ) : FieldsAgree p p :=
  ⟨rfl, rfl, rfl, rfl, rfl, rfl, rfl, rfl, rfl, rfl, rfl⟩

/-- Each flag of `d` is set exactly when its own field differs between `c` and `g`. -/
def FlagsReport (d : PrinterDiff σ δ) (c g : Printer σ δ) : Prop :=
  (d.defaultDisplayNameChanged = true ↔ c.defaultDisplayName ≠ g.defaultDisplayName) ∧
  (d.manufacturerChanged = true ↔ c.manufacturer ≠ g.manufacturer) ∧
  (d.modelChanged = true ↔ c.model ≠ g.model) ∧
  (d.gcpVersionChanged = true ↔ c.gcpVersion ≠ g.gcpVersion) ∧
  (d.setupURLChanged = true ↔ c.setupURL ≠ g.setupURL) ∧
  (d.supportURLChanged = true ↔ c.supportURL ≠ g.supportURL) ∧
  (d.updateURLChanged = true ↔ c.updateURL ≠ g.updateURL) ∧
  (d.connectorVersionChanged = true ↔ c.connectorVersion ≠ g.connectorVersion) ∧
  (d.stateChanged = true ↔ c.state ≠ g.state) ∧
  (d.descriptionChanged = true ↔ c.description ≠ g.description) ∧
  (d.capsHashChanged = true ↔ c.capsHash ≠ g.capsHash) ∧
  (d.tagsChanged = true ↔ ¬ TagshashMatch c g)

theorem fieldDiff_flagsReport (pc pg : Printer σ δ) : FlagsReport (fieldDiff pc pg) pc pg := by
  have ht : tagsHashChanged pg pc = true ↔ ¬ TagshashMatch pc pg := by
    rw [← tagsHashChanged_eq_false]; simp
  simp [FlagsReport, fieldDiff, ht, ne_comm]

/-- No flag is set exactly when the compared fields agree and the tag hashes match. -/
theorem fieldDiff_anyChanged (pc pg : Printer σ δ) :
    (fieldDiff pc pg).anyChanged = false ↔ FieldsAgree pc pg ∧ TagshashMatch pc pg := by
  simp only [PrinterDiff.anyChanged, fieldDiff, Bool.or_eq_false_iff, decide_eq_false_iff_not,
    not_not, tagsHashChanged_eq_false, FieldsAgree, eq_comm (a := pg.defaultDisplayName),
    eq_comm (a := pg.manufacturer), eq_comm (a := pg.model), eq_comm (a := pg.gcpVersion),
    eq_comm (a := pg.setupURL), eq_comm (a := pg.supportURL), eq_comm (a := pg.updateURL),
    eq_comm (a := pg.connectorVersion), eq_comm (a := pg.state),
    eq_comm (a := pg.description), eq_comm (a := pg.capsHash), and_assoc]

/-- `diffPrinterResult` is `fieldDiff` with the operation and the payload chosen by
`anyChanged`: its flags are always those of `fieldDiff`. -/
theorem diffPrinterResult_eq (pc pg : Printer σ δ) :
    diffPrinterResult pc pg =
      { fieldDiff pc pg with
        operation := if (fieldDiff pc pg).anyChanged then .updatePrinter else .noChangeToPrinter
        printer := if (fieldDiff pc pg).anyChanged then pc else pg } := by
  cases h : (fieldDiff pc pg).anyChanged
  · simpa [diffPrinterResult, h] using flagsClear_of_anyChanged h
  · simp only [diffPrinterResult, h]; rfl

theorem diffPrinterResult_flagsReport (pc pg : Printer σ δ) :
    FlagsReport (diffPrinterResult pc pg) pc pg := by
  rw [diffPrinterResult_eq]; exact fieldDiff_flagsReport pc pg

/-- `diffPrinter`'s answer is `UpdatePrinter` of `pc` or `NoChangeToPrinter` of `pg`, and it is
`NoChangeToPrinter` exactly when nothing compared differs. -/
theorem diffPrinterResult_cases (pc pg : Printer σ δ) :
    ((diffPrinterResult pc pg).operation = .updatePrinter ∧
        (diffPrinterResult pc pg).printer = pc ∧ ¬ (FieldsAgree pc pg ∧ TagshashMatch pc pg)) ∨
      ((diffPrinterResult pc pg).operation = .noChangeToPrinter ∧
        (diffPrinterResult pc pg).printer = pg ∧ FieldsAgree pc pg ∧ TagshashMatch pc pg) := by
  rw [diffPrinterResult_eq, ← fieldDiff_anyChanged]
  cases (fieldDiff pc pg).anyChanged <;> simp

/-- A `NoChangeToPrinter` answer has every flag clear. -/
theorem diffPrinterResult_flagsClear {pc pg : Printer σ δ}
    (h : (diffPrinterResult pc pg).operation ≠ .updatePrinter) :
    (diffPrinterResult pc pg).FlagsClear := by
  rw [diffPrinterResult_eq] at *
  exact flagsClear_of_anyChanged (by simpa using h)

/-- `diffPrinter` panics exactly on a downgrade: `pg`'s version above `pc`'s in Go's order. -/
theorem diffPrinter_eq (pc pg : Printer σ δ) :
    diffPrinter pc pg =
      if goStringLT pc.gcpVersion pg.gcpVersion then throw downgradePanic
      else pure (diffPrinterResult pc pg) := by
  unfold diffPrinter
  by_cases h : goStringLT pc.gcpVersion pg.gcpVersion = true
  · simp [h, Ne.symm (ne_of_goStringLT h)]
  · simp [h]

/-- Printers that agree on every compared field and carry the same tag hash need no change. -/
theorem diffPrinter_of_agree {pc pg : Printer σ δ} (hf : FieldsAgree pc pg)
    (ht : TagshashMatch pc pg) :
    diffPrinter pc pg = .ok { operation := .noChangeToPrinter, printer := pg } := by
  rw [diffPrinter_eq, hf.2.2.2.1, goStringLT_irrefl]
  simp [diffPrinterResult, (fieldDiff_anyChanged pc pg).2 ⟨hf, ht⟩]
  rfl

theorem diffPrinter_eq_ok {pc pg : Printer σ δ} {d : PrinterDiff σ δ} :
    diffPrinter pc pg = .ok d ↔
      goStringLT pc.gcpVersion pg.gcpVersion = false ∧ d = diffPrinterResult pc pg := by
  rw [diffPrinter_eq]
  cases goStringLT pc.gcpVersion pg.gcpVersion
  · exact ⟨fun h => ⟨rfl, (Except.ok.inj h).symm⟩, fun h => h.2 ▸ rfl⟩
  · exact ⟨(fun h => nomatch h), fun h => nomatch h.1⟩

end Compare

end CupsConnector
