import Mathlib.Logic.Basic
import Mathlib.Order.Basic

/-!
# PPD cache entries (`cups/ppdcache.go`)

One `ppdCacheEntry` and what its methods do, against a model of the print system that
`cc.getPPD` talks to.

* `PPDCacheEntry δ`: the fields that the entry's methods read and write. `δ` is
  `cdd.PrinterDescriptionSection`, whose zero value is `default`. The C printer name and the
  temporary file are the entry's resources, released together by `free`, which the cache
  records in its event log (`CupsConnector.Cups.PPDCache`).
* `PrintSystem`: the stamp of each printer's current PPD, never zero. The document is
  `ppd n stamp`, a function of the stamp, so distinct documents of one printer carry distinct
  stamps.
* `getPPD`: `cc.getPPD` (`cupsGetPPD3`), which may fail at any call, answers "not modified"
  only to the current stamp, and otherwise sends the current document and its stamp.
  `RefreshEnv` holds the choices of the environment during one `refresh`, including the
  errors of `os.Open`, `os.OpenFile` and `io.Copy`.
* `createPPDCacheEntry`, `refresh`, `getFields`; `refresh_upToDate` says what a successful
  `refresh` leaves in the entry.
-/

namespace CupsConnector

/-- `ppdCacheEntry`, without the mutex, which makes each method one step, and without the
file name, which is the entry's own temporary file. -/
structure PPDCacheEntry (δ : Type) where
  printername : String
  modtime : Nat
  description : δ
  manufacturer : String
  model : String
  deriving Repr

/-- The print system as `cc.getPPD` sees it: the stamp of each printer's current PPD. -/
structure PrintSystem where
  stamp : String → Nat
  stamp_ne_zero : ∀ n, stamp n ≠ 0

/-- What `cc.getPPD` does on one call. -/
inductive GetPPDReply
  /-- An error, leaving `modtime` at any value. -/
  | error (err : String) (modtime : Nat)
  /-- A cache hit (HTTP 304), which CUPS gives only to the current stamp. -/
  | notModified
  /-- The current document, in a temporary file. -/
  | fetched
  deriving DecidableEq, Repr

/-- The environment's choices during one `refresh`. -/
structure RefreshEnv where
  getPPD : GetPPDReply
  openErr : Option String
  openFileErr : Option String
  copyErr : Option String
  deriving DecidableEq, Repr

variable {δ : Type} (ppd : String → Nat → String) (translatePPD : String → Option δ × String × String)

/-! ### The entry's methods -/

/-- `cc.getPPD(printername, &modtime)`: the error, or `none` for a cache hit and else the
text of the fetched document, and the new `modtime`. Asked with a stamp that is not current,
CUPS sends the document. -/
def getPPD (ps : PrintSystem) (printername : String) (modtime : Nat) :
    GetPPDReply → Except String (Option String) × Nat
  | .error err m => (.error err, m)
  | .notModified =>
    if modtime = ps.stamp printername then (.ok none, modtime)
    else (.ok (some (ppd printername (ps.stamp printername))), ps.stamp printername)
  | .fetched => (.ok (some (ppd printername (ps.stamp printername))), ps.stamp printername)

/-- `createPPDCacheEntry`: an entry for `name` with a zero `modtime` and Go's zero values
elsewhere, or the error of `ioutil.TempFile`. -/
def createPPDCacheEntry [Inhabited δ] (tempFileErr : Option String) (name : String) :
    Except String (PPDCacheEntry δ) :=
  match tempFileErr with
  | some err => .error ("Failed to create PPD cache entry file: " ++ err)
  | none => .ok ⟨name, 0, default, "", ""⟩

/-- The cache miss of `refresh` (lines 175-211): copy the fetched document to the entry's file
and translate it. The entry's fields change only when every step succeeds. -/
def refreshMiss (env : RefreshEnv) (content : String) (pce : PPDCacheEntry δ) :
    Option String × PPDCacheEntry δ :=
  match env.openErr, env.openFileErr, env.copyErr with
  | some err, _, _ => (some err, pce)
  | none, some err, _ => (some ("Failed to open already-created PPD cache file: " ++ err), pce)
  | none, none, some err => (some err, pce)
  | none, none, none =>
    match translatePPD content with
    | (some description, manufacturer, model) =>
      if manufacturer = "" ∨ model = "" then (some "Failed to parse PPD", pce)
      else (none, { pce with description, manufacturer, model })
    | (none, _, _) => (some "Failed to parse PPD", pce)

/-- `ppdCacheEntry.refresh`: its error, if any, and the entry after it. `cc.getPPD` writes
`modtime` before any later step can fail. -/
def refresh (ps : PrintSystem) (env : RefreshEnv) (pce : PPDCacheEntry δ) :
    Option String × PPDCacheEntry δ :=
  let (reply, modtime) := getPPD ppd ps pce.printername pce.modtime env.getPPD
  let pce := { pce with modtime }
  match reply with
  | .error err => (some err, pce)
  | .ok none => (none, pce)
  | .ok (some content) => refreshMiss translatePPD env content pce

/-- `ppdCacheEntry.getFields`. -/
def getFields (pce : PPDCacheEntry δ) : δ × String × String :=
  (pce.description, pce.manufacturer, pce.model)

/-! ### What a successful refresh leaves -/

/-- An entry that holds the translation of its printer's document with the entry's stamp, a
translation that passed `refresh`'s check. -/
structure PPDCacheEntry.UpToDate (pce : PPDCacheEntry δ) : Prop where
  modtime_ne_zero : pce.modtime ≠ 0
  translated :
    translatePPD (ppd pce.printername pce.modtime) =
      (some pce.description, pce.manufacturer, pce.model)
  manufacturer_ne : pce.manufacturer ≠ ""
  model_ne : pce.model ≠ ""

theorem refreshMiss_printername (env : RefreshEnv) (content : String) (pce : PPDCacheEntry δ) :
    (refreshMiss translatePPD env content pce).2.printername = pce.printername ∧
      (refreshMiss translatePPD env content pce).2.modtime = pce.modtime := by
  unfold refreshMiss
  split
  · exact ⟨rfl, rfl⟩
  · exact ⟨rfl, rfl⟩
  · exact ⟨rfl, rfl⟩
  · split
    · split <;> exact ⟨rfl, rfl⟩
    · exact ⟨rfl, rfl⟩

/-- A cache miss succeeds only with a translation that passes the check, and stores it. -/
theorem refreshMiss_ok {env : RefreshEnv} {content : String} {pce : PPDCacheEntry δ}
    (h : (refreshMiss translatePPD env content pce).1 = none) :
    let pce' := (refreshMiss translatePPD env content pce).2
    translatePPD content = (some pce'.description, pce'.manufacturer, pce'.model) ∧
      pce'.manufacturer ≠ "" ∧ pce'.model ≠ "" := by
  unfold refreshMiss at h ⊢
  split at h
  · cases h
  · cases h
  · cases h
  · split at h
    · rename_i description manufacturer model ht
      split at h
      · cases h
      · rename_i hne
        simp only [ht, if_neg hne, true_and]
        exact ⟨fun h => hne (.inl h), fun h => hne (.inr h)⟩
    · cases h

theorem refresh_printername (ps : PrintSystem) (env : RefreshEnv) (pce : PPDCacheEntry δ) :
    (refresh ppd translatePPD ps env pce).2.printername = pce.printername := by
  unfold refresh
  generalize getPPD ppd ps pce.printername pce.modtime env.getPPD = r
  rcases r with ⟨(err | (_ | content)), m⟩
  · rfl
  · rfl
  · exact (refreshMiss_printername translatePPD env _ _).1

/-- **`refresh`.** Started on a new entry (stamp zero) or an up-to-date one, a `refresh` that
returns no error leaves the entry up to date with the stamp of the printer's current
document. -/
theorem refresh_upToDate {ps : PrintSystem} {env : RefreshEnv} {pce : PPDCacheEntry δ}
    (hpre : pce.modtime = 0 ∨ pce.UpToDate ppd translatePPD)
    (h : (refresh ppd translatePPD ps env pce).1 = none) :
    (refresh ppd translatePPD ps env pce).2.UpToDate ppd translatePPD ∧
      (refresh ppd translatePPD ps env pce).2.modtime = ps.stamp pce.printername := by
  have hstamp := ps.stamp_ne_zero pce.printername
  -- the cache miss, reached by `fetched` or by a `notModified` that CUPS answers with the file
  have miss : ∀ content, content = ppd pce.printername (ps.stamp pce.printername) →
      (refreshMiss translatePPD env content
        { pce with modtime := ps.stamp pce.printername }).1 = none →
      let pce' := (refreshMiss translatePPD env content
        { pce with modtime := ps.stamp pce.printername }).2
      pce'.UpToDate ppd translatePPD ∧ pce'.modtime = ps.stamp pce.printername := by
    rintro content rfl hm
    obtain ⟨hn, hmod⟩ := refreshMiss_printername translatePPD env _
      { pce with modtime := ps.stamp pce.printername }
    obtain ⟨ht, hman, hmod'⟩ := refreshMiss_ok translatePPD hm
    refine ⟨⟨by rw [hmod]; exact hstamp, by rw [hn, hmod]; exact ht, hman, hmod'⟩, hmod⟩
  unfold refresh at h ⊢
  cases hr : env.getPPD with
  | error err m => simp [getPPD, hr] at h
  | fetched => simpa [getPPD, hr] using miss _ rfl (by simpa [getPPD, hr] using h)
  | notModified =>
    by_cases hm : pce.modtime = ps.stamp pce.printername
    · have hup : pce.UpToDate ppd translatePPD := hpre.resolve_left (hm ▸ hstamp)
      simp only [getPPD, hr, if_pos hm]
      exact ⟨hup, hm⟩
    · simpa [getPPD, hr, hm] using miss _ rfl (by simpa [getPPD, hr, hm] using h)

/-- Asked with the current stamp, a "not modified" answer leaves the entry as it is. -/
theorem refresh_notModified {ps : PrintSystem} {env : RefreshEnv} {pce : PPDCacheEntry δ}
    (henv : env.getPPD = .notModified) (hm : pce.modtime = ps.stamp pce.printername) :
    refresh ppd translatePPD ps env pce = (none, pce) := by
  unfold refresh
  simp only [getPPD, henv, if_pos hm]

end CupsConnector
