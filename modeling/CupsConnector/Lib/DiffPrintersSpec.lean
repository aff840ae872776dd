import CupsConnector.Lib.DiffPrinters
import Mathlib.Data.List.Nodup

/-!
# What `DiffPrinters` computes

Everything here is read off the closed form `diffPrinters_eq`.

* `markSeen_getElem?`, `mem_markSeen_false`: the GCP loop treats the first printer of each name
  as the one to keep, and every later printer of that name as a duplicate;
* `diffPrinters_error_iff`: the run panics exactly at a first GCP printer of a name whose version
  is above that of the last CUPS printer of the name;
* `diffPrinters_eq_none_iff`: the run returns nil exactly when the two lists already agree;
* `diffPrinters_complete`: one surviving diff per CUPS name, the deletions are the GCP printers
  the loop does not keep, and every surviving diff carries the CUPS printer's compared fields;
* `diffPrinters_getElem?_flags`: the diff at a first GCP printer's position reports each
  differing field;
* `diffPrinters_gcpFields`: updated and unchanged printers keep their GCP id and semaphore.
-/

namespace CupsConnector

variable {σ δ : Type}

/-! ### Which GCP printers come first -/

section MarkSeen

/-- `markSeen` flags the printer at position `i` exactly when its name is in `seen` or belongs
to a printer before it. -/
theorem markSeen_getElem? (seen : List String) (gs : List (Printer σ δ)) (i : ℕ) :
    (markSeen seen gs)[i]? =
      gs[i]?.map (fun g => (g, decide (g.name ∈ seen ∨ g.name ∈ (gs.take i).map (·.name)))) := by
  induction gs generalizing seen i with
  | nil => simp [markSeen]
  | cons g gs ih =>
    cases i with
    | zero => simp [markSeen]
    | succ i =>
      simp only [markSeen, List.getElem?_cons_succ, ih, List.take_succ_cons, List.map_cons,
        List.mem_cons]
      congr 1
      funext g'
      simp only [Prod.mk.injEq, true_and, decide_eq_decide]
      tauto

theorem mem_markSeen_false {seen : List String} {gs : List (Printer σ δ)} {g : Printer σ δ} :
    (g, false) ∈ markSeen seen gs ↔ g.name ∉ seen ∧ gs.find? (·.name = g.name) = some g := by
  induction gs generalizing seen with
  | nil => simp [markSeen]
  | cons h gs ih =>
    rw [markSeen, List.mem_cons, ih, List.find?_cons]
    by_cases hn : h.name = g.name
    · simp [hn, and_comm]
      exact fun _ => eq_comm
    · simp [hn, Ne.symm hn]
      rintro rfl
      exact absurd rfl hn

/-- No printer is flagged exactly when the names are pairwise distinct and avoid `seen`. -/
theorem markSeen_all_false {seen : List String} {gs : List (Printer σ δ)} :
    (∀ g, (g, true) ∉ markSeen seen gs) ↔ (gs.map (·.name)).Nodup ∧ ∀ g ∈ gs, g.name ∉ seen := by
  induction gs generalizing seen with
  | nil => simp [markSeen]
  | cons g gs ih =>
    simp [markSeen, ih, not_or, forall_and]
    tauto

theorem mem_markSeen_of_mem (seen : List String) {gs : List (Printer σ δ)} {g : Printer σ δ}
    (hg : g ∈ gs) : ∃ b, (g, b) ∈ markSeen seen gs := by
  rw [← markSeen_map_fst seen gs, List.mem_map] at hg
  obtain ⟨⟨g', b⟩, hx, rfl⟩ := hg
  exact ⟨b, hx⟩

/-- Each name of `gs` outside `seen` has exactly one unflagged printer. -/
theorem countP_markSeen_first (seen : List String) (gs : List (Printer σ δ)) (n : String) :
    (markSeen seen gs).countP (fun x => !x.2 && x.1.name = n) =
      if n ∈ gs.map (·.name) ∧ n ∉ seen then 1 else 0 := by
  induction gs generalizing seen with
  | nil => simp [markSeen]
  | cons g gs ih =>
    simp only [markSeen, List.countP_cons, ih]
    by_cases hn : g.name = n
    · subst hn; by_cases hs : g.name ∈ seen <;> simp [hs]
    · by_cases hs : n ∈ seen <;> simp [hs, hn, Ne.symm hn]

/-- Every name of `gs` has a first printer. -/
theorem exists_first_of_mem {gs : List (Printer σ δ)} {n : String} (hn : n ∈ gs.map (·.name)) :
    ∃ g, (g, false) ∈ markSeen [] gs ∧ g.name = n := by
  have h := countP_markSeen_first [] gs n
  rw [if_pos ⟨hn, List.not_mem_nil _⟩] at h
  obtain ⟨⟨g, b⟩, hx, hp⟩ := List.countP_pos_iff.1 (h ▸ Nat.one_pos)
  simp only [Bool.and_eq_true, Bool.not_eq_true', decide_eq_true_eq] at hp
  exact ⟨g, hp.1 ▸ hx, hp.2⟩

end MarkSeen

/-! ### Sample snapshots -/

/-- A printer with a name, a version and a display name, a `tagshash` tag, and every other field
empty. -/
def samplePrinter (name version displayName : String) : Printer Unit Unit :=
  { gcpID := "", name, defaultDisplayName := displayName, uuid := "", manufacturer := "",
    model := "", gcpVersion := version, setupURL := "", supportURL := "", updateURL := "",
    connectorVersion := "", state := none, description := none, capsHash := "",
    tags := [("tagshash", "0")], cupsJobSemaphore := 0 }

/-- CUPS knows `a` and `b`. -/
def sampleCups : List (Printer Unit Unit) := [samplePrinter "a" "1" "A", samplePrinter "b" "1" "B"]

/-- GCP has an outdated `a`, a duplicate `a`, and a stale `c`. -/
def sampleGCP : List (Printer Unit Unit) :=
  [samplePrinter "a" "1" "old", samplePrinter "a" "1" "A", samplePrinter "c" "1" "C"]

/-- The answer of `DiffPrinters sampleCups sampleGCP`: one diff of each kind but
`NoChangeToPrinter`. -/
def sampleDiffs : List (PrinterDiff Unit Unit) :=
  [diffPrinterResult ((samplePrinter "a" "1" "A").withGCPFields (samplePrinter "a" "1" "old"))
      (samplePrinter "a" "1" "old"),
    deleteDiff (samplePrinter "a" "1" "A"), deleteDiff (samplePrinter "c" "1" "C"),
    registerDiff (samplePrinter "b" "1" "B")]

/-! ### The accumulated diffs -/

section Accumulated

variable [DecidableEq σ] [DecidableEq δ] {cups gcp : List (Printer σ δ)}

omit [DecidableEq σ] [DecidableEq δ] in
theorem gcpPanics_iff {g : Printer σ δ} {b : Bool} :
    gcpPanics (printerSliceToMapByName cups) g b = true ↔
      b = false ∧ ∃ c, lastNamed cups g.name = some c ∧ goStringLT c.gcpVersion g.gcpVersion = true := by
  cases b
  · cases hc : lastNamed cups g.name with
    | none => simp [gcpPanics_of_none _ g ((printerSliceToMapByName_apply cups _).trans hc)]
    | some c => simp [gcpPanics_of_some _ g ((printerSliceToMapByName_apply cups _).trans hc)]
  · simp

/-- **Inversion of the accumulated diffs.**  Each is the deletion of a GCP printer that the loop
does not keep, `diffPrinter`'s answer for a first GCP printer of a name against the last CUPS
printer of that name, or the registration of a CUPS printer whose name no GCP printer has. -/
theorem mem_accumulatedDiffs {d : PrinterDiff σ δ} (hd : d ∈ accumulatedDiffs cups gcp) :
    (∃ g b, (g, b) ∈ markSeen [] gcp ∧ (b = true ∨ lastNamed cups g.name = none) ∧
        d = deleteDiff g) ∨
      (∃ g c, (g, false) ∈ markSeen [] gcp ∧ lastNamed cups g.name = some c ∧
        d = diffPrinterResult (c.withGCPFields g) g) ∨
      (∃ c ∈ cups, c.name ∉ gcp.map (·.name) ∧ d = registerDiff c) := by
  rw [accumulatedDiffs, List.mem_append, List.mem_map, List.mem_map] at hd
  simp only [List.mem_filter, decide_eq_true_eq] at hd
  rcases hd with ⟨⟨g, b⟩, hx, rfl⟩ | ⟨c, ⟨hc, hn⟩, rfl⟩
  · cases b
    · cases hc : lastNamed cups g.name with
      | none =>
        exact .inl ⟨g, false, hx, .inr hc,
          gcpDiff_of_none _ g ((printerSliceToMapByName_apply cups _).trans hc)⟩
      | some c =>
        exact .inr (.inl ⟨g, c, hx, hc,
          gcpDiff_of_some _ g ((printerSliceToMapByName_apply cups _).trans hc)⟩)
    · exact .inl ⟨g, true, hx, .inl rfl, rfl⟩
  · exact .inr (.inr ⟨c, hc, hn, rfl⟩)

/-- The run ends without a panic, returning `r`, exactly when no first GCP printer panics and
`r` is the accumulated list when it holds a change, nil otherwise. -/
theorem diffPrinters_eq_ok {r : Option (List (PrinterDiff σ δ))} :
    diffPrinters cups gcp = .ok r ↔
      diffPanics cups gcp = false ∧
        r = if (accumulatedDiffs cups gcp).any (·.isChange) then
          some (accumulatedDiffs cups gcp) else none := by
  rw [diffPrinters_eq]
  cases diffPanics cups gcp
  · simp only [Bool.false_eq_true, if_false, true_and]
    constructor
    · intro h; exact (Except.ok.inj h).symm
    · rintro rfl; rfl
  · simp only [if_true]
    constructor
    · intro h; nomatch h
    · rintro ⟨h, -⟩; nomatch h

/-- **Panics.**  `DiffPrinters` panics exactly when some GCP printer that comes first among the
GCP printers of its name has a version above that of the last CUPS printer of that name; a
later GCP printer of a name, and a GCP printer whose name no CUPS printer has, never panic. -/
theorem diffPrinters_error_iff (cups gcp : List (Printer σ δ)) :
    (∃ e, diffPrinters cups gcp = .error e) ↔
      ∃ g, gcp.find? (·.name = g.name) = some g ∧
        ∃ c, lastNamed cups g.name = some c ∧ goStringLT c.gcpVersion g.gcpVersion = true := by
  have hp : diffPanics cups gcp = true ↔ ∃ g, gcp.find? (·.name = g.name) = some g ∧
      ∃ c, lastNamed cups g.name = some c ∧ goStringLT c.gcpVersion g.gcpVersion = true := by
    simp only [diffPanics, List.any_eq_true, gcpPanics_iff]
    constructor
    · rintro ⟨⟨g, b⟩, hx, rfl, c, hc, hlt⟩
      exact ⟨g, (mem_markSeen_false.1 hx).2, c, hc, hlt⟩
    · rintro ⟨g, hg, c, hc, hlt⟩
      exact ⟨(g, false), mem_markSeen_false.2 ⟨List.not_mem_nil _, hg⟩, rfl, c, hc, hlt⟩
  rw [← hp, diffPrinters_eq]
  cases diffPanics cups gcp
  · simp only [Bool.false_eq_true, if_false, iff_false, not_exists]
    exact fun e h => nomatch h
  · exact ⟨fun _ => rfl, fun _ => ⟨_, rfl⟩⟩

/-- **Remote-only attributes survive.**  Every `UpdatePrinter` and `NoChangeToPrinter` diff
carries the GCP id and the job semaphore of the first GCP printer of its name. -/
theorem diffPrinters_gcpFields {D : List (PrinterDiff σ δ)}
    (hD : diffPrinters cups gcp = .ok (some D)) :
    ∀ d ∈ D, d.operation = .updatePrinter ∨ d.operation = .noChangeToPrinter →
      ∃ g, gcp.find? (·.name = d.printer.name) = some g ∧ d.printer.gcpID = g.gcpID ∧
        d.printer.cupsJobSemaphore = g.cupsJobSemaphore := by
  obtain ⟨-, hr⟩ := diffPrinters_eq_ok.1 hD
  split at hr
  · cases hr
    intro d hd hop
    rcases mem_accumulatedDiffs hd with ⟨g, b, -, -, rfl⟩ | ⟨g, c, hx, hc, rfl⟩ |
      ⟨c, -, -, rfl⟩
    · simp [deleteDiff] at hop
    · have hg := (mem_markSeen_false.1 hx).2
      rcases diffPrinterResult_cases (c.withGCPFields g) g with ⟨-, hp, -⟩ | ⟨-, hp, -⟩ <;>
        rw [hp]
      · exact ⟨g, by rwa [Printer.withGCPFields_name, (lastNamed_name hc).1], rfl, rfl⟩
      · exact ⟨g, hg, rfl, rfl⟩
    · simp [registerDiff] at hop
  · cases hr

/-- GCP as the connector registered it: `a` twice, the first outdated, and `b` up to date, each
under its own id and with its own job semaphore. -/
def sampleRegisteredGCP : List (Printer Unit Unit) :=
  [{ samplePrinter "a" "1" "old" with gcpID := "gcp-a", cupsJobSemaphore := 7 },
    { samplePrinter "a" "1" "A" with gcpID := "gcp-a2", cupsJobSemaphore := 8 },
    { samplePrinter "b" "1" "B" with gcpID := "gcp-b", cupsJobSemaphore := 9 }]

/-- The update of `a` keeps `gcp-a` and semaphore 7, and the unchanged `b` keeps `gcp-b` and
semaphore 9; the CUPS printers carry neither. -/
theorem diffPrinters_gcpFields_sample :
    ∃ D, diffPrinters sampleCups sampleRegisteredGCP = .ok (some D) ∧
      D.map (fun d => (d.operation, d.printer.gcpID, d.printer.cupsJobSemaphore)) =
        [(.updatePrinter, "gcp-a", 7), (.deletePrinter, "gcp-a2", 8),
          (.noChangeToPrinter, "gcp-b", 9)] ∧
      ∀ d ∈ D, d.operation = .updatePrinter ∨ d.operation = .noChangeToPrinter →
        ∃ g, sampleRegisteredGCP.find? (·.name = d.printer.name) = some g ∧
          d.printer.gcpID = g.gcpID ∧ d.printer.cupsJobSemaphore = g.cupsJobSemaphore :=
  ⟨_, rfl, rfl,
    diffPrinters_gcpFields (show diffPrinters sampleCups sampleRegisteredGCP = _ from rfl)⟩

theorem eq_accumulatedDiffs_of_ok_some {D : List (PrinterDiff σ δ)}
    (hD : diffPrinters cups gcp = .ok (some D)) : D = accumulatedDiffs cups gcp := by
  obtain ⟨-, hr⟩ := diffPrinters_eq_ok.1 hD
  split at hr
  · exact Option.some.inj hr
  · cases hr

theorem gcpDiff_mem_accumulatedDiffs (cups : List (Printer σ δ)) {x : Printer σ δ × Bool} (hx : x ∈ markSeen [] gcp) :
    gcpDiff (printerSliceToMapByName cups) x.1 x.2 ∈ accumulatedDiffs cups gcp :=
  List.mem_append_left _ (List.mem_map_of_mem _ hx)

theorem registerDiff_mem_accumulatedDiffs {c : Printer σ δ} (hc : c ∈ cups)
    (hn : c.name ∉ gcp.map (·.name)) : registerDiff c ∈ accumulatedDiffs cups gcp :=
  List.mem_append_right _ (List.mem_map_of_mem _ (List.mem_filter.2 ⟨hc, by simpa using hn⟩))

/-- A run that answers nil saw no duplicate GCP name, no stale GCP printer, no new CUPS
printer, and no change in any GCP printer. -/
theorem nil_conditions (h : diffPrinters cups gcp = .ok none) :
    (gcp.map (·.name)).Nodup ∧ (∀ n, n ∈ gcp.map (·.name) ↔ n ∈ cups.map (·.name)) ∧
      ∀ g ∈ gcp, ∃ c d, lastNamed cups g.name = some c ∧
        diffPrinter (c.withGCPFields g) g = .ok d ∧ d.operation = .noChangeToPrinter := by
  obtain ⟨hp, hr⟩ := diffPrinters_eq_ok.1 h
  have hall : ∀ d ∈ accumulatedDiffs cups gcp, d.isChange = false := by
    split at hr
    · cases hr
    · exact fun d hd => by simpa using List.any_eq_false.1 (Bool.eq_false_iff.2 ‹_›) d hd
  have hdup : ∀ g, (g, true) ∉ markSeen [] gcp := fun g hx =>
    absurd (hall _ (gcpDiff_mem_accumulatedDiffs cups hx)) (by simp)
  have hfirst : ∀ g, (g, false) ∈ markSeen [] gcp → ∃ c, lastNamed cups g.name = some c := by
    intro g hx
    cases hc : lastNamed cups g.name with
    | some c => exact ⟨c, rfl⟩
    | none =>
      have := hall _ (gcpDiff_mem_accumulatedDiffs cups hx)
      rw [gcpDiff_of_none _ g ((printerSliceToMapByName_apply cups _).trans hc)] at this
      simp at this
  refine ⟨(markSeen_all_false.1 hdup).1, fun n => ⟨fun hn => ?_, fun hn => ?_⟩, fun g hg => ?_⟩
  · obtain ⟨g, hx, rfl⟩ := exists_first_of_mem hn
    obtain ⟨c, hc⟩ := hfirst g hx
    obtain ⟨hcn, hcm⟩ := lastNamed_name hc
    exact List.mem_map.2 ⟨c, hcm, hcn⟩
  · obtain ⟨c, hc, rfl⟩ := List.mem_map.1 hn
    by_contra hgn
    exact absurd (hall _ (registerDiff_mem_accumulatedDiffs hc hgn)) (by simp)
  · obtain ⟨b, hx⟩ := mem_markSeen_of_mem [] hg
    cases b
    · obtain ⟨c, hc⟩ := hfirst g hx
      have hpc : gcpPanics (printerSliceToMapByName cups) g false = false :=
        Bool.eq_false_iff.2 (List.any_eq_false.1 hp _ hx)
      have hd := hall _ (gcpDiff_mem_accumulatedDiffs cups hx)
      rw [gcpPanics_of_some _ g ((printerSliceToMapByName_apply cups _).trans hc)] at hpc
      rw [gcpDiff_of_some _ g ((printerSliceToMapByName_apply cups _).trans hc)] at hd
      exact ⟨c, _, hc, diffPrinter_eq_ok.2 ⟨hpc, rfl⟩, by simpa [PrinterDiff.isChange] using hd⟩
    · exact absurd hx (hdup g)

/-- Conversely, under those conditions nothing panics and every accumulated diff is
`NoChangeToPrinter`, so the run answers nil. -/
theorem eq_none_of_conditions (hnd : (gcp.map (·.name)).Nodup)
    (hnames : ∀ n, n ∈ gcp.map (·.name) ↔ n ∈ cups.map (·.name))
    (hg : ∀ g ∈ gcp, ∃ c d, lastNamed cups g.name = some c ∧
      diffPrinter (c.withGCPFields g) g = .ok d ∧ d.operation = .noChangeToPrinter) :
    diffPrinters cups gcp = .ok none := by
  have hdup := markSeen_all_false.2 ⟨hnd, fun _ _ h => List.not_mem_nil _ h⟩
  have hok : ∀ g c, (g, false) ∈ markSeen [] gcp → lastNamed cups g.name = some c →
      goStringLT c.gcpVersion g.gcpVersion = false ∧
        (diffPrinterResult (c.withGCPFields g) g).operation = .noChangeToPrinter := by
    intro g c hx hc
    obtain ⟨c', d, hc', hd, hop⟩ := hg g (List.mem_of_find?_eq_some (mem_markSeen_false.1 hx).2)
    obtain rfl : c' = c := Option.some.inj (hc'.symm.trans hc)
    obtain ⟨hlt, rfl⟩ := diffPrinter_eq_ok.1 hd
    exact ⟨hlt, hop⟩
  refine diffPrinters_eq_ok.2 ⟨List.any_eq_false.2 ?_, ?_⟩
  · rintro ⟨g, b⟩ hx hpx
    obtain ⟨rfl, c, hc, hlt⟩ := gcpPanics_iff.1 hpx
    simp [(hok g c hx hc).1] at hlt
  · have hany : (accumulatedDiffs cups gcp).any (·.isChange) = false := by
      refine List.any_eq_false.2 fun d hd => ?_
      rcases mem_accumulatedDiffs hd with ⟨g, b, hx, hb | hb, rfl⟩ | ⟨g, c, hx, hc, rfl⟩ |
        ⟨c, hc, hn, rfl⟩
      · exact absurd (hb ▸ hx) (hdup g)
      · have hgm : g.name ∈ gcp.map (·.name) :=
          List.mem_map_of_mem _ (by simpa using List.mem_map_of_mem Prod.fst hx)
        exact absurd ((hnames _).1 hgm) (lastNamed_eq_none.1 hb)
      · simp [PrinterDiff.isChange, (hok g c hx hc).2]
      · exact absurd ((hnames _).2 (List.mem_map_of_mem _ hc)) hn
    simp [hany]

/-- A non-nil answer is dirty: it holds a diff that is not `NoChangeToPrinter`. -/
theorem exists_change_of_eq_some {D : List (PrinterDiff σ δ)}
    (hD : diffPrinters cups gcp = .ok (some D)) : ∃ d ∈ D, d.operation ≠ .noChangeToPrinter := by
  obtain ⟨-, hr⟩ := diffPrinters_eq_ok.1 hD
  split at hr
  · cases hr
    obtain ⟨d, hd, hch⟩ := List.any_eq_true.1 ‹_›
    exact ⟨d, hd, by simpa [PrinterDiff.isChange] using hch⟩
  · cases hr

/-- **Nil means in sync.**  `DiffPrinters` returns nil exactly when the GCP names are pairwise
distinct, the GCP names are the CUPS names, and `diffPrinter` answers `NoChangeToPrinter` for
every GCP printer against the last CUPS printer of its name (with the GCP id and semaphore
copied in); and a non-nil answer always holds a diff that is not `NoChangeToPrinter`.  No
hypothesis on panics is needed: the right-hand side rules them out. -/
theorem diffPrinters_eq_none_iff (cups gcp : List (Printer σ δ)) :
    (diffPrinters cups gcp = .ok none ↔
      (gcp.map (·.name)).Nodup ∧ (∀ n, n ∈ gcp.map (·.name) ↔ n ∈ cups.map (·.name)) ∧
        ∀ g ∈ gcp, ∃ c d, lastNamed cups g.name = some c ∧
          diffPrinter (c.withGCPFields g) g = .ok d ∧ d.operation = .noChangeToPrinter) ∧
    ∀ D, diffPrinters cups gcp = .ok (some D) → ∃ d ∈ D, d.operation ≠ .noChangeToPrinter :=
  ⟨⟨nil_conditions, fun ⟨hnd, hnames, hg⟩ => eq_none_of_conditions hnd hnames hg⟩,
    fun _ => exists_change_of_eq_some⟩

/-- Identical snapshots need no instruction. -/
example : diffPrinters sampleCups sampleCups = .ok none := rfl

/-- The `i`-th accumulated diff belongs to the `i`-th GCP printer: for a first printer of a name
with a CUPS printer, it is `diffPrinter`'s answer. -/
theorem accumulatedDiffs_getElem? {i : ℕ} {g c : Printer σ δ} (hg : gcp[i]? = some g)
    (hfirst : g.name ∉ (gcp.take i).map (·.name)) (hc : lastNamed cups g.name = some c) :
    (accumulatedDiffs cups gcp)[i]? = some (diffPrinterResult (c.withGCPFields g) g) := by
  have hlen : i < ((markSeen [] gcp).map
      (fun x => gcpDiff (printerSliceToMapByName cups) x.1 x.2)).length := by
    simpa using (List.getElem?_eq_some_iff.1 hg).1
  have hf : g.name ∉ (gcp.map (·.name)).take i := by rwa [← List.map_take]
  rw [accumulatedDiffs, List.getElem?_append_left hlen, List.getElem?_map, markSeen_getElem?, hg]
  simp [hf, gcpDiff_of_some _ g ((printerSliceToMapByName_apply cups _).trans hc)]

omit [DecidableEq σ] [DecidableEq δ] in
theorem deleteDiff_flagsClear (p : Printer σ δ) : (deleteDiff p).FlagsClear := by
  simp [deleteDiff, PrinterDiff.FlagsClear]

omit [DecidableEq σ] [DecidableEq δ] in
theorem registerDiff_flagsClear (p : Printer σ δ) : (registerDiff p).FlagsClear := by
  simp [registerDiff, PrinterDiff.FlagsClear]

/-- The diff `d` for the GCP printer `g` against the CUPS printer `c` is an `UpdatePrinter`
exactly when they differ on a compared field, a `tagshash` missing on either side counting as a
difference, and each of its flags is set exactly when its own field differs. -/
structure ReportsChanges (d : PrinterDiff σ δ) (c g : Printer σ δ) : Prop where
  update_iff : d.operation = .updatePrinter ↔ ¬ (FieldsAgree c g ∧ TagshashMatch c g)
  flags : FlagsReport d c g

/-- **Field flags.**  At the position `i` of a GCP printer `g` that comes first among the GCP
printers of its name, and whose name has a last CUPS printer `c`, the diff reports exactly their
differences; when the run returns nil, nothing differs; and every diff other than an
`UpdatePrinter` has all twelve flags clear. -/
theorem diffPrinters_getElem?_flags {r : Option (List (PrinterDiff σ δ))}
    (hr : diffPrinters cups gcp = .ok r) {i : ℕ} {g c : Printer σ δ} (hg : gcp[i]? = some g)
    (hfirst : g.name ∉ (gcp.take i).map (·.name)) (hc : lastNamed cups g.name = some c) :
    (∀ D, r = some D → ∃ d, D[i]? = some d ∧ ReportsChanges d c g) ∧
    (r = none → FieldsAgree c g ∧ TagshashMatch c g) ∧
    (∀ D, r = some D → ∀ d ∈ D, d.operation ≠ .updatePrinter → d.FlagsClear) := by
  obtain ⟨-, hr⟩ := diffPrinters_eq_ok.1 hr
  have hi := accumulatedDiffs_getElem? hg hfirst hc
  have hres := diffPrinterResult_cases (c.withGCPFields g) g
  have hop : (diffPrinterResult (c.withGCPFields g) g).operation = .updatePrinter ↔
      ¬ (FieldsAgree c g ∧ TagshashMatch c g) := by
    rcases hres with ⟨h1, -, h2⟩ | ⟨h1, -, h2⟩ <;> rw [h1]
    · exact ⟨fun _ => h2, fun _ => rfl⟩
    · exact ⟨(fun h => nomatch h), fun h => absurd h2 h⟩
  split at hr <;> subst hr
  · refine ⟨fun D hD => ?_, (fun h => nomatch h), fun D hD d hd hne => ?_⟩ <;> cases hD
    · exact ⟨_, hi, hop, diffPrinterResult_flagsReport _ _⟩
    · rcases mem_accumulatedDiffs hd with ⟨g, b, -, -, rfl⟩ | ⟨g, c, -, -, rfl⟩ | ⟨c, -, -, rfl⟩
      · exact deleteDiff_flagsClear g
      · exact diffPrinterResult_flagsClear hne
      · exact registerDiff_flagsClear c
  · refine ⟨(fun D h => nomatch h), fun _ => ?_, (fun D h => nomatch h)⟩
    have hd := List.any_eq_false.1 (Bool.eq_false_iff.2 ‹_›) _ (List.getElem?_mem hi)
    rcases hres with ⟨h1, -, -⟩ | ⟨-, -, h2⟩
    · simp [PrinterDiff.isChange, h1] at hd
    · exact h2

theorem diffPrinters_getElem?_flags_sample :
    diffPrinters sampleCups sampleGCP = .ok (some sampleDiffs) ∧
      sampleGCP[0]? = some (samplePrinter "a" "1" "old") ∧
      (samplePrinter "a" "1" "old").name ∉ (sampleGCP.take 0).map (·.name) ∧
      lastNamed sampleCups (samplePrinter "a" "1" "old").name = some (samplePrinter "a" "1" "A") ∧
      (∀ D, some sampleDiffs = some D → ∃ d, D[0]? = some d ∧
        ReportsChanges d (samplePrinter "a" "1" "A") (samplePrinter "a" "1" "old")) ∧
      (some sampleDiffs = none → FieldsAgree (samplePrinter "a" "1" "A") (samplePrinter "a" "1" "old") ∧
        TagshashMatch (samplePrinter "a" "1" "A") (samplePrinter "a" "1" "old")) ∧
      (∀ D, some sampleDiffs = some D → ∀ d ∈ D, d.operation ≠ .updatePrinter → d.FlagsClear) :=
  ⟨rfl, rfl, by simp, rfl,
    diffPrinters_getElem?_flags (show diffPrinters sampleCups sampleGCP = .ok (some sampleDiffs) from rfl)
      rfl (by simp) rfl⟩

/-! ### One surviving diff per CUPS name -/

/-- `diffPrinter`'s answer is never a deletion and keeps the GCP printer's name. -/
theorem diffPrinterResult_survives {g c : Printer σ δ} (hc : lastNamed cups g.name = some c) :
    (diffPrinterResult (c.withGCPFields g) g).operation ≠ .deletePrinter ∧
      (diffPrinterResult (c.withGCPFields g) g).printer.name = g.name := by
  rcases diffPrinterResult_cases (c.withGCPFields g) g with ⟨h1, h2, -⟩ | ⟨h1, h2, -⟩ <;>
    rw [h1, h2]
  · exact ⟨nofun, (lastNamed_name hc).1⟩
  · exact ⟨nofun, rfl⟩

/-- The GCP loop keeps a diff named `n` for `g` exactly when `g` comes first among the GCP
printers named `n` and a CUPS printer is named `n`. -/
theorem gcpDiff_survives (cups : List (Printer σ δ)) (g : Printer σ δ) (b : Bool) (n : String) :
    ((gcpDiff (printerSliceToMapByName cups) g b).operation ≠ .deletePrinter ∧
        (gcpDiff (printerSliceToMapByName cups) g b).printer.name = n) ↔
      (b = false ∧ g.name = n) ∧ n ∈ cups.map (·.name) := by
  cases b
  · cases hc : lastNamed cups g.name with
    | none =>
      rw [gcpDiff_of_none _ g ((printerSliceToMapByName_apply cups _).trans hc)]
      simp only [deleteDiff, ne_eq, not_true_eq_false, false_and, false_iff, not_and, true_and]
      rintro rfl
      exact lastNamed_eq_none.1 hc
    | some c =>
      rw [gcpDiff_of_some _ g ((printerSliceToMapByName_apply cups _).trans hc)]
      obtain ⟨hop, hname⟩ := diffPrinterResult_survives hc
      simp only [hop, hname, ne_eq, not_false_eq_true, true_and]
      constructor
      · rintro rfl
        exact ⟨rfl, List.mem_map.2 ⟨c, (lastNamed_name hc).2, (lastNamed_name hc).1⟩⟩
      · exact fun h => h.1
  · simp [deleteDiff]

/-- The number of surviving diffs named `n` is one for a CUPS name, zero otherwise. -/
theorem countP_accumulatedDiffs (hcups : (cups.map (·.name)).Nodup) (n : String) :
    (accumulatedDiffs cups gcp).countP
        (fun d => d.operation ≠ .deletePrinter ∧ d.printer.name = n) =
      if n ∈ cups.map (·.name) then 1 else 0 := by
  rw [accumulatedDiffs, List.countP_append, List.countP_map, List.countP_map]
  have hgcp : (markSeen [] gcp).countP
      ((fun d => decide (d.operation ≠ .deletePrinter ∧ d.printer.name = n)) ∘
        (fun x => gcpDiff (printerSliceToMapByName cups) x.1 x.2)) =
      if n ∈ cups.map (·.name) ∧ n ∈ gcp.map (·.name) then 1 else 0 := by
    rw [List.countP_congr (q := fun x => (!x.2 && x.1.name = n) && n ∈ cups.map (·.name))
      (fun x _ => by simpa using gcpDiff_survives cups x.1 x.2 n)]
    by_cases hn : n ∈ cups.map (·.name)
    · simpa [hn] using countP_markSeen_first [] gcp n
    · simp [hn]
  have hreg : (cups.filter (fun c => c.name ∉ gcp.map (·.name))).countP
      ((fun d => decide (d.operation ≠ .deletePrinter ∧ d.printer.name = n)) ∘ registerDiff) =
      if n ∈ cups.map (·.name) ∧ n ∉ gcp.map (·.name) then 1 else 0 := by
    rw [List.countP_filter]
    by_cases hg : n ∈ gcp.map (·.name)
    · simp only [hg, not_true_eq_false, and_false, if_false, List.countP_eq_zero]
      rintro c - h
      simp only [Function.comp, registerDiff, Bool.and_eq_true, decide_eq_true_eq] at h
      exact h.2 (h.1.2 ▸ hg)
    · have := List.count_eq_of_nodup (a := n) hcups
      rw [List.count, List.countP_map] at this
      rw [List.countP_congr (q := fun c => c.name == n) (fun c _ => by
        by_cases h : c.name = n <;> simp [registerDiff, h, hg])]
      simpa [hg] using this
  rw [hgcp, hreg]
  by_cases hc : n ∈ cups.map (·.name) <;> by_cases hg : n ∈ gcp.map (·.name) <;> simp [hc, hg]

/-- The GCP loop deletes `g` exactly when its name came before or has no CUPS printer. -/
theorem gcpDiff_delete (cups : List (Printer σ δ)) (g : Printer σ δ) (b : Bool) :
    ((gcpDiff (printerSliceToMapByName cups) g b).operation = .deletePrinter ↔
      b = true ∨ g.name ∉ cups.map (·.name)) ∧
    ((gcpDiff (printerSliceToMapByName cups) g b).operation = .deletePrinter →
      (gcpDiff (printerSliceToMapByName cups) g b).printer = g) := by
  cases b
  · cases hc : lastNamed cups g.name with
    | none =>
      rw [gcpDiff_of_none _ g ((printerSliceToMapByName_apply cups _).trans hc)]
      simpa [deleteDiff] using lastNamed_eq_none.1 hc
    | some c =>
      rw [gcpDiff_of_some _ g ((printerSliceToMapByName_apply cups _).trans hc)]
      have hm : g.name ∈ cups.map (·.name) :=
        List.mem_map.2 ⟨c, (lastNamed_name hc).2, (lastNamed_name hc).1⟩
      simp [hm, (diffPrinterResult_survives hc).1]
  · simp [deleteDiff]

/-- What completeness says of an answer `D` of `DiffPrinters cups gcp`. -/
structure DiffsComplete (cups gcp : List (Printer σ δ)) (D : List (PrinterDiff σ δ)) : Prop where
  /-- For every name, one `RegisterPrinter`, `UpdatePrinter` or `NoChangeToPrinter` diff when a
  CUPS printer has the name, and none otherwise. -/
  countP_surviving : ∀ n, D.countP (fun d => d.operation ≠ .deletePrinter ∧ d.printer.name = n) =
    if n ∈ cups.map (·.name) then 1 else 0
  /-- A surviving diff registers exactly when no GCP printer has its name. -/
  register_iff : ∀ d ∈ D, d.operation ≠ .deletePrinter →
    (d.operation = .registerPrinter ↔ d.printer.name ∉ gcp.map (·.name))
  /-- The deletions carry, in order, the GCP printers other than the first GCP printer of each
  CUPS name. -/
  deletions : (D.filter (·.operation = .deletePrinter)).map (·.printer) =
    ((markSeen [] gcp).filter (fun x => x.2 ∨ x.1.name ∉ cups.map (·.name))).map Prod.fst
  /-- A surviving diff agrees with the CUPS printer of its name on every compared field. -/
  agrees : ∀ d ∈ D, d.operation ≠ .deletePrinter → ∃ c ∈ cups, c.name = d.printer.name ∧
    FieldsAgree c d.printer ∧ c.tags.lookup "tagshash" = d.printer.tags.lookup "tagshash"

/-- **Completeness.**  With pairwise distinct CUPS names, every non-nil answer of
`DiffPrinters` is complete. -/
theorem diffPrinters_complete (hcups : (cups.map (·.name)).Nodup) {D : List (PrinterDiff σ δ)}
    (hD : diffPrinters cups gcp = .ok (some D)) : DiffsComplete cups gcp D := by
  obtain rfl := eq_accumulatedDiffs_of_ok_some hD
  refine ⟨countP_accumulatedDiffs hcups, fun d hd hne => ?_, ?_, fun d hd hne => ?_⟩
  · rcases mem_accumulatedDiffs hd with ⟨g, b, -, -, rfl⟩ | ⟨g, c, hx, hc, rfl⟩ |
      ⟨c, -, hn, rfl⟩
    · exact absurd rfl hne
    · have hg : g.name ∈ gcp.map (·.name) :=
        List.mem_map_of_mem _ (by simpa using List.mem_map_of_mem Prod.fst hx)
      rw [(diffPrinterResult_survives hc).2]
      rcases diffPrinterResult_cases (c.withGCPFields g) g with ⟨h1, -⟩ | ⟨h1, -⟩ <;>
        simp [h1, hg]
    · simpa [registerDiff] using hn
  · have hreg : ((cups.filter (fun c => c.name ∉ gcp.map (·.name))).map registerDiff).filter
        (·.operation = .deletePrinter) = [] :=
      List.filter_eq_nil_iff.2 fun d hd => by
        obtain ⟨c, -, rfl⟩ := List.mem_map.1 hd
        simp [registerDiff]
    rw [accumulatedDiffs, List.filter_append, hreg, List.append_nil, List.filter_map,
      List.map_map]
    have hq : ∀ x ∈ markSeen [] gcp,
        ((fun d : PrinterDiff σ δ => decide (d.operation = .deletePrinter)) ∘
          (fun x => gcpDiff (printerSliceToMapByName cups) x.1 x.2)) x =
        decide (x.2 = true ∨ x.1.name ∉ cups.map (·.name)) := fun x _ =>
      decide_eq_decide.2 (gcpDiff_delete cups x.1 x.2).1
    rw [List.filter_congr hq]
    refine List.map_congr_left fun x hx => ?_
    simp only [List.mem_filter, decide_eq_true_eq] at hx
    exact (gcpDiff_delete cups x.1 x.2).2 ((gcpDiff_delete cups x.1 x.2).1.2 hx.2)
  · rcases mem_accumulatedDiffs hd with ⟨g, b, -, -, rfl⟩ | ⟨g, c, -, hc, rfl⟩ |
      ⟨c, hc, -, rfl⟩
    · exact absurd rfl hne
    · obtain ⟨hcn, hcm⟩ := lastNamed_name hc
      rcases diffPrinterResult_cases (c.withGCPFields g) g with ⟨-, hp, -⟩ |
        ⟨-, hp, hf, t, ht, hgt⟩ <;> rw [hp]
      · exact ⟨c, hcm, rfl, FieldsAgree.refl c, rfl⟩
      · exact ⟨c, hcm, hcn, hf, ht.trans hgt.symm⟩
    · exact ⟨c, hc, rfl, FieldsAgree.refl c, rfl⟩

theorem diffPrinters_complete_sample :
    (sampleCups.map (·.name)).Nodup ∧ diffPrinters sampleCups sampleGCP = .ok (some sampleDiffs) ∧
      DiffsComplete sampleCups sampleGCP sampleDiffs :=
  ⟨by decide, rfl, diffPrinters_complete (by decide) rfl⟩

/-- A non-nil result holds one diff for each GCP printer and one for each CUPS printer whose
name GCP lacks. -/
theorem diffPrinters_length {D : List (PrinterDiff σ δ)}
    (hD : diffPrinters cups gcp = .ok (some D)) :
    D.length = gcp.length + (cups.filter (fun c => c.name ∉ gcp.map (·.name))).length := by
  rw [eq_accumulatedDiffs_of_ok_some hD, accumulatedDiffs]
  simp

theorem diffPrinters_length_sample :
    diffPrinters sampleCups sampleGCP = .ok (some sampleDiffs) ∧
      sampleDiffs.length =
        sampleGCP.length + (sampleCups.filter (fun c => c.name ∉ sampleGCP.map (·.name))).length :=
  ⟨rfl, diffPrinters_length rfl⟩

end Accumulated

end CupsConnector
