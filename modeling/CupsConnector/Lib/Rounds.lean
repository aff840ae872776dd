import CupsConnector.Lib.DiffPrintersSpec

/-!
# Two runs of `DiffPrinters`

Laws that compare two runs of `DiffPrinters`, read off the closed form and completeness:

* `diffPrinters_perm`: reordering the CUPS printers, and reordering the GCP printers without
  reordering the GCP printers of one name among themselves, changes the answer only up to the
  order of the diffs (the first GCP printer of a name is the one kept, so that order matters);
* `diffPrinters_second_round_nil`: the printers a run leaves on GCP, with whatever ids GCP
  assigns them, give nothing to do in the next run; in particular, identical snapshots give
  nothing to do.
-/

namespace CupsConnector

variable {σ δ : Type} [DecidableEq σ] [DecidableEq δ]

/-! ### Order -/

theorem any_eq_of_perm {α : Type} {l l' : List α} (h : l.Perm l') (p : α → Bool) :
    l.any p = l'.any p := by
  rw [Bool.eq_iff_iff, List.any_eq_true, List.any_eq_true]
  simp only [h.mem_iff]

omit [DecidableEq σ] [DecidableEq δ] in
/-- The printers of one name, marked, are the marked printers of that name. -/
theorem markSeen_filter_name (seen : List String) (gs : List (Printer σ δ)) (n : String) :
    (markSeen seen gs).filter (fun x => x.1.name = n) =
      markSeen (seen.filter (· = n)) (gs.filter (·.name = n)) := by
  induction gs generalizing seen with
  | nil => simp [markSeen]
  | cons g gs ih =>
    by_cases hg : g.name = n
    · subst hg
      simp [markSeen, List.filter_cons, ih]
    · simp [markSeen, List.filter_cons, hg, ih]

/-- Keeping the order of the GCP printers of each name keeps the marked list up to order. -/
theorem markSeen_perm {gs gs' : List (Printer σ δ)}
    (h : ∀ n, gs'.filter (·.name = n) = gs.filter (·.name = n)) :
    (markSeen [] gs').Perm (markSeen [] gs) := by
  refine List.perm_iff_count.2 fun x => ?_
  have key : ∀ l : List (Printer σ δ × Bool), l.countP (fun a => decide (a = x)) =
      (l.filter (fun y => y.1.name = x.1.name)).countP (fun a => decide (a = x)) := fun l => by
    rw [List.countP_filter]
    exact List.countP_congr fun a _ => by by_cases ha : a = x <;> simp [ha]
  show (markSeen [] gs').countP (fun a => decide (a = x)) =
    (markSeen [] gs).countP (fun a => decide (a = x))
  rw [key, key (markSeen [] gs), markSeen_filter_name, markSeen_filter_name, h]

/-- Two answers of `DiffPrinters` that agree up to the order of the diffs: both panic, both are
nil, or both are lists that are permutations of each other. -/
def SameUpToOrder : Except String (Option (List (PrinterDiff σ δ))) →
    Except String (Option (List (PrinterDiff σ δ))) → Prop
  | .error _, .error _ => True
  | .ok none, .ok none => True
  | .ok (some D), .ok (some D') => D.Perm D'
  | _, _ => False

/-- **Order independence.**  With pairwise distinct CUPS names, permuting the CUPS printers, and
permuting the GCP printers while keeping the GCP printers of each name in their order, leaves
the answer of `DiffPrinters` the same up to the order of the diffs. -/
theorem diffPrinters_perm {cups cups' gcp gcp' : List (Printer σ δ)}
    (hcups : (cups.map (·.name)).Nodup) (hσ : cups'.Perm cups) (hτ : gcp'.Perm gcp)
    (hord : ∀ n, gcp'.filter (·.name = n) = gcp.filter (·.name = n)) :
    SameUpToOrder (diffPrinters cups' gcp') (diffPrinters cups gcp) := by
  have hmap : printerSliceToMapByName cups' = printerSliceToMapByName cups := funext fun n => by
    rw [printerSliceToMapByName_apply, printerSliceToMapByName_apply, lastNamed_perm hcups hσ]
  have hms := markSeen_perm hord
  have hpanic : diffPanics cups' gcp' = diffPanics cups gcp := by
    unfold diffPanics; rw [hmap]; exact any_eq_of_perm hms _
  have hacc : (accumulatedDiffs cups' gcp').Perm (accumulatedDiffs cups gcp) := by
    unfold accumulatedDiffs
    rw [hmap]
    have hmem : ∀ c : Printer σ δ, decide (c.name ∉ gcp'.map (·.name)) =
        decide (c.name ∉ gcp.map (·.name)) := fun c =>
      decide_eq_decide.2 (not_congr (hτ.map _).mem_iff)
    rw [List.filter_congr fun c _ => hmem c]
    exact (hms.map _).append ((hσ.filter _).map _)
  rw [diffPrinters_eq, diffPrinters_eq, hpanic, any_eq_of_perm hacc]
  cases diffPanics cups gcp
  · cases (accumulatedDiffs cups gcp).any (·.isChange)
    · trivial
    · exact hacc
  · trivial

/-- The stale `c` moved to the front, the two `a`s kept in their order. -/
def sampleGCPReordered : List (Printer Unit Unit) :=
  [samplePrinter "c" "1" "C", samplePrinter "a" "1" "old", samplePrinter "a" "1" "A"]

theorem diffPrinters_perm_sample :
    (sampleCups.map (·.name)).Nodup ∧ sampleCups.reverse.Perm sampleCups ∧
      sampleGCPReordered.Perm sampleGCP ∧
      (∀ n, sampleGCPReordered.filter (·.name = n) = sampleGCP.filter (·.name = n)) ∧
      SameUpToOrder (diffPrinters sampleCups.reverse sampleGCPReordered)
        (diffPrinters sampleCups sampleGCP) := by
  have hτ : sampleGCPReordered.Perm sampleGCP :=
    @List.perm_append_comm _ [samplePrinter "c" "1" "C"]
      [samplePrinter "a" "1" "old", samplePrinter "a" "1" "A"]
  have hord : ∀ n, sampleGCPReordered.filter (·.name = n) = sampleGCP.filter (·.name = n) := by
    intro n
    by_cases ha : "a" = n <;> by_cases hc : "c" = n <;>
      simp [sampleGCPReordered, sampleGCP, samplePrinter, List.filter_cons, ha, hc]
    exact absurd (ha.trans hc.symm) (by decide)
  exact ⟨by decide, List.reverse_perm _, hτ, hord,
    diffPrinters_perm (by decide) (List.reverse_perm _) hτ hord⟩

/-! ### The next round -/

omit [DecidableEq σ] [DecidableEq δ] in
theorem count_survivingPrinters (D : List (PrinterDiff σ δ)) (n : String) :
    (((D.filter (·.operation ≠ .deletePrinter)).map (·.printer)).map (·.name)).count n =
      D.countP (fun d => d.operation ≠ .deletePrinter ∧ d.printer.name = n) := by
  rw [List.count, List.map_map, List.countP_map, List.countP_filter]
  exact List.countP_congr fun d _ => by simp [and_comm]

omit [DecidableEq σ] [DecidableEq δ] in
/-- Giving printers new GCP ids keeps their names. -/
theorem forall₂_gcpID_map_name {S R : List (Printer σ δ)}
    (h : List.Forall₂ (fun p q => q = { p with gcpID := q.gcpID }) S R) :
    R.map (·.name) = S.map (·.name) := by
  induction h with
  | nil => rfl
  | cons hpq _ ih => simp only [List.map_cons, ih, congrArg Printer.name hpq]

omit [DecidableEq σ] [DecidableEq δ] in
theorem forall₂_gcpID_mem {S R : List (Printer σ δ)}
    (h : List.Forall₂ (fun p q => q = { p with gcpID := q.gcpID }) S R) :
    ∀ q ∈ R, ∃ p ∈ S, q = { p with gcpID := q.gcpID } := by
  induction h with
  | nil => simp
  | cons hpq _ ih =>
    rintro q (_ | ⟨_, hq⟩)
    · exact ⟨_, List.mem_cons_self _ _, hpq⟩
    · obtain ⟨p, hp, he⟩ := ih q hq
      exact ⟨p, List.mem_cons_of_mem _ hp, he⟩

/-- **A second round has nothing to do.**  Let CUPS have pairwise distinct names, each printer
with a `tagshash` tag, and let a run against some GCP state answer `D`.  Take as the new GCP
state the printers of `D`'s `RegisterPrinter`, `UpdatePrinter` and `NoChangeToPrinter` diffs,
with whatever GCP ids GCP assigns: then the next run returns nil.  In particular, identical
snapshots with distinct names and tag hashes give nil. -/
theorem diffPrinters_second_round_nil {cups gcp : List (Printer σ δ)}
    (hcups : (cups.map (·.name)).Nodup) (htags : ∀ c ∈ cups, (c.tags.lookup "tagshash").isSome)
    {D : List (PrinterDiff σ δ)} (hD : diffPrinters cups gcp = .ok (some D))
    {R : List (Printer σ δ)}
    (hR : List.Forall₂ (fun p q => q = { p with gcpID := q.gcpID })
      ((D.filter (·.operation ≠ .deletePrinter)).map (·.printer)) R) :
    diffPrinters cups R = .ok none ∧
      ∀ S : List (Printer σ δ), (S.map (·.name)).Nodup →
        (∀ p ∈ S, (p.tags.lookup "tagshash").isSome) → diffPrinters S S = .ok none := by
  have hC := diffPrinters_complete hcups hD
  have hcount : ∀ n, (R.map (·.name)).count n = if n ∈ cups.map (·.name) then 1 else 0 :=
    fun n => by rw [forall₂_gcpID_map_name hR, count_survivingPrinters, hC.countP_surviving]
  refine ⟨(diffPrinters_eq_none_iff cups R).1.2 ⟨?_, fun n => ?_, fun r hr => ?_⟩,
    fun S hS hSt => (diffPrinters_eq_none_iff S S).1.2 ⟨hS, fun _ => Iff.rfl, fun g hg => ?_⟩⟩
  · exact List.nodup_iff_count_le_one.2 fun n => by rw [hcount]; split <;> omega
  · rw [← List.count_pos_iff, hcount]
    split <;> simp_all
  · obtain ⟨s, hs, hrs⟩ := forall₂_gcpID_mem hR r hr
    obtain ⟨d, hd, rfl⟩ := List.mem_map.1 hs
    obtain ⟨hdD, hop⟩ := List.mem_filter.1 hd
    obtain ⟨c, hc, hcn, hf, ht⟩ := hC.agrees d hdD (by simpa using hop)
    obtain ⟨h, hh⟩ := Option.isSome_iff_exists.1 (htags c hc)
    refine ⟨c, _, ?_, diffPrinter_of_agree ?_ ?_, rfl⟩ <;> rw [hrs]
    · exact hcn ▸ lastNamed_of_nodup hcups hc
    · exact hf
    · exact ⟨h, hh, ht ▸ hh⟩
  · obtain ⟨h, hh⟩ := Option.isSome_iff_exists.1 (hSt g hg)
    exact ⟨g, _, lastNamed_of_nodup hS hg, diffPrinter_of_agree (FieldsAgree.refl g) ⟨h, hh, hh⟩,
      rfl⟩

/-- GCP after applying `sampleDiffs`, with the ids it assigned. -/
def sampleNextGCP : List (Printer Unit Unit) :=
  [{ samplePrinter "a" "1" "A" with gcpID := "id-a" }, { samplePrinter "b" "1" "B" with gcpID := "id-b" }]

theorem diffPrinters_second_round_nil_sample :
    (sampleCups.map (·.name)).Nodup ∧ (∀ c ∈ sampleCups, (c.tags.lookup "tagshash").isSome) ∧
      diffPrinters sampleCups sampleGCP = .ok (some sampleDiffs) ∧
      List.Forall₂ (fun p q => q = { p with gcpID := q.gcpID })
        ((sampleDiffs.filter (·.operation ≠ .deletePrinter)).map (·.printer)) sampleNextGCP ∧
      (diffPrinters sampleCups sampleNextGCP = .ok none ∧
        ∀ S : List (Printer Unit Unit), (S.map (·.name)).Nodup →
          (∀ p ∈ S, (p.tags.lookup "tagshash").isSome) → diffPrinters S S = .ok none) := by
  have hD : diffPrinters sampleCups sampleGCP = .ok (some sampleDiffs) := rfl
  exact ⟨by decide, by decide, hD, .cons rfl (.cons rfl .nil),
    diffPrinters_second_round_nil (by decide) (by decide) hD (.cons rfl (.cons rfl .nil))⟩

end CupsConnector
