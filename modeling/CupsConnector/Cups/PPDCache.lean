import CupsConnector.Cups.PPDCacheEntry
import Mathlib.Data.List.AList

/-!
# The PPD cache, one call at a time (`cups/ppdcache.go`)

* `PPDCache δ`: `ppdCache` with its entries on a heap. `cache` maps printer names to
  addresses, `heap` holds the entry at each address, and `next` is the first unused address.
  `log` is a ghost record of what happened to each entry: created, refreshed, freed.
* The steps `alloc`, `refreshAt`, `free`, `delete` and `install`, and from them `removePPD`,
  `quit` and `getPPDCacheEntry`, which runs its steps in the source's order without
  interruption. `CupsConnector.Cups.PPDCacheConcurrent` interleaves the same steps.
* `Call` and `run`: a sequential run of calls. Each `getPPDCacheEntry` meets the print system
  as it is at that call, and the environment's faults of its own.
* `CacheUpToDate`, kept by every call: each cached entry holds the translation of its
  printer's document with the entry's stamp. Hence `getPPDCacheEntry_translatePPD`: a lookup
  that succeeds returns the translation of the current document.
* `Lifecycle`, kept by every call: no entry is freed twice or refreshed after its free, and
  the entries created and not freed are the cached ones.
-/

namespace CupsConnector

/-- What happens to an entry, by address: the cache's ghost record. -/
inductive PPDEvent
  | alloc (a : Nat)
  | refresh (a : Nat)
  | free (a : Nat)
  deriving DecidableEq, Repr

/-- `ppdCache`, its entries on a heap. -/
structure PPDCache (δ : Type) where
  cache : AList (fun _ : String => Nat)
  heap : Nat → PPDCacheEntry δ
  next : Nat
  log : List PPDEvent

/-- The environment's choices during one `getPPDCacheEntry`. -/
structure LookupEnv where
  tempFileErr : Option String
  refresh : RefreshEnv
  deriving DecidableEq, Repr

variable {δ : Type} (ppd : String → Nat → String)
  (translatePPD : String → Option δ × String × String)

/-- `newPPDCache`. -/
def newPPDCache [Inhabited δ] : PPDCache δ := ⟨∅, fun _ => ⟨"", 0, default, "", ""⟩, 0, []⟩

namespace PPDCache

/-! ### Steps -/

/-- `&ppdCacheEntry{...}`: the entry stored at the new address `pc.next`. -/
def alloc (pce : PPDCacheEntry δ) (pc : PPDCache δ) : PPDCache δ :=
  { pc with
    heap := fun a => if a = pc.next then pce else pc.heap a
    next := pc.next + 1
    log := pc.log ++ [.alloc pc.next] }

/-- `pce.refresh(pc.cc)` on the entry at `a`. -/
def refreshAt (ps : PrintSystem) (env : RefreshEnv) (a : Nat) (pc : PPDCache δ) :
    Option String × PPDCache δ :=
  let (err, pce) := refresh ppd translatePPD ps env (pc.heap a)
  (err,
    { pc with
      heap := fun a' => if a' = a then pce else pc.heap a'
      log := pc.log ++ [.refresh a] })

/-- `pce.free()`: the C name and the temporary file of the entry at `a` are released. -/
def free (a : Nat) (pc : PPDCache δ) : PPDCache δ := { pc with log := pc.log ++ [.free a] }

/-- `delete(pc.cache, printername)`. -/
def delete (n : String) (pc : PPDCache δ) : PPDCache δ := { pc with cache := pc.cache.erase n }

/-- Lines 89-94: an entry that a racing call stored under `n` in the meantime is deleted, and
the entry at `a` is stored. -/
def install (n : String) (a : Nat) (pc : PPDCache δ) : PPDCache δ :=
  match pc.cache.lookup n with
  | some _ => { pc with cache := (pc.cache.erase n).insert n a }
  | none => { pc with cache := pc.cache.insert n a }

variable (pc : PPDCache δ)

@[simp] theorem alloc_cache (pce : PPDCacheEntry δ) : (pc.alloc pce).cache = pc.cache := rfl
@[simp] theorem alloc_heap (pce : PPDCacheEntry δ) (a : Nat) :
    (pc.alloc pce).heap a = if a = pc.next then pce else pc.heap a := rfl
@[simp] theorem alloc_next (pce : PPDCacheEntry δ) : (pc.alloc pce).next = pc.next + 1 := rfl
@[simp] theorem alloc_log (pce : PPDCacheEntry δ) :
    (pc.alloc pce).log = pc.log ++ [.alloc pc.next] := rfl

@[simp] theorem refreshAt_fst (ps : PrintSystem) (env : RefreshEnv) (a : Nat) :
    (pc.refreshAt ppd translatePPD ps env a).1 = (refresh ppd translatePPD ps env (pc.heap a)).1 :=
  rfl
@[simp] theorem refreshAt_cache (ps : PrintSystem) (env : RefreshEnv) (a : Nat) :
    (pc.refreshAt ppd translatePPD ps env a).2.cache = pc.cache := rfl
@[simp] theorem refreshAt_heap (ps : PrintSystem) (env : RefreshEnv) (a a' : Nat) :
    (pc.refreshAt ppd translatePPD ps env a).2.heap a' =
      if a' = a then (refresh ppd translatePPD ps env (pc.heap a)).2 else pc.heap a' := rfl
@[simp] theorem refreshAt_next (ps : PrintSystem) (env : RefreshEnv) (a : Nat) :
    (pc.refreshAt ppd translatePPD ps env a).2.next = pc.next := rfl
@[simp] theorem refreshAt_log (ps : PrintSystem) (env : RefreshEnv) (a : Nat) :
    (pc.refreshAt ppd translatePPD ps env a).2.log = pc.log ++ [.refresh a] := rfl

@[simp] theorem free_cache (a : Nat) : (pc.free a).cache = pc.cache := rfl
@[simp] theorem free_heap (a : Nat) : (pc.free a).heap = pc.heap := rfl
@[simp] theorem free_next (a : Nat) : (pc.free a).next = pc.next := rfl
@[simp] theorem free_log (a : Nat) : (pc.free a).log = pc.log ++ [.free a] := rfl

@[simp] theorem delete_cache (n : String) : (pc.delete n).cache = pc.cache.erase n := rfl
@[simp] theorem delete_heap (n : String) : (pc.delete n).heap = pc.heap := rfl
@[simp] theorem delete_next (n : String) : (pc.delete n).next = pc.next := rfl
@[simp] theorem delete_log (n : String) : (pc.delete n).log = pc.log := rfl

@[simp] theorem install_heap (n : String) (a : Nat) : (pc.install n a).heap = pc.heap := by
  unfold install; split <;> rfl
@[simp] theorem install_next (n : String) (a : Nat) : (pc.install n a).next = pc.next := by
  unfold install; split <;> rfl
@[simp] theorem install_log (n : String) (a : Nat) : (pc.install n a).log = pc.log := by
  unfold install; split <;> rfl

@[simp] theorem install_lookup (n n' : String) (a : Nat) :
    (pc.install n a).cache.lookup n' = if n' = n then some a else pc.cache.lookup n' := by
  unfold install
  by_cases h : n' = n
  · subst h
    split <;> simp only [if_true] <;> exact AList.lookup_insert _
  · split <;> simp [h, AList.lookup_insert_ne h, AList.lookup_erase_ne h]

end PPDCache

open PPDCache

/-! ### Calls -/

/-- `ppdCache.removePPD`. -/
def removePPD (n : String) (pc : PPDCache δ) : PPDCache δ :=
  match pc.cache.lookup n with
  | some a => (pc.free a).delete n
  | none => pc

/-- `ppdCache.quit`: every entry freed and deleted, in the order of the map's entries. -/
def quit (pc : PPDCache δ) : PPDCache δ :=
  pc.cache.entries.foldl (fun pc e => (pc.free e.2).delete e.1) pc

/-- `ppdCache.getPPDCacheEntry`, run without interruption. The goroutine that frees a
displaced entry runs at once. -/
def getPPDCacheEntry [Inhabited δ] (ps : PrintSystem) (env : LookupEnv) (n : String) (pc : PPDCache δ) :
    Except String (δ × String × String) × PPDCache δ :=
  match pc.cache.lookup n with
  | none =>
    match createPPDCacheEntry env.tempFileErr n with
    | .error err => (.error err, pc)
    | .ok pce =>
      let a := pc.next
      match (pc.alloc pce).refreshAt ppd translatePPD ps env.refresh a with
      | (some err, pc) => (.error err, pc.free a)
      | (none, pc) =>
        let first := pc.cache.lookup n
        let pc := pc.install n a
        let pc := match first with
          | some firstPCE => pc.free firstPCE
          | none => pc
        (.ok (getFields (pc.heap a)), pc)
  | some a =>
    match pc.refreshAt ppd translatePPD ps env.refresh a with
    | (some err, pc) => (.error err, (pc.delete n).free a)
    | (none, pc) => (.ok (getFields (pc.heap a)), pc)

/-- One call on the cache, with what the environment does during it. -/
inductive Call
  | getPPDCacheEntry (n : String) (ps : PrintSystem) (env : LookupEnv)
  | removePPD (n : String)
  | quit

/-- The cache after one call. -/
def runCall [Inhabited δ] : Call → PPDCache δ → PPDCache δ
  | .getPPDCacheEntry n ps env, pc => (getPPDCacheEntry ppd translatePPD ps env n pc).2
  | .removePPD n, pc => removePPD n pc
  | .quit, pc => quit pc

/-- The cache after a sequential run of calls. -/
def run [Inhabited δ] (calls : List Call) (pc : PPDCache δ) : PPDCache δ :=
  calls.foldl (fun pc c => runCall ppd translatePPD c pc) pc

/-! ### Cached entries are up to date -/

/-- `r` is what an uncached fetch and translation of `n`'s current document returns: a
description with a manufacturer and a model. -/
def FetchedTranslation (ps : PrintSystem) (n : String) (r : δ × String × String) : Prop :=
  translatePPD (ppd n (ps.stamp n)) = (some r.1, r.2.1, r.2.2) ∧ r.2.1 ≠ "" ∧ r.2.2 ≠ ""

/-- Every cached entry lies below `next`, is the entry of its key's printer, and is up to
date. -/
def CacheUpToDate (pc : PPDCache δ) : Prop :=
  ∀ n a, pc.cache.lookup n = some a →
    a < pc.next ∧ (pc.heap a).printername = n ∧ (pc.heap a).UpToDate ppd translatePPD

/-- The cache holds under `n` an up-to-date entry of `n`'s printer, with the current stamp and
the fields `r`. -/
def HoldsCurrent (ps : PrintSystem) (n : String) (r : δ × String × String) (pc : PPDCache δ) :
    Prop :=
  ∃ a, pc.cache.lookup n = some a ∧ (pc.heap a).UpToDate ppd translatePPD ∧
    (pc.heap a).printername = n ∧ (pc.heap a).modtime = ps.stamp n ∧ getFields (pc.heap a) = r

theorem fetchedTranslation_getFields {ps : PrintSystem} {n : String} {pce : PPDCacheEntry δ}
    (hup : pce.UpToDate ppd translatePPD) (hn : pce.printername = n)
    (hm : pce.modtime = ps.stamp n) : FetchedTranslation ppd translatePPD ps n (getFields pce) :=
  ⟨by rw [← hm, ← hn]; exact hup.translated, hup.manufacturer_ne, hup.model_ne⟩

theorem createPPDCacheEntry_eq_ok [Inhabited δ] {err : Option String} {n : String}
    {pce : PPDCacheEntry δ} (h : createPPDCacheEntry err n = .ok pce) :
    pce = ⟨n, 0, default, "", ""⟩ := by
  cases err <;> simp [createPPDCacheEntry] at h
  exact h.symm

theorem AList.lookup_of_lookup_erase {s : AList (fun _ : String => Nat)} {n n' : String} {a : Nat}
    (h : (s.erase n).lookup n' = some a) : s.lookup n' = some a := by
  by_cases hn : n' = n
  · subst hn
    simp [AList.lookup_erase] at h
  · rwa [AList.lookup_erase_ne hn] at h

section UpToDate

variable {ppd translatePPD}

/-- The frame rule of the invariant: the cache may lose keys, and the heap may change where the
cache does not point. -/
theorem CacheUpToDate.mono {pc pc' : PPDCache δ} (h : CacheUpToDate ppd translatePPD pc)
    (hnext : pc.next ≤ pc'.next)
    (hsub : ∀ n a, pc'.cache.lookup n = some a → pc.cache.lookup n = some a)
    (hheap : ∀ n a, pc'.cache.lookup n = some a → pc'.heap a = pc.heap a) :
    CacheUpToDate ppd translatePPD pc' := by
  intro n a hl
  obtain ⟨ha, hn, hup⟩ := h n a (hsub n a hl)
  rw [hheap n a hl]
  exact ⟨by omega, hn, hup⟩

theorem CacheUpToDate.free {pc : PPDCache δ} (h : CacheUpToDate ppd translatePPD pc) (a : Nat) :
    CacheUpToDate ppd translatePPD (pc.free a) :=
  h.mono le_rfl (fun _ _ => id) (fun _ _ _ => rfl)

theorem CacheUpToDate.delete {pc : PPDCache δ} (h : CacheUpToDate ppd translatePPD pc)
    (n : String) : CacheUpToDate ppd translatePPD (pc.delete n) :=
  h.mono le_rfl (fun _ _ => AList.lookup_of_lookup_erase) (fun _ _ _ => rfl)

theorem CacheUpToDate.removePPD {pc : PPDCache δ} (h : CacheUpToDate ppd translatePPD pc)
    (n : String) : CacheUpToDate ppd translatePPD (removePPD n pc) := by
  unfold CupsConnector.removePPD
  split
  · exact (h.free _).delete n
  · exact h

theorem CacheUpToDate.quit {pc : PPDCache δ} (h : CacheUpToDate ppd translatePPD pc) :
    CacheUpToDate ppd translatePPD (quit pc) := by
  unfold CupsConnector.quit
  generalize pc.cache.entries = l
  induction l generalizing pc with
  | nil => exact h
  | cons e l ih => exact ih ((h.free _).delete _)

/-- Storing an up-to-date entry of `n`'s printer under `n`. -/
theorem CacheUpToDate.install {pc : PPDCache δ} (h : CacheUpToDate ppd translatePPD pc)
    {n : String} {a : Nat} (ha : a < pc.next) (hn : (pc.heap a).printername = n)
    (hup : (pc.heap a).UpToDate ppd translatePPD) :
    CacheUpToDate ppd translatePPD (pc.install n a) := by
  intro n' a' hl
  rw [install_lookup] at hl
  split_ifs at hl with hn'
  · cases hl
    subst hn'
    simpa using ⟨ha, hn, hup⟩
  · simpa using h n' a' hl

/-- A new entry, refreshed: the cache does not point to it, so the invariant survives whatever
`refresh` does to it, and a successful `refresh` leaves it up to date with the current stamp. -/
theorem CacheUpToDate.refreshNew {pc : PPDCache δ} (h : CacheUpToDate ppd translatePPD pc)
    (ps : PrintSystem) (env : RefreshEnv) {pce : PPDCacheEntry δ} (hmod : pce.modtime = 0) :
    let pc' := ((pc.alloc pce).refreshAt ppd translatePPD ps env pc.next).2
    CacheUpToDate ppd translatePPD pc' ∧
      (((pc.alloc pce).refreshAt ppd translatePPD ps env pc.next).1 = none →
        (pc'.heap pc.next).UpToDate ppd translatePPD ∧
          (pc'.heap pc.next).printername = pce.printername ∧
          (pc'.heap pc.next).modtime = ps.stamp pce.printername) := by
  refine ⟨h.mono (by simp) (fun _ _ => id) fun n a hl => ?_, fun hr => ?_⟩
  · have ha := (h n a hl).1
    simp [Nat.ne_of_lt ha]
  · simp only [refreshAt_fst, alloc_heap, if_true, refreshAt_heap] at hr ⊢
    exact ⟨(refresh_upToDate ppd translatePPD (.inl hmod) hr).1,
      refresh_printername ppd translatePPD ps env pce,
      (refresh_upToDate ppd translatePPD (.inl hmod) hr).2⟩

/-- A cached entry, refreshed. If the `refresh` succeeds, the invariant holds and the entry is
up to date with the current stamp. If it fails, deleting its key restores the invariant. -/
theorem CacheUpToDate.refreshCached {pc : PPDCache δ} (h : CacheUpToDate ppd translatePPD pc)
    (ps : PrintSystem) (env : RefreshEnv) {n : String} {a : Nat} (hl : pc.cache.lookup n = some a) :
    let pc' := (pc.refreshAt ppd translatePPD ps env a).2
    CacheUpToDate ppd translatePPD (pc'.delete n) ∧
      ((pc.refreshAt ppd translatePPD ps env a).1 = none →
        CacheUpToDate ppd translatePPD pc' ∧ (pc'.heap a).UpToDate ppd translatePPD ∧
          (pc'.heap a).printername = n ∧ (pc'.heap a).modtime = ps.stamp n) := by
  obtain ⟨-, hn, hup⟩ := h n a hl
  -- another key points elsewhere: the entry at `a` belongs to `n`'s printer
  have hother : ∀ n' a', pc.cache.lookup n' = some a' → n' ≠ n → a' ≠ a := by
    intro n' a' hl' hne heq
    rw [heq] at hl'
    exact hne ((h n' a hl').2.1.symm.trans hn)
  refine ⟨h.mono (by simp) (fun _ _ hl' => AList.lookup_of_lookup_erase hl') fun n' a' hl' => ?_,
    fun hr => ?_⟩
  · have hne : n' ≠ n := by rintro rfl; simp [AList.lookup_erase] at hl'
    simp [hother n' a' (AList.lookup_of_lookup_erase hl') hne]
  · simp only [refreshAt_fst] at hr
    have hfresh := refresh_upToDate ppd translatePPD (.inr hup) hr
    have hname := refresh_printername ppd translatePPD ps env (pc.heap a)
    refine ⟨fun n' a' hl' => ?_, by simpa using hfresh.1, by simpa [hn] using hname,
      by simpa [hn] using hfresh.2⟩
    simp only [refreshAt_cache] at hl'
    by_cases hn' : n' = n
    · rw [hn', hl] at hl'
      cases hl'
      simpa [hn'] using ⟨(h n a hl).1, hname.trans hn, hfresh.1⟩
    · simpa [hother n' a' hl' hn'] using h n' a' hl'

/-- One lookup keeps the invariant. A lookup that succeeds with `r` leaves under `n` an
up-to-date entry of `n`'s printer, with the current stamp and the fields `r`. -/
theorem getPPDCacheEntry_spec [Inhabited δ] {pc : PPDCache δ}
    (h : CacheUpToDate ppd translatePPD pc) (ps : PrintSystem) (env : LookupEnv) (n : String) :
    CacheUpToDate ppd translatePPD (getPPDCacheEntry ppd translatePPD ps env n pc).2 ∧
      ∀ r, (getPPDCacheEntry ppd translatePPD ps env n pc).1 = .ok r →
        HoldsCurrent ppd translatePPD ps n r (getPPDCacheEntry ppd translatePPD ps env n pc).2 := by
  unfold getPPDCacheEntry
  split
  · -- no entry: create, refresh, install
    split
    · exact ⟨h, fun _ hr => by cases hr⟩
    · rename_i pce hc
      obtain rfl := createPPDCacheEntry_eq_ok hc
      obtain ⟨hinv, hok⟩ := h.refreshNew ps env.refresh
        (show (⟨n, 0, default, "", ""⟩ : PPDCacheEntry δ).modtime = 0 from rfl)
      dsimp only
      split
      · rename_i err pc' hr
        rw [hr] at hinv
        exact ⟨hinv.free _, fun _ hr' => by cases hr'⟩
      · rename_i pc' hr
        obtain ⟨hup, hn, hm⟩ := hok (by rw [hr])
        rw [hr] at hup hn hm hinv
        have hnext : pc.next < pc'.next := by
          have := congrArg (fun x => x.2.next) hr
          simp at this
          omega
        have hins := hinv.install hnext hn hup
        -- the displaced entry, if any, is freed: the heap and the map are as `install` left them
        split <;> exact ⟨by first | exact hins.free _ | exact hins, fun r hr' => by
          cases hr'; exact ⟨pc.next, by simp, by simpa using hup, by simpa using hn,
            by simpa using hm, by simp⟩⟩
  · -- an entry: refresh it
    rename_i a hl
    obtain ⟨hdel, hok⟩ := h.refreshCached ps env.refresh hl
    split
    · rename_i err pc' hr
      rw [hr] at hdel
      exact ⟨hdel.free _, fun _ hr' => by cases hr'⟩
    · rename_i pc' hr
      obtain ⟨hinv, hup, hn, hm⟩ := hok (by rw [hr])
      rw [hr] at hinv hup hn hm
      have hc : pc'.cache = pc.cache := by
        simpa using (congrArg (fun x => x.2.cache) hr).symm
      exact ⟨hinv, fun r hr' => by cases hr'; exact ⟨a, hc ▸ hl, hup, hn, hm, rfl⟩⟩

theorem CacheUpToDate.runCall [Inhabited δ] {pc : PPDCache δ}
    (h : CacheUpToDate ppd translatePPD pc) (c : Call) :
    CacheUpToDate ppd translatePPD (runCall ppd translatePPD c pc) := by
  cases c with
  | getPPDCacheEntry n ps env => exact (getPPDCacheEntry_spec h ps env n).1
  | removePPD n => exact h.removePPD n
  | quit => exact h.quit

theorem CacheUpToDate.run [Inhabited δ] {pc : PPDCache δ} (h : CacheUpToDate ppd translatePPD pc)
    (calls : List Call) : CacheUpToDate ppd translatePPD (run ppd translatePPD calls pc) := by
  induction calls generalizing pc with
  | nil => exact h
  | cons c calls ih => exact ih (h.runCall c)

end UpToDate

theorem newPPDCache_upToDate [Inhabited δ] :
    CacheUpToDate ppd translatePPD (newPPDCache : PPDCache δ) := by
  intro n a hl
  simp [newPPDCache, AList.lookup_empty] at hl

/-- **Cached lookups agree with fetch and translate.** After any sequential run of lookups,
removals and shutdowns, against any history of the print system's documents and any faults,
a lookup of `n` that succeeds returns the translation of `n`'s current document, with a
manufacturer and a model. -/
theorem getPPDCacheEntry_translatePPD [Inhabited δ] (calls : List Call) (ps : PrintSystem)
    (env : LookupEnv) (n : String) {r : δ × String × String}
    (h : (getPPDCacheEntry ppd translatePPD ps env n
      (run ppd translatePPD calls newPPDCache)).1 = .ok r) :
    translatePPD (ppd n (ps.stamp n)) = (some r.1, r.2.1, r.2.2) ∧ r.2.1 ≠ "" ∧ r.2.2 ≠ "" :=
  have ⟨_, _, hup, hn, hm, hr⟩ :=
    (getPPDCacheEntry_spec ((newPPDCache_upToDate ppd translatePPD).run calls) ps env n).2 r h
  hr ▸ fetchedTranslation_getFields ppd translatePPD hup hn hm

/-- **Cache freshness.** After a lookup of `n` succeeds with `r`, a second lookup of `n` against
the same print system, which CUPS answers "not modified", returns `r` again, whatever the
other faults: its `refresh` neither reads nor translates a document. -/
theorem getPPDCacheEntry_notModified [Inhabited δ] (calls : List Call) (ps : PrintSystem)
    (env env' : LookupEnv) (n : String) {r : δ × String × String}
    (h : (getPPDCacheEntry ppd translatePPD ps env n
      (run ppd translatePPD calls newPPDCache)).1 = .ok r)
    (henv : env'.refresh.getPPD = .notModified) :
    (getPPDCacheEntry ppd translatePPD ps env' n (getPPDCacheEntry ppd translatePPD ps env n
      (run ppd translatePPD calls newPPDCache)).2).1 = .ok r := by
  obtain ⟨a, hl, -, hn, hm, hr⟩ :=
    (getPPDCacheEntry_spec ((newPPDCache_upToDate ppd translatePPD).run calls) ps env n).2 r h
  have hfresh := refresh_notModified ppd translatePPD henv (hm.trans (congrArg ps.stamp hn.symm))
  generalize (getPPDCacheEntry ppd translatePPD ps env n
    (run ppd translatePPD calls newPPDCache)).2 = pc at hl hfresh hr ⊢
  simp [getPPDCacheEntry, hl, refreshAt, hfresh, hr]

/-! ### The entries' lifecycle in sequential runs -/

/-- The address an event is about. -/
def PPDEvent.addr : PPDEvent → Nat
  | .alloc a => a
  | .refresh a => a
  | .free a => a

/-- The entry at `a` was created and not freed. -/
def Live (log : List PPDEvent) (a : Nat) : Prop := PPDEvent.alloc a ∈ log ∧ PPDEvent.free a ∉ log

instance (log : List PPDEvent) (a : Nat) : Decidable (Live log a) :=
  inferInstanceAs (Decidable (_ ∧ _))

/-- The log shows the entry at `a` refreshed after its free. -/
def RefreshedAfterFree (log : List PPDEvent) (a : Nat) : Prop :=
  ∃ pre post, log = pre ++ PPDEvent.free a :: post ∧ PPDEvent.refresh a ∈ post

theorem live_append {log : List PPDEvent} {e : PPDEvent} {a : Nat} :
    Live (log ++ [e]) a ↔
      (PPDEvent.alloc a ∈ log ∨ e = .alloc a) ∧ PPDEvent.free a ∉ log ∧ e ≠ .free a := by
  simp [Live, eq_comm]

theorem refreshedAfterFree_append {log : List PPDEvent} {e : PPDEvent} {a : Nat} :
    RefreshedAfterFree (log ++ [e]) a ↔
      RefreshedAfterFree log a ∨ (e = .refresh a ∧ PPDEvent.free a ∈ log) := by
  constructor
  · rintro ⟨pre, post, hlog, hr⟩
    rcases List.eq_nil_or_concat post with rfl | ⟨L, b, rfl⟩
    · simp at hr
    · rw [List.concat_eq_append] at hlog hr
      have hsplit : log ++ [e] = (pre ++ PPDEvent.free a :: L) ++ [b] := by rw [hlog]; simp
      obtain ⟨rfl, heb⟩ := List.append_inj' hsplit rfl
      rcases List.mem_append.1 hr with hr | hr
      · exact .inl ⟨pre, L, rfl, hr⟩
      · simp only [List.mem_singleton, List.cons.injEq, and_true] at hr heb
        exact .inr ⟨heb.trans hr.symm, by simp⟩
  · rintro (⟨pre, post, rfl, hr⟩ | ⟨rfl, hf⟩)
    · exact ⟨pre, post ++ [e], by simp, by simp [hr]⟩
    · obtain ⟨pre, post, rfl⟩ := List.append_of_mem hf
      exact ⟨pre, post ++ [.refresh a], by simp, by simp⟩

/-- The cache's ownership of its entries, while the running call holds the entries `owned`
that it created or took out of the map. Every event is about an allocated address. No entry
is freed twice or refreshed after its free. The live entries are the cached ones and the
owned ones, and each of them is reachable in one way only. -/
structure Owns (pc : PPDCache δ) (owned : List Nat) : Prop where
  addr_lt : ∀ e ∈ pc.log, e.addr < pc.next
  freedOnce : ∀ a, pc.log.count (.free a) ≤ 1
  notRefreshedAfterFree : ∀ a, ¬RefreshedAfterFree pc.log a
  live_iff : ∀ a, Live pc.log a ↔ (∃ n, pc.cache.lookup n = some a) ∨ a ∈ owned
  injective : ∀ n n' a, pc.cache.lookup n = some a → pc.cache.lookup n' = some a → n = n'
  owned_not_cached : ∀ a ∈ owned, ∀ n, pc.cache.lookup n ≠ some a
  owned_nodup : owned.Nodup

section Owns

variable {pc : PPDCache δ} {owned : List Nat}

theorem Owns.alloc_not_mem (h : Owns pc owned) : PPDEvent.alloc pc.next ∉ pc.log :=
  fun hm => Nat.lt_irrefl _ (h.addr_lt _ hm)

theorem Owns.free_not_mem (h : Owns pc owned) : PPDEvent.free pc.next ∉ pc.log :=
  fun hm => Nat.lt_irrefl _ (h.addr_lt _ hm)

theorem Owns.live_of_lookup (h : Owns pc owned) {n : String} {a : Nat}
    (hl : pc.cache.lookup n = some a) : Live pc.log a :=
  (h.live_iff a).2 (.inl ⟨n, hl⟩)

theorem Owns.live_of_mem (h : Owns pc owned) {a : Nat} (ha : a ∈ owned) : Live pc.log a :=
  (h.live_iff a).2 (.inr ha)

theorem Owns.lt_of_live (h : Owns pc owned) {a : Nat} (ha : Live pc.log a) : a < pc.next :=
  h.addr_lt _ ha.1

/-- `alloc`: the new entry belongs to the call. -/
theorem Owns.alloc (h : Owns pc owned) (pce : PPDCacheEntry δ) :
    Owns (pc.alloc pce) (pc.next :: owned) where
  addr_lt e he := by
    rcases List.mem_append.1 he with he | he
    · exact Nat.lt_succ_of_lt (h.addr_lt e he)
    · simp only [List.mem_singleton] at he; subst he; exact Nat.lt_succ_self _
  freedOnce a := by simpa [List.count_append] using h.freedOnce a
  notRefreshedAfterFree a hr := by
    rw [alloc_log, refreshedAfterFree_append] at hr
    exact hr.elim (h.notRefreshedAfterFree a) fun ⟨he, _⟩ => by cases he
  live_iff a := by
    rw [alloc_log, live_append, alloc_cache, List.mem_cons]
    by_cases ha : a = pc.next
    · subst ha
      simp [h.free_not_mem]
    · have := h.live_iff a
      simp only [Live] at this
      simp [ha, Ne.symm ha, this]
  injective := h.injective
  owned_not_cached a ha n hl := by
    rcases List.mem_cons.1 ha with rfl | ha
    · exact Nat.lt_irrefl _ (h.lt_of_live (h.live_of_lookup hl))
    · exact h.owned_not_cached a ha n hl
  owned_nodup := List.nodup_cons.2
    ⟨fun hm => Nat.lt_irrefl _ (h.lt_of_live (h.live_of_mem hm)), h.owned_nodup⟩

/-- `refresh` of a live entry. -/
theorem Owns.refreshAt (h : Owns pc owned) (ps : PrintSystem) (env : RefreshEnv) {a : Nat}
    (ha : Live pc.log a) : Owns (pc.refreshAt ppd translatePPD ps env a).2 owned where
  addr_lt e he := by
    rcases List.mem_append.1 he with he | he
    · exact h.addr_lt e he
    · simp only [List.mem_singleton] at he; subst he; exact h.lt_of_live ha
  freedOnce b := by simpa [List.count_append] using h.freedOnce b
  notRefreshedAfterFree b hr := by
    rw [refreshAt_log, refreshedAfterFree_append] at hr
    rcases hr with hr | ⟨he, hf⟩
    · exact h.notRefreshedAfterFree b hr
    · cases he; exact ha.2 hf
  live_iff b := by
    rw [refreshAt_log, live_append, refreshAt_cache, ← h.live_iff b]
    simp [Live]
  injective := h.injective
  owned_not_cached := h.owned_not_cached
  owned_nodup := h.owned_nodup

/-- `free` of an entry the call holds. -/
theorem Owns.free (h : Owns pc owned) {a : Nat} (ha : a ∈ owned) :
    Owns (pc.free a) (owned.erase a) where
  addr_lt e he := by
    rcases List.mem_append.1 he with he | he
    · exact h.addr_lt e he
    · simp only [List.mem_singleton] at he; subst he; exact h.lt_of_live (h.live_of_mem ha)
  freedOnce b := by
    by_cases hb : b = a
    · subst hb
      simp [List.count_append, List.count_eq_zero_of_not_mem (h.live_of_mem ha).2]
    · simpa [List.count_append, List.count_cons, Ne.symm hb] using h.freedOnce b
  notRefreshedAfterFree b hr := by
    rw [free_log, refreshedAfterFree_append] at hr
    exact hr.elim (h.notRefreshedAfterFree b) fun ⟨he, _⟩ => by cases he
  live_iff b := by
    rw [free_log, live_append, free_cache]
    by_cases hb : b = a
    · subst hb
      simp only [ne_eq, not_true_eq_false, and_false, false_iff, not_or, not_exists]
      exact ⟨fun n => h.owned_not_cached b ha n, h.owned_nodup.not_mem_erase⟩
    · rw [List.mem_erase_of_ne hb, ← h.live_iff b]
      simp [Live, Ne.symm hb]
  injective := h.injective
  owned_not_cached b hb := h.owned_not_cached b (List.mem_of_mem_erase hb)
  owned_nodup := h.owned_nodup.erase a

/-- `delete`: the entry under `n` passes from the map to the call. -/
theorem Owns.delete (h : Owns pc owned) {n : String} {a : Nat}
    (hl : pc.cache.lookup n = some a) : Owns (pc.delete n) (a :: owned) where
  addr_lt := h.addr_lt
  freedOnce := h.freedOnce
  notRefreshedAfterFree := h.notRefreshedAfterFree
  live_iff b := by
    rw [delete_log, delete_cache, h.live_iff b, List.mem_cons]
    constructor
    · rintro (⟨n', hl'⟩ | hb)
      · by_cases hn : n' = n
        · subst hn; exact .inr (.inl (Option.some.inj (hl'.symm.trans hl)))
        · exact .inl ⟨n', by rwa [AList.lookup_erase_ne hn]⟩
      · exact .inr (.inr hb)
    · rintro (⟨n', hl'⟩ | rfl | hb)
      · exact .inl ⟨n', AList.lookup_of_lookup_erase hl'⟩
      · exact .inl ⟨n, hl⟩
      · exact .inr hb
  injective n₁ n₂ b h₁ h₂ :=
    h.injective n₁ n₂ b (AList.lookup_of_lookup_erase h₁) (AList.lookup_of_lookup_erase h₂)
  owned_not_cached b hb n' hl' := by
    rcases List.mem_cons.1 hb with rfl | hb
    · have hne : n' ≠ n := by rintro rfl; simp [AList.lookup_erase] at hl'
      exact hne (h.injective _ _ _ (AList.lookup_of_lookup_erase hl') hl)
    · exact h.owned_not_cached b hb n' (AList.lookup_of_lookup_erase hl')
  owned_nodup := List.nodup_cons.2
    ⟨fun hm => h.owned_not_cached a hm n hl, h.owned_nodup⟩

/-- `install`: the call's entry passes to the map, and a displaced entry to the goroutine
that frees it. -/
theorem Owns.install (h : Owns pc owned) {n : String} {a : Nat} (ha : a ∈ owned) :
    Owns (pc.install n a) ((pc.cache.lookup n).toList ++ owned.erase a) where
  addr_lt := by simpa using h.addr_lt
  freedOnce := by simpa using h.freedOnce
  notRefreshedAfterFree := by simpa using h.notRefreshedAfterFree
  live_iff b := by
    simp only [install_log, install_lookup, h.live_iff b, List.mem_append, Option.mem_toList]
    by_cases hb : b = a
    · subst hb
      exact iff_of_true (.inr ha) (.inl ⟨n, by simp⟩)
    · rw [List.mem_erase_of_ne hb]
      constructor
      · rintro (⟨n', hl'⟩ | hb')
        · by_cases hn : n' = n
          · subst hn; exact .inr (.inl (Option.mem_def.2 hl'))
          · exact .inl ⟨n', by simp [hn, hl']⟩
        · exact .inr (.inr hb')
      · rintro (⟨n', hl'⟩ | hb' | hb')
        · split_ifs at hl' with hn
          · exact absurd (Option.some.inj hl').symm hb
          · exact .inl ⟨n', hl'⟩
        · exact .inl ⟨n, hb'⟩
        · exact .inr hb'
  injective n₁ n₂ b h₁ h₂ := by
    simp only [install_lookup] at h₁ h₂
    split_ifs at h₁ h₂ with hn₁ hn₂ hn₂
    · exact hn₁.trans hn₂.symm
    · cases h₁; exact absurd h₂ (h.owned_not_cached _ ha n₂)
    · cases h₂; exact absurd h₁ (h.owned_not_cached _ ha n₁)
    · exact h.injective n₁ n₂ b h₁ h₂
  owned_not_cached b hb n' hl' := by
    simp only [install_lookup] at hl'
    rcases List.mem_append.1 hb with hb | hb
    · have hf : pc.cache.lookup n = some b := Option.mem_toList.1 hb
      split_ifs at hl' with hn
      · cases hl'; exact h.owned_not_cached _ ha n hf
      · exact hn (h.injective _ _ _ hl' hf)
    · obtain ⟨hba, hb⟩ := (h.owned_nodup.mem_erase_iff).1 hb
      split_ifs at hl' with hn
      · exact hba (Option.some.inj hl').symm
      · exact h.owned_not_cached b hb n' hl'
  owned_nodup := by
    refine List.Nodup.append ?_ (h.owned_nodup.erase a) ?_
    · cases pc.cache.lookup n <;> simp
    · intro b hb hb'
      exact h.owned_not_cached b (List.mem_of_mem_erase hb') n (Option.mem_toList.1 hb)

/-- Who holds the entries does not depend on their order. -/
theorem Owns.perm (h : Owns pc owned) {owned' : List Nat} (hp : owned.Perm owned') :
    Owns pc owned' where
  addr_lt := h.addr_lt
  freedOnce := h.freedOnce
  notRefreshedAfterFree := h.notRefreshedAfterFree
  live_iff a := by rw [h.live_iff a, hp.mem_iff]
  injective := h.injective
  owned_not_cached a ha := h.owned_not_cached a (hp.mem_iff.2 ha)
  owned_nodup := hp.nodup_iff.1 h.owned_nodup

/-- Freeing a cached entry and deleting its key, in either order, as `removePPD` and a failed
lookup do. -/
theorem Owns.free_delete (h : Owns pc owned) {n : String} {a : Nat}
    (hl : pc.cache.lookup n = some a) : Owns ((pc.free a).delete n) owned := by
  have := (h.delete hl).free (List.mem_cons_self a owned)
  rwa [List.erase_cons_head] at this

theorem Owns.removePPD (h : Owns pc owned) (n : String) : Owns (removePPD n pc) owned := by
  unfold CupsConnector.removePPD
  split
  · exact h.free_delete ‹_›
  · exact h

theorem Owns.quit (h : Owns pc owned) : Owns (quit pc) owned := by
  unfold CupsConnector.quit
  have hmem : ∀ e ∈ pc.cache.entries, pc.cache.lookup e.1 = some e.2 :=
    fun e he => AList.mem_lookup_iff.2 he
  have hkeys : (pc.cache.entries.map Sigma.fst).Nodup := pc.cache.nodupKeys
  generalize pc.cache.entries = l at hmem hkeys
  induction l generalizing pc with
  | nil => exact h
  | cons e l ih =>
    simp only [List.map_cons, List.nodup_cons, List.mem_map] at hkeys
    refine ih (h.free_delete (hmem e (List.mem_cons_self e l))) (fun e' he' => ?_) hkeys.2
    have hne : e'.1 ≠ e.1 := fun hk => hkeys.1 ⟨e', he', hk⟩
    simpa [AList.lookup_erase_ne hne] using hmem e' (List.mem_cons_of_mem e he')

/-- One lookup, run without interruption, keeps the discipline: whatever fails, the entry it
created is freed once, and a displaced entry is freed. -/
theorem Owns.getPPDCacheEntry [Inhabited δ] (h : Owns pc []) (ps : PrintSystem) (env : LookupEnv)
    (n : String) : Owns (getPPDCacheEntry ppd translatePPD ps env n pc).2 [] := by
  unfold CupsConnector.getPPDCacheEntry
  split
  · split
    · exact h
    · rename_i pce _
      dsimp only
      have hA := h.alloc pce
      have hR := hA.refreshAt ppd translatePPD ps env.refresh
        (hA.live_of_mem (List.mem_cons_self _ _))
      split
      · rename_i pc' hr
        rw [hr] at hR
        simpa using hR.free (List.mem_cons_self _ _)
      · rename_i pc' hr
        rw [hr] at hR
        dsimp only at hR
        have hI := hR.install (n := n) (List.mem_cons_self _ _)
        cases hf : pc'.cache.lookup n with
        | none => rw [hf] at hI; simpa using hI
        | some f => rw [hf] at hI; simpa using hI.free (a := f) (by simp)
  · rename_i a hl
    have hR := h.refreshAt ppd translatePPD ps env.refresh (h.live_of_lookup hl)
    split
    · rename_i pc' hr
      rw [hr] at hR
      have hc : pc'.cache = pc.cache := by
        simpa using (congrArg (fun x => x.2.cache) hr).symm
      exact hR.free_delete (hc ▸ hl)
    · rename_i pc' hr
      rw [hr] at hR
      exact hR

theorem Owns.runCall [Inhabited δ] (h : Owns pc []) (c : Call) :
    Owns (runCall ppd translatePPD c pc) [] := by
  cases c with
  | getPPDCacheEntry n ps env => exact h.getPPDCacheEntry ppd translatePPD ps env n
  | removePPD n => exact h.removePPD n
  | quit => exact h.quit

theorem Owns.run [Inhabited δ] (h : Owns pc []) (calls : List Call) :
    Owns (run ppd translatePPD calls pc) [] := by
  induction calls generalizing pc with
  | nil => exact h
  | cons c calls ih => exact ih (h.runCall ppd translatePPD c)

end Owns

theorem newPPDCache_owns [Inhabited δ] : Owns (newPPDCache : PPDCache δ) [] where
  addr_lt e he := by simp [newPPDCache] at he
  freedOnce a := by simp [newPPDCache]
  notRefreshedAfterFree a := by rintro ⟨pre, post, hlog, -⟩; simp [newPPDCache] at hlog
  live_iff a := by simp [newPPDCache, Live, AList.lookup_empty]
  injective n n' a hl := by simp [newPPDCache, AList.lookup_empty] at hl
  owned_not_cached a ha := by simp at ha
  owned_nodup := List.nodup_nil

/-- **Sequential runs keep each entry's lifecycle.** After any sequential run of calls, with any
faults, no entry has been freed twice or refreshed after its free, and the entries created
and not freed are exactly the cached ones. -/
theorem run_lifecycle [Inhabited δ] (calls : List Call) :
    (∀ a, (run ppd translatePPD calls (newPPDCache : PPDCache δ)).log.count (.free a) ≤ 1) ∧
      (∀ a, ¬RefreshedAfterFree (run ppd translatePPD calls (newPPDCache : PPDCache δ)).log a) ∧
      ∀ a, Live (run ppd translatePPD calls (newPPDCache : PPDCache δ)).log a ↔
        ∃ n, (run ppd translatePPD calls (newPPDCache : PPDCache δ)).cache.lookup n = some a := by
  have h := (newPPDCache_owns : Owns (newPPDCache : PPDCache δ) []).run ppd translatePPD calls
  exact ⟨h.freedOnce, h.notRefreshedAfterFree, fun a => by simpa using h.live_iff a⟩


/-- A document text that names its printer and stamp. -/
def samplePPD (n : String) (s : Nat) : String := n ++ ":" ++ toString s

/-- A translation that always parses, with the text's length as the description. -/
def sampleTranslatePPD (text : String) : Option Nat × String × String := (some text.length, "Acme", text)

/-- A print system whose printers all have the document with stamp `s`. -/
def uniformPrintSystem (s : Nat) (hs : s ≠ 0) : PrintSystem := ⟨fun _ => s, fun _ => hs⟩

/-- A lookup in which nothing fails and CUPS answers with `reply`. -/
def faultlessEnv (reply : GetPPDReply) : LookupEnv := ⟨none, ⟨reply, none, none, none⟩⟩

/-- A fetch of `p` at stamp 1, a fetch and a removal of `r`, and a lookup of `q` whose copy
fails. The cache ends with entry 0 under `p`, at stamp 1. -/
def sampleCalls : List Call :=
  [.getPPDCacheEntry "p" (uniformPrintSystem 1 Nat.one_ne_zero) (faultlessEnv .fetched),
    .getPPDCacheEntry "r" (uniformPrintSystem 1 Nat.one_ne_zero) (faultlessEnv .fetched),
    .removePPD "r",
    .getPPDCacheEntry "q" (uniformPrintSystem 2 (Nat.succ_ne_zero 1)) ⟨none, ⟨.fetched, none, none, some "EIO"⟩⟩]

/-- A lookup of `p` that hits entry 0 after the document changed to stamp 2: the refresh fetches
and translates the new document. -/
theorem getPPDCacheEntry_translatePPD_sample :
    (run samplePPD sampleTranslatePPD sampleCalls newPPDCache).cache.lookup "p" = some 0 ∧
    (getPPDCacheEntry samplePPD sampleTranslatePPD (uniformPrintSystem 2 (Nat.succ_ne_zero 1))
        (faultlessEnv .fetched) "p" (run samplePPD sampleTranslatePPD sampleCalls newPPDCache)).1 =
      .ok (3, "Acme", "p:2") ∧
    sampleTranslatePPD (samplePPD "p" ((uniformPrintSystem 2 (Nat.succ_ne_zero 1)).stamp "p")) =
      (some 3, "Acme", "p:2") ∧ "Acme" ≠ "" ∧ "p:2" ≠ "" := by
  have h : (getPPDCacheEntry samplePPD sampleTranslatePPD (uniformPrintSystem 2 (Nat.succ_ne_zero 1))
      (faultlessEnv .fetched) "p" (run samplePPD sampleTranslatePPD sampleCalls newPPDCache)).1 =
      .ok (3, "Acme", "p:2") := rfl
  exact ⟨rfl, h, getPPDCacheEntry_translatePPD samplePPD sampleTranslatePPD sampleCalls _ _ _ h⟩

theorem getPPDCacheEntry_notModified_sample :
    (getPPDCacheEntry samplePPD sampleTranslatePPD (uniformPrintSystem 2 (Nat.succ_ne_zero 1))
        (faultlessEnv .fetched) "p" (run samplePPD sampleTranslatePPD sampleCalls newPPDCache)).1 =
      .ok (3, "Acme", "p:2") ∧
    (faultlessEnv .notModified).refresh.getPPD = .notModified ∧
    (getPPDCacheEntry samplePPD sampleTranslatePPD (uniformPrintSystem 2 (Nat.succ_ne_zero 1))
        (faultlessEnv .notModified) "p"
        (getPPDCacheEntry samplePPD sampleTranslatePPD (uniformPrintSystem 2 (Nat.succ_ne_zero 1))
          (faultlessEnv .fetched) "p" (run samplePPD sampleTranslatePPD sampleCalls newPPDCache)).2).1 =
      .ok (3, "Acme", "p:2") := by
  have h : (getPPDCacheEntry samplePPD sampleTranslatePPD (uniformPrintSystem 2 (Nat.succ_ne_zero 1))
      (faultlessEnv .fetched) "p" (run samplePPD sampleTranslatePPD sampleCalls newPPDCache)).1 =
      .ok (3, "Acme", "p:2") := rfl
  exact ⟨h, rfl, getPPDCacheEntry_notModified samplePPD sampleTranslatePPD sampleCalls _ _ _ _ h rfl⟩

end CupsConnector
