import CupsConnector.Cups.PPDCache

/-!
# The PPD cache under concurrent calls (`cups/ppdcache.go`)

Each call on the cache runs as a thread, and a schedule picks which thread takes its next
atomic step. A step is one access to `pc.cache`, one method of one entry under that entry's
mutex (`refresh`, `free`, `getFields`), the creation of an entry, or taking `cacheMutex`.

* `Pc`: where a call stands, with the locals it holds. `removePPD`, `quit` and the store at
  lines 86-96 take `cacheMutex` and then access the map one step at a time. The delete at
  line 100 takes no lock, so it can run between any two of those steps. `go firstPCE.free()`
  starts a thread of its own.
* `Pc.holdsLock`, `Pc.needsLock`: `cacheMutex` is held exactly while a call is between its
  `Lock` and its deferred `Unlock`. A call at `RLock` (line 72) or `Lock` (lines 51, 62, 86)
  waits while another call holds it. The read at lines 72-74 is one step, so the read lock is
  never held across steps.
* `stepPc`, `step`, `runSchedule`: the steps are those of `CupsConnector.Cups.PPDCache`.
* `ppdCache_stale_lookup_race`: a lookup that read an entry before a `removePPD` freed it
  refreshes the freed entry. When that refresh fails, its unlocked delete removes the entry
  that a third call stored in the meantime, and it frees the old entry a second time. The run
  ends with no call pending and a live entry that the map no longer holds.
-/

namespace CupsConnector

namespace PPDCache

variable {δ : Type}

/-- `pc.cache[printername] = pce` (line 94): the entry at `a` is stored under `n`. -/
def write (n : String) (a : Nat) (pc : PPDCache δ) : PPDCache δ :=
  { pc with cache := pc.cache.insert n a }

variable (pc : PPDCache δ)

@[simp] theorem write_cache (n : String) (a : Nat) :
    (pc.write n a).cache = pc.cache.insert n a := rfl
@[simp] theorem write_heap (n : String) (a : Nat) : (pc.write n a).heap = pc.heap := rfl
@[simp] theorem write_next (n : String) (a : Nat) : (pc.write n a).next = pc.next := rfl
@[simp] theorem write_log (n : String) (a : Nat) : (pc.write n a).log = pc.log := rfl

/-- Where the map holds nothing under `n`, the write is the store of `install`. -/
theorem install_of_lookup_eq_none {n : String} (a : Nat) (h : pc.cache.lookup n = none) :
    pc.install n a = pc.write n a := by
  simp [install, h, write]

end PPDCache

/-- Where one call on the cache stands. -/
inductive Pc
  /-- `getPPDCacheEntry(n)`, at its read of `pc.cache` under the read lock (lines 72-74). -/
  | lookup (n : String)
  /-- `createPPDCacheEntry` (line 77). -/
  | create (n : String)
  /-- `pce.refresh` of its new entry (line 81). -/
  | refreshNew (n : String) (a : Nat)
  /-- `pce.free` of its new entry after a failed refresh (line 82). -/
  | freeNew (a : Nat)
  /-- `pc.cacheMutex.Lock()` before the store (line 86). -/
  | storeLock (n : String) (a : Nat)
  /-- The read of `pc.cache[printername]` (line 89). -/
  | storeRead (n : String) (a : Nat)
  /-- The delete of an entry that a racing call stored (line 91), and `go firstPCE.free()`
  (line 92). -/
  | storeDelete (n : String) (a firstPCE : Nat)
  /-- The write (line 94), `getFields` and the deferred `Unlock` (lines 95-96). -/
  | storeWrite (n : String) (a : Nat)
  /-- `pce.refresh` of the entry it read (line 99). -/
  | refreshOld (n : String) (a : Nat)
  /-- `delete(pc.cache, printername)` without the lock (line 100). -/
  | deleteOld (n : String) (a : Nat)
  /-- `pce.free` of the entry it read (line 101). -/
  | freeOld (a : Nat)
  /-- `pce.getFields` of the entry it read (line 104). -/
  | getFields (a : Nat)
  /-- `removePPD(n)`, at `pc.cacheMutex.Lock()` (line 62). -/
  | removePPD (n : String)
  /-- The read of `pc.cache[printername]` (line 65); without an entry, the deferred `Unlock`. -/
  | removeRead (n : String)
  /-- `pce.free()` (line 66). -/
  | removeFree (n : String) (a : Nat)
  /-- `delete(pc.cache, printername)` (line 67) and the deferred `Unlock`. -/
  | removeDelete (n : String)
  /-- `quit`, at `pc.cacheMutex.Lock()` (line 51). -/
  | quit
  /-- The `range` of line 54 takes its next entry; with none left, the deferred `Unlock`. -/
  | quitNext
  /-- `pce.free()` (line 55). -/
  | quitFree (n : String) (a : Nat)
  /-- `delete(pc.cache, printername)` (line 56). -/
  | quitDelete (n : String)
  /-- The goroutine `go firstPCE.free()` (line 92). -/
  | asyncFree (a : Nat)
  deriving DecidableEq, Repr

/-- The call holds `cacheMutex`: it is between its `Lock` and the deferred `Unlock`. -/
def Pc.holdsLock : Pc → Bool
  | .storeRead .. | .storeDelete .. | .storeWrite .. | .removeRead _ | .removeFree .. |
    .removeDelete _ | .quitNext | .quitFree .. | .quitDelete _ => true
  | _ => false

/-- The call's next step takes `cacheMutex`: `RLock` at line 72, `Lock` at lines 51, 62, 86. -/
def Pc.needsLock : Pc → Bool
  | .lookup _ | .storeLock .. | .removePPD _ | .quit => true
  | _ => false

/-- The cache and the calls on it that have not returned. -/
structure Sys (δ : Type) where
  cache : PPDCache δ
  threads : List Pc

/-- Some call holds `cacheMutex`. -/
def Sys.locked {δ : Type} (s : Sys δ) : Bool := s.threads.any Pc.holdsLock

variable {δ : Type} [Inhabited δ] (ppd : String → Nat → String)
  (translatePPD : String → Option δ × String × String)

open PPDCache

/-- One atomic step of a call that does not wait for the lock: the threads that carry it on
(none once it returns), and the cache after the step. The `range` of `quit` takes the map's
entries in the order of the association list; Go leaves that order unspecified. -/
def stepPc (ps : PrintSystem) (env : LookupEnv) : Pc → PPDCache δ → List Pc × PPDCache δ
  | .lookup n, pc =>
    match pc.cache.lookup n with
    | none => ([.create n], pc)
    | some a => ([.refreshOld n a], pc)
  | .create n, pc =>
    match createPPDCacheEntry env.tempFileErr n with
    | .error _ => ([], pc)
    | .ok pce => ([.refreshNew n pc.next], pc.alloc pce)
  | .refreshNew n a, pc =>
    match pc.refreshAt ppd translatePPD ps env.refresh a with
    | (some _, pc) => ([.freeNew a], pc)
    | (none, pc) => ([.storeLock n a], pc)
  | .freeNew a, pc => ([], pc.free a)
  | .storeLock n a, pc => ([.storeRead n a], pc)
  | .storeRead n a, pc =>
    match pc.cache.lookup n with
    | some firstPCE => ([.storeDelete n a firstPCE], pc)
    | none => ([.storeWrite n a], pc)
  | .storeDelete n a firstPCE, pc => ([.storeWrite n a, .asyncFree firstPCE], pc.delete n)
  | .storeWrite n a, pc => ([], pc.write n a)
  | .refreshOld n a, pc =>
    match pc.refreshAt ppd translatePPD ps env.refresh a with
    | (some _, pc) => ([.deleteOld n a], pc)
    | (none, pc) => ([.getFields a], pc)
  | .deleteOld n a, pc => ([.freeOld a], pc.delete n)
  | .freeOld a, pc => ([], pc.free a)
  | .getFields _, pc => ([], pc)
  | .removePPD n, pc => ([.removeRead n], pc)
  | .removeRead n, pc =>
    match pc.cache.lookup n with
    | some a => ([.removeFree n a], pc)
    | none => ([], pc)
  | .removeFree n a, pc => ([.removeDelete n], pc.free a)
  | .removeDelete n, pc => ([], pc.delete n)
  | .quit, pc => ([.quitNext], pc)
  | .quitNext, pc =>
    match pc.cache.entries with
    | [] => ([], pc)
    | ⟨n, a⟩ :: _ => ([.quitFree n a], pc)
  | .quitFree n a, pc => ([.quitDelete n], pc.free a)
  | .quitDelete n, pc => ([.quitNext], pc.delete n)
  | .asyncFree a, pc => ([], pc.free a)

/-- Thread `i` takes one step, its continuations taking its place. Without a thread `i`, or
while thread `i` waits for a lock that another call holds, nothing happens. -/
def step (ps : PrintSystem) (s : Sys δ) (i : Nat) (env : LookupEnv) : Sys δ :=
  match s.threads[i]? with
  | none => s
  | some p =>
    if p.needsLock && s.locked then s
    else
      let r := stepPc ppd translatePPD ps env p s.cache
      ⟨r.2, s.threads.take i ++ r.1 ++ s.threads.drop (i + 1)⟩

/-- A schedule: which thread steps, with the print system as it is at that step and the
environment's choices for the step. -/
def runSchedule (sched : List (Nat × PrintSystem × LookupEnv)) (s : Sys δ) : Sys δ :=
  sched.foldl (fun s x => step ppd translatePPD x.2.1 s x.1 x.2.2) s

/-! ### A lookup that outlives its entry -/

/-- A refresh whose copy target is gone: `os.OpenFile` without `O_CREATE` fails once `free`
has removed the entry's temporary file. -/
def openFileFails : LookupEnv := ⟨none, ⟨.fetched, none, some "no such file or directory", none⟩⟩

/-- Two lookups of `p`, a removal of `p` and a third lookup of `p`. -/
def staleLookupStart : Sys Nat :=
  ⟨newPPDCache, [.lookup "p", .lookup "p", .removePPD "p", .lookup "p"]⟩

/-- The first lookup stores entry 0 in six steps. The second reads entry 0. `removePPD` takes
the lock, reads, frees entry 0 and deletes `p`. The third lookup stores entry 1 in six steps.
Then the second lookup refreshes entry 0, which fails, deletes `p` from the map without the
lock, and frees entry 0. When that refresh and that delete run, the map holds entry 1 under
`p`. -/
def staleLookupSchedule : List (Nat × PrintSystem × LookupEnv) :=
  let ok := (uniformPrintSystem 1 Nat.one_ne_zero, faultlessEnv .fetched)
  List.replicate 7 (0, ok) ++ List.replicate 10 (1, ok) ++
    [(0, uniformPrintSystem 1 Nat.one_ne_zero, openFileFails), (0, ok), (0, ok)]

/-- The system at the end of `staleLookupSchedule`. -/
def staleLookupRun : Sys Nat :=
  runSchedule samplePPD sampleTranslatePPD staleLookupSchedule staleLookupStart

/-- **A stale lookup frees twice and leaks.** At the end of the schedule no call is pending.
Entry 0 has been freed twice and refreshed after its first free. Entry 1 is live, but the map
is empty. -/
theorem ppdCache_stale_lookup_race :
    staleLookupRun.threads = [] ∧ staleLookupRun.cache.log.count (.free 0) = 2 ∧
      RefreshedAfterFree staleLookupRun.cache.log 0 ∧ Live staleLookupRun.cache.log 1 ∧
      staleLookupRun.cache.cache.entries = [] :=
  ⟨by decide, by decide,
    ⟨[.alloc 0, .refresh 0], [.alloc 1, .refresh 1, .refresh 0, .free 0], by decide, by decide⟩,
    by decide, by decide⟩

end CupsConnector
