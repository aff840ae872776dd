import CupsConnector.Cups.PPDCacheConcurrent
import Mathlib.Data.List.Nodup

/-!
# Who holds each cache entry under concurrent lookups (`cups/ppdcache.go`)

`Owns` of the sequential model, with the entries that the pending lookups hold. A step of a
lookup keeps it when the map holds what the step expects (`Pc.Expects`). The refresh and the
unlocked delete at lines 99-100 expect the entry read at lines 72-74, the delete at line 91
expects the entry read at line 89, and the write at line 94 expects nothing under its printer.
`ppdCache_stale_lookup_race` breaks the first of these.

* `Pc.owned`, `Pc.Expects`, `Sys.Owns`: each pending lookup holds the entries it created or took
  out of the map; `Owns.stepPc` and `Sys.Owns.step` are the step lemmas.
* `Sys.Distinct`: lookups of pairwise distinct printers. Each changes the map only under its own
  printer, so every step keeps what the others expect.
* `Sys.MissPair`: two lookups of a printer that the map does not hold, neither holding a
  reference. At most one of them holds `cacheMutex`, so the second store waits until the first
  has written; then the calls are on distinct printers.
* `runSchedule_lifecycle_two_lookups`: two lookups of one printer never race.
-/

namespace CupsConnector

variable {δ : Type}

open PPDCache

/-! ### What a pending lookup holds and expects -/

/-- A step of `getPPDCacheEntry` or of the goroutine it starts, not of `removePPD` or `quit`. -/
def Pc.onLookup : Pc → Bool
  | .removePPD _ | .removeRead _ | .removeFree .. | .removeDelete _ | .quit | .quitNext |
    .quitFree .. | .quitDelete _ => false
  | _ => true

/-- The entries a call holds and the map does not: its new entry until the write, the entry it
took out of the map at line 100, and the displaced entry of the freeing goroutine. -/
def Pc.owned : Pc → List Nat
  | .refreshNew _ a | .freeNew a | .storeLock _ a | .storeRead _ a | .storeDelete _ a _ |
    .storeWrite _ a | .freeOld a | .asyncFree a => [a]
  | _ => []

/-- The call holds a reference that it read from the map: at lines 72-74 for lines 99-100, or at
line 89 for line 91. -/
def Pc.hit : Pc → Bool
  | .refreshOld .. | .deleteOld .. | .storeDelete .. => true
  | _ => false

/-- What the call's next step expects of the map: the entry it read, still under the name it
read it under, or nothing under its printer before the write of line 94. -/
def Pc.Expects (pc : PPDCache δ) : Pc → Prop
  | .refreshOld n a | .deleteOld n a | .storeDelete n _ a => pc.cache.lookup n = some a
  | .storeWrite n _ => pc.cache.lookup n = none
  | _ => True

/-- The steps that write the map: the deletes at lines 56, 67, 91 and 100, and the write at
line 94. -/
def Pc.writesMap : Pc → Bool
  | .storeDelete .. | .storeWrite .. | .deleteOld .. | .removeDelete _ | .quitDelete _ => true
  | _ => false

/-- The printer a call is about. The frees, `getFields` and `quit` name none. -/
def Pc.name : Pc → Option String
  | .lookup n | .create n | .refreshNew n _ | .storeLock n _ | .storeRead n _ |
    .storeDelete n _ _ | .storeWrite n _ | .refreshOld n _ | .deleteOld n _ | .removePPD n |
    .removeRead n | .removeFree n _ | .removeDelete n => some n
  | _ => none

/-- What a call expects depends only on the map under its printer. -/
theorem Pc.expects_congr {p : Pc} {pc pc' : PPDCache δ}
    (h : ∀ n, p.name = some n → pc'.cache.lookup n = pc.cache.lookup n) (hp : p.Expects pc) :
    p.Expects pc' := by
  cases p <;> simp_all [Pc.Expects, Pc.name]

/-- A call that holds no reference and not the lock expects nothing. -/
theorem Pc.expects_of_not_hit {p : Pc} (hh : p.hit = false) (hl : p.holdsLock = false)
    (pc : PPDCache δ) : p.Expects pc := by
  cases p <;> simp_all [Pc.Expects, Pc.hit, Pc.holdsLock]

theorem filterMap_name_cons (p : Pc) (l : List Pc) :
    (p :: l).filterMap Pc.name = p.name.toList ++ l.filterMap Pc.name := by
  cases h : p.name <;> simp [List.filterMap_cons, h]

/-! ### One step of a lookup -/

variable [Inhabited δ] (ppd : String → Nat → String)
  (translatePPD : String → Option δ × String × String)

section Step

variable (ps : PrintSystem) (env : LookupEnv) (p : Pc) (pc : PPDCache δ)

/-- A step's continuations are about the call's own printer, or about none. -/
theorem stepPc_names :
    ((stepPc ppd translatePPD ps env p pc).1.filterMap Pc.name).Sublist p.name.toList := by
  cases p <;> simp only [stepPc] <;> (try split) <;> simp [Pc.name]

/-- A lookup's continuations are steps of lookups. -/
theorem stepPc_onLookup (hl : p.onLookup) :
    ∀ q ∈ (stepPc ppd translatePPD ps env p pc).1, q.onLookup := by
  cases p <;> simp only [stepPc] <;> (try split) <;> simp_all [Pc.onLookup]

/-- A step hands `cacheMutex` to at most one continuation, and to none unless the call holds
the lock or takes it. -/
theorem stepPc_countP_holdsLock :
    (stepPc ppd translatePPD ps env p pc).1.countP Pc.holdsLock ≤
      (p.holdsLock || p.needsLock).toNat := by
  cases p <;> simp only [stepPc, Pc.holdsLock, Pc.needsLock] <;> (try split) <;>
    simp [Pc.holdsLock]

/-- Only the steps that write the map change it: a refresh changes the entry, not the map. -/
theorem stepPc_cache_of_not_writesMap (hw : p.writesMap = false) :
    (stepPc ppd translatePPD ps env p pc).2.cache = pc.cache := by
  cases p with
  | refreshNew n a | refreshOld n a =>
    have hc := refreshAt_cache ppd translatePPD pc ps env.refresh a
    rcases hr : pc.refreshAt ppd translatePPD ps env.refresh a with ⟨_ | _, pc'⟩ <;>
      rw [hr] at hc <;> simpa [stepPc, hr] using hc
  | _ => simp only [stepPc] <;> (try split) <;> simp_all [Pc.writesMap]

/-- A step of a lookup that holds neither a reference nor the lock leaves the map alone. -/
theorem stepPc_cache_eq (hl : p.onLookup) (hh : p.hit = false) (hk : p.holdsLock = false) :
    (stepPc ppd translatePPD ps env p pc).2.cache = pc.cache :=
  stepPc_cache_of_not_writesMap ppd translatePPD ps env p pc
    (by cases p <;> simp_all [Pc.onLookup, Pc.hit, Pc.holdsLock, Pc.writesMap])

/-- A step of a lookup changes the map only under the call's own printer. -/
theorem stepPc_lookup_ne (hl : p.onLookup) {k : String} (hk : p.name ≠ some k) :
    (stepPc ppd translatePPD ps env p pc).2.cache.lookup k = pc.cache.lookup k := by
  cases hw : p.writesMap
  · rw [stepPc_cache_of_not_writesMap ppd translatePPD ps env p pc hw]
  · cases p <;> simp_all [Pc.writesMap, Pc.onLookup, Pc.name, stepPc, AList.lookup_erase_ne,
      AList.lookup_insert_ne, eq_comm]

/-- A step hands its continuations what they expect: a read hands on the entry the map holds,
a refresh leaves the map alone, and the delete of line 91 clears the printer for the write. -/
theorem stepPc_expects (hp : p.Expects pc) :
    ∀ q ∈ (stepPc ppd translatePPD ps env p pc).1,
      q.Expects (stepPc ppd translatePPD ps env p pc).2 := by
  cases p with
  | lookup n => cases hl : pc.cache.lookup n <;> simp [stepPc, hl, Pc.Expects]
  | storeRead n a => cases hl : pc.cache.lookup n <;> simp [stepPc, hl, Pc.Expects]
  | storeDelete n a f => simp [stepPc, Pc.Expects, AList.lookup_erase]
  | refreshOld n a =>
    have hc := refreshAt_cache ppd translatePPD pc ps env.refresh a
    simp only [stepPc]
    rcases hr : pc.refreshAt ppd translatePPD ps env.refresh a with ⟨_ | _, pc'⟩ <;>
      simp_all [Pc.Expects]
  | _ => simp only [stepPc]; (try split) <;> simp [Pc.Expects]

/-- **One step of one lookup keeps the ownership.** The call holds `p.owned` and the other
calls `rest`. If the map holds what the step expects, the continuations hold their entries
afterwards, and the other calls still hold `rest`. -/
theorem Owns.stepPc {rest : List Nat} (h : Owns pc (p.owned ++ rest)) (hl : p.onLookup)
    (hp : p.Expects pc) :
    Owns (stepPc ppd translatePPD ps env p pc).2
      ((stepPc ppd translatePPD ps env p pc).1.flatMap Pc.owned ++ rest) := by
  have hmem : ∀ a, a ∈ [a] ++ rest := fun a => List.mem_cons_self a rest
  cases p with
  | lookup n => cases hl : pc.cache.lookup n <;> simpa [CupsConnector.stepPc, hl, Pc.owned] using h
  | create n =>
    cases hc : (createPPDCacheEntry env.tempFileErr n : Except String (PPDCacheEntry δ)) with
    | error _ => simpa [CupsConnector.stepPc, hc, Pc.owned] using h
    | ok pce => simpa [CupsConnector.stepPc, hc, Pc.owned] using h.alloc pce
  | refreshNew n a =>
    have hR := h.refreshAt ppd translatePPD ps env.refresh (h.live_of_mem (hmem a))
    rcases hr : pc.refreshAt ppd translatePPD ps env.refresh a with ⟨_ | _, pc'⟩ <;>
      rw [hr] at hR <;> simpa [CupsConnector.stepPc, hr, Pc.owned] using hR
  | freeNew a | freeOld a | asyncFree a =>
    simpa [CupsConnector.stepPc, Pc.owned] using h.free (hmem a)
  | storeLock n a => simpa [CupsConnector.stepPc, Pc.owned] using h
  | storeRead n a =>
    cases hl : pc.cache.lookup n <;> simpa [CupsConnector.stepPc, hl, Pc.owned] using h
  | storeDelete n a f =>
    refine (h.delete (a := f) hp).perm ?_
    simpa [CupsConnector.stepPc, Pc.owned] using List.Perm.swap a f rest
  | storeWrite n a =>
    have hI := h.install (n := n) (hmem a)
    have hp : pc.cache.lookup n = none := hp
    rw [install_of_lookup_eq_none _ _ hp] at hI
    simpa [CupsConnector.stepPc, Pc.owned, hp] using hI
  | refreshOld n a =>
    have hR := h.refreshAt ppd translatePPD ps env.refresh (h.live_of_lookup hp)
    rcases hr : pc.refreshAt ppd translatePPD ps env.refresh a with ⟨_ | _, pc'⟩ <;>
      rw [hr] at hR <;> simpa [CupsConnector.stepPc, hr, Pc.owned] using hR
  | deleteOld n a => simpa [CupsConnector.stepPc, Pc.owned] using h.delete hp
  | getFields a => simpa [CupsConnector.stepPc, Pc.owned] using h
  | _ => cases hl

end Step

/-! ### Steps of the system -/

/-- The cache's ownership, each pending call holding its entries. -/
def Sys.Owns (s : Sys δ) : Prop := CupsConnector.Owns s.cache (s.threads.flatMap Pc.owned)

/-- A list around its `i`-th element. -/
theorem eq_take_cons_drop {α : Type} {l : List α} {i : Nat} {x : α} (h : l[i]? = some x) :
    l = l.take i ++ x :: l.drop (i + 1) := by
  obtain ⟨hlt, rfl⟩ := List.getElem?_eq_some_iff.1 h
  rw [← List.drop_eq_getElem_cons hlt, List.take_append_drop]

/-- The threads after thread `i` steps: its continuations in its place. -/
theorem step_eq (ps : PrintSystem) (env : LookupEnv) {s : Sys δ} {i : Nat} {p : Pc}
    (hp : s.threads[i]? = some p) :
    step ppd translatePPD ps s i env = s ∨
      step ppd translatePPD ps s i env =
        ⟨(stepPc ppd translatePPD ps env p s.cache).2,
          s.threads.take i ++ (stepPc ppd translatePPD ps env p s.cache).1 ++
            s.threads.drop (i + 1)⟩ ∧ (p.needsLock && s.locked) = false := by
  unfold CupsConnector.step
  simp only [hp]
  split
  · exact .inl rfl
  · exact .inr ⟨rfl, eq_false_of_ne_true ‹_›⟩

/-- **A step keeps the ownership** when the stepping thread is a lookup and the map holds what
its step expects. -/
theorem Sys.Owns.step {s : Sys δ} (h : s.Owns) {i : Nat}
    (hi : ∀ p ∈ s.threads[i]?, p.onLookup ∧ p.Expects s.cache) (ps : PrintSystem)
    (env : LookupEnv) : (step ppd translatePPD ps s i env).Owns := by
  cases hp : s.threads[i]? with
  | none => simpa [CupsConnector.step, hp] using h
  | some p =>
    rcases step_eq ppd translatePPD ps env hp with he | ⟨he, -⟩ <;> rw [he]
    · exact h
    have hsplit : (s.threads.flatMap Pc.owned).Perm
        (p.owned ++ ((s.threads.take i).flatMap Pc.owned ++
          (s.threads.drop (i + 1)).flatMap Pc.owned)) := by
      conv_lhs => rw [eq_take_cons_drop hp]
      rw [List.flatMap_append, List.flatMap_cons]
      exact List.perm_append_comm_assoc _ _ _
    have hS := (Owns.perm h hsplit).stepPc ppd translatePPD ps env p s.cache (hi p hp).1 (hi p hp).2
    refine hS.perm ?_
    rw [List.flatMap_append, List.flatMap_append, List.append_assoc]
    exact (List.perm_append_comm_assoc _ _ _).symm

/-- The entries' lifecycle: no entry freed twice or refreshed after its free, and once no call
is pending, the live entries are the cached ones. -/
def Sys.Lifecycle (s : Sys δ) : Prop :=
  (∀ a, s.cache.log.count (.free a) ≤ 1) ∧ (∀ a, ¬RefreshedAfterFree s.cache.log a) ∧
    (s.threads = [] → ∀ a, Live s.cache.log a ↔ ∃ n, s.cache.cache.lookup n = some a)

omit [Inhabited δ] in
theorem Sys.Owns.lifecycle {s : Sys δ} (h : s.Owns) : s.Lifecycle :=
  ⟨h.freedOnce, h.notRefreshedAfterFree, fun hnil a => by
    simpa [hnil] using CupsConnector.Owns.live_iff h a⟩

/-! ### Lookups of distinct printers -/

/-- Two calls at different places of a list without repeated printers are about different
printers. -/
theorem name_ne_of_nodup {A B : List Pc} {p q : Pc} {m : String}
    (hnd : ((A ++ p :: B).filterMap Pc.name).Nodup) (hq : q ∈ A ∨ q ∈ B)
    (hm : q.name = some m) : p.name ≠ some m := by
  intro hp
  rw [List.filterMap_append, List.filterMap_cons, hp, List.nodup_middle, List.nodup_cons,
    List.mem_append] at hnd
  exact hnd.1 (hq.imp (fun h => List.mem_filterMap.2 ⟨q, h, hm⟩)
    (fun h => List.mem_filterMap.2 ⟨q, h, hm⟩))

/-- A member of the threads after a step: one of the others, or a continuation. -/
theorem mem_splice {l c : List Pc} {i : Nat} {q : Pc} (hq : q ∈ l.take i ++ c ++ l.drop (i + 1)) :
    (q ∈ l.take i ∨ q ∈ l.drop (i + 1)) ∨ q ∈ c := by
  simp only [List.mem_append] at hq
  tauto

theorem mem_of_mem_take_or_drop {l : List Pc} {i : Nat} {q : Pc}
    (hq : q ∈ l.take i ∨ q ∈ l.drop (i + 1)) : q ∈ l :=
  hq.elim List.mem_of_mem_take List.mem_of_mem_drop

/-- After a step of a lookup among lookups, every thread is a lookup. -/
theorem onLookup_splice {l : List Pc} {i : Nat} {p : Pc} (hall : ∀ q ∈ l, q.onLookup)
    (hp : l[i]? = some p) (ps : PrintSystem) (env : LookupEnv) (pc : PPDCache δ) :
    ∀ q ∈ l.take i ++ (stepPc ppd translatePPD ps env p pc).1 ++ l.drop (i + 1), q.onLookup :=
  fun q hq => (mem_splice hq).elim (fun hq => hall q (mem_of_mem_take_or_drop hq))
    (stepPc_onLookup ppd translatePPD ps env p pc (hall p (List.getElem?_mem hp)) q)

/-- Lookups of pairwise distinct printers, each expecting what the map holds. -/
structure Sys.Distinct (s : Sys δ) : Prop where
  names_nodup : (s.threads.filterMap Pc.name).Nodup
  onLookup : ∀ p ∈ s.threads, p.onLookup
  expects : ∀ p ∈ s.threads, p.Expects s.cache

/-- **A step keeps the lookups of distinct printers.** The stepping call changes the map only
under its own printer, which no other call is about. -/
theorem Sys.Distinct.step {s : Sys δ} (h : s.Distinct) (ps : PrintSystem) (i : Nat)
    (env : LookupEnv) : (step ppd translatePPD ps s i env).Distinct := by
  cases hp : s.threads[i]? with
  | none => simpa [CupsConnector.step, hp] using h
  | some p =>
    rcases step_eq ppd translatePPD ps env hp with he | ⟨he, -⟩ <;> rw [he]
    · exact h
    have hmem := List.getElem?_mem hp
    have hnd := h.names_nodup
    rw [eq_take_cons_drop hp] at hnd
    refine ⟨?_, onLookup_splice ppd translatePPD h.onLookup hp ps env s.cache, fun q hq => ?_⟩
    · refine hnd.sublist ?_
      simp only [List.filterMap_append, filterMap_name_cons, List.append_assoc]
      exact ((stepPc_names ppd translatePPD ps env p s.cache).append_right _).append_left _
    · rcases mem_splice hq with hq | hq
      · refine Pc.expects_congr (fun m hm => ?_) (h.expects q (mem_of_mem_take_or_drop hq))
        exact stepPc_lookup_ne ppd translatePPD ps env p s.cache (h.onLookup p hmem)
          (name_ne_of_nodup hnd hq hm)
      · exact stepPc_expects ppd translatePPD ps env p s.cache (h.expects p hmem) q hq

/-! ### Two lookups of one printer -/

/-- A step of a lookup that holds no reference and is about `n` or about no printer, while the
map holds nothing under `n`. Its continuations hold no reference. Either they are about what
the call was about and the map still holds nothing under `n`, or the call is done with `n`. -/
theorem stepPc_miss {p : Pc} {n : String} {pc : PPDCache δ} (hl : p.onLookup)
    (hh : p.hit = false) (hn : p.name = none ∨ p.name = some n) (hu : pc.cache.lookup n = none)
    (ps : PrintSystem) (env : LookupEnv) :
    (∀ q ∈ (stepPc ppd translatePPD ps env p pc).1, q.hit = false) ∧
      (((stepPc ppd translatePPD ps env p pc).1.filterMap Pc.name = p.name.toList ∧
          (stepPc ppd translatePPD ps env p pc).2.cache.lookup n = none) ∨
        (p.name = some n ∧ (stepPc ppd translatePPD ps env p pc).1.filterMap Pc.name = [])) := by
  cases p <;> simp only [Pc.name, reduceCtorEq, Option.some.injEq, false_or, true_or] at hn
  case lookup m => subst hn; simp [stepPc, hu, Pc.hit, Pc.name]
  case create m => subst hn; simp only [stepPc]; split <;> simp [hu, Pc.hit, Pc.name]
  case refreshNew m a =>
    subst hn
    have hc := refreshAt_cache ppd translatePPD pc ps env.refresh a
    simp only [stepPc]
    rcases h : pc.refreshAt ppd translatePPD ps env.refresh a with ⟨_ | _, pc'⟩ <;>
      simp_all [Pc.hit, Pc.name]
  case storeRead m a => subst hn; simp [stepPc, hu, Pc.hit, Pc.name]
  case storeWrite m a => subst hn; simp [stepPc, Pc.name]
  all_goals simp_all [stepPc, Pc.hit, Pc.name, Pc.onLookup]

/-- Of two names, one dropped leaves no repeat. -/
theorem nodup_of_append_cons_eq_pair {A B : List String} {m n : String}
    (h : A ++ m :: B = [n, n]) : (A ++ B).Nodup := by
  have hlen := congrArg List.length h
  simp only [List.length_append, List.length_cons, List.length_nil] at hlen
  obtain ⟨x, hx⟩ := List.length_eq_one.1 (show (A ++ B).length = 1 by simp; omega)
  exact hx ▸ List.nodup_singleton x

/-- Two pending lookups about printer `n`, which the map does not hold, and no other call about
a printer. No call holds a reference, and at most one holds `cacheMutex`. -/
structure Sys.MissPair (s : Sys δ) (n : String) : Prop where
  names : s.threads.filterMap Pc.name = [n, n]
  onLookup : ∀ p ∈ s.threads, p.onLookup
  uncached : s.cache.cache.lookup n = none
  no_hit : ∀ p ∈ s.threads, p.hit = false
  lock : s.threads.countP Pc.holdsLock ≤ 1

omit [Inhabited δ] in
theorem Sys.MissPair.name_of_mem {s : Sys δ} {n : String} (h : s.MissPair n) {p : Pc}
    (hp : p ∈ s.threads) {m : String} (hm : p.name = some m) : m = n := by
  simpa using (h.names ▸ List.mem_filterMap.2 ⟨p, hp, hm⟩ : m ∈ [n, n])

omit [Inhabited δ] in
/-- Two lookups of an uncached printer expect what the map holds: nothing under it. -/
theorem Sys.MissPair.expects {s : Sys δ} {n : String} (h : s.MissPair n) :
    ∀ p ∈ s.threads, p.Expects s.cache := by
  intro p hp
  have hh := h.no_hit p hp
  cases p
  case storeWrite m a => exact (h.name_of_mem hp rfl) ▸ h.uncached
  all_goals simp_all [Pc.Expects, Pc.hit]

/-- The lock count after a step: the stepping call's continuations take its place. -/
theorem countP_splice {l c : List Pc} {i : Nat} {p : Pc} (hp : l[i]? = some p) :
    (l.take i ++ c ++ l.drop (i + 1)).countP Pc.holdsLock + p.holdsLock.toNat =
      l.countP Pc.holdsLock + c.countP Pc.holdsLock := by
  conv_rhs => rw [eq_take_cons_drop hp]
  simp only [List.countP_append, List.countP_cons]
  cases p.holdsLock <;> simp <;> omega

/-- While another call holds `cacheMutex`, the stepping call does not. -/
theorem holdsLock_eq_false_of_other {l : List Pc} (hlock : l.countP Pc.holdsLock ≤ 1) {i : Nat}
    {p q : Pc} (hp : l[i]? = some p) (hq : q ∈ l.take i ∨ q ∈ l.drop (i + 1))
    (hq' : q.holdsLock) : p.holdsLock = false := by
  have h1 := List.countP_pos_iff.2 ⟨q, List.mem_append.2 hq, hq'⟩
  have h2 := countP_splice (c := []) hp
  simp only [List.append_nil, List.countP_nil] at h2
  cases hk : p.holdsLock
  · rfl
  · rw [hk, Bool.toNat_true] at h2
    omega

/-- **At most one call holds `cacheMutex`** after a step that did not wait: a call that takes
the lock found it free, and a call that holds it was the only holder. -/
theorem countP_holdsLock_step {s : Sys δ} (hlock : s.threads.countP Pc.holdsLock ≤ 1) {i : Nat}
    {p : Pc} (hp : s.threads[i]? = some p) (hfree : (p.needsLock && s.locked) = false)
    (ps : PrintSystem) (env : LookupEnv) :
    (s.threads.take i ++ (stepPc ppd translatePPD ps env p s.cache).1 ++
      s.threads.drop (i + 1)).countP Pc.holdsLock ≤ 1 := by
  have hcount := countP_splice (c := (stepPc ppd translatePPD ps env p s.cache).1) hp
  have hc := stepPc_countP_holdsLock ppd translatePPD ps env p s.cache
  have hwait : p.needsLock → s.threads.countP Pc.holdsLock = 0 := fun hn => by
    simpa [hn, Sys.locked, List.countP_eq_zero] using hfree
  cases hk : p.holdsLock <;> cases hn : p.needsLock <;>
    simp only [hk, hn, Bool.or_self, Bool.or_true, Bool.true_or, Bool.toNat_true,
      Bool.toNat_false] at hc hcount
  case false.true => have := hwait hn; omega
  all_goals omega

/-- **A step of two lookups of one printer.** Both stay on the path that creates an entry, or
one of them is done with the printer and the calls are on distinct printers. -/
theorem Sys.MissPair.step {s : Sys δ} {n : String} (h : s.MissPair n) (ps : PrintSystem)
    (i : Nat) (env : LookupEnv) :
    (step ppd translatePPD ps s i env).MissPair n ∨
      (step ppd translatePPD ps s i env).Distinct := by
  cases hp : s.threads[i]? with
  | none => simpa [CupsConnector.step, hp] using Or.inl h
  | some p =>
    rcases step_eq ppd translatePPD ps env hp with he | ⟨he, hfree⟩ <;> rw [he]
    · exact .inl h
    have hmem := List.getElem?_mem hp
    have hpn : p.name = none ∨ p.name = some n := by
      cases hn : p.name
      · exact .inl rfl
      · exact .inr (by rw [h.name_of_mem hmem hn])
    obtain ⟨hh, hstep⟩ := stepPc_miss ppd translatePPD (h.onLookup p hmem) (h.no_hit p hmem) hpn
      h.uncached ps env
    have honLookup := onLookup_splice ppd translatePPD h.onLookup hp ps env s.cache
    have hno_hit : ∀ q ∈ s.threads.take i ++ (stepPc ppd translatePPD ps env p s.cache).1 ++
        s.threads.drop (i + 1), q.hit = false := fun q hq => (mem_splice hq).elim
      (fun hq => h.no_hit q (mem_of_mem_take_or_drop hq)) (hh q)
    have hF := h.names
    rw [eq_take_cons_drop hp, List.filterMap_append, filterMap_name_cons] at hF
    rcases hstep with ⟨hF', hu⟩ | ⟨hpn, hF'⟩
    -- Both calls are still on the path that creates an entry for `n`.
    · refine .inl ⟨?_, honLookup, hu, hno_hit,
        countP_holdsLock_step ppd translatePPD h.lock hp hfree ps env⟩
      rw [List.filterMap_append, List.filterMap_append, hF', ← hF, List.append_assoc]
    -- The stepping call is done with `n`: one lookup of `n` is left.
    · refine .inr ⟨?_, honLookup, fun q hq => ?_⟩
      · rw [List.filterMap_append, List.filterMap_append, hF', List.append_nil]
        rw [hpn, Option.toList_some, List.singleton_append] at hF
        exact nodup_of_append_cons_eq_pair hF
      rcases mem_splice hq with hq | hq
      · cases hq' : q.holdsLock
        · exact Pc.expects_of_not_hit (h.no_hit q (mem_of_mem_take_or_drop hq)) hq' _
        -- Another call holds the lock, so the stepping call leaves the map alone.
        have hk := holdsLock_eq_false_of_other h.lock hp hq hq'
        refine Pc.expects_congr (fun m _ => ?_) (h.expects q (mem_of_mem_take_or_drop hq))
        exact congrArg (AList.lookup m) (stepPc_cache_eq ppd translatePPD ps env p s.cache
          (h.onLookup p hmem) (h.no_hit p hmem) hk)
      · exact stepPc_expects ppd translatePPD ps env p s.cache (h.expects p hmem) q hq

/-- Two lookups of one printer keep the ownership in any schedule: they stay a pair on the path
that creates an entry until one of them is done with the printer, and then they are lookups of
distinct printers. -/
theorem Sys.Owns.runSchedule_of_missPair {s : Sys δ} {n : String} (h : s.Owns)
    (hm : s.MissPair n ∨ s.Distinct) (sched : List (Nat × PrintSystem × LookupEnv)) :
    (runSchedule ppd translatePPD sched s).Owns := by
  induction sched generalizing s with
  | nil => exact h
  | cons x sched ih =>
    rcases hm with hm | hm <;>
      refine ih (h.step ppd translatePPD (fun p hp => ⟨hm.onLookup p (List.getElem?_mem hp),
        hm.expects p (List.getElem?_mem hp)⟩) x.2.1 x.2.2) ?_
    · exact hm.step ppd translatePPD x.2.1 x.1 x.2.2
    · exact .inr (hm.step ppd translatePPD x.2.1 x.1 x.2.2)

theorem newSys_missPair (n : String) :
    Sys.MissPair (⟨newPPDCache, [.lookup n, .lookup n]⟩ : Sys δ) n where
  names := rfl
  onLookup := by simp [Pc.onLookup]
  uncached := AList.lookup_empty n
  no_hit := by simp [Pc.hit]
  lock := by simp [Pc.holdsLock]

/-- **Two lookups of one printer never race.** Run two `getPPDCacheEntry(n)` on a new cache,
interleaved in any way and under any faults. No entry is freed twice or refreshed after its
free. Once both calls and the goroutine that frees a displaced entry are done, the live entries
are the cached ones, so the displaced entry has been freed. -/
theorem runSchedule_lifecycle_two_lookups (n : String)
    (sched : List (Nat × PrintSystem × LookupEnv)) :
    (runSchedule ppd translatePPD sched
      ⟨(newPPDCache : PPDCache δ), [.lookup n, .lookup n]⟩).Lifecycle :=
  have hOwns : Sys.Owns (⟨newPPDCache, [.lookup n, .lookup n]⟩ : Sys δ) := by
    simpa [Sys.Owns, Pc.owned] using (newPPDCache_owns : Owns (newPPDCache : PPDCache δ) [])
  (hOwns.runSchedule_of_missPair ppd translatePPD (.inl (newSys_missPair n)) sched).lifecycle

end CupsConnector
