import CupsConnector.Lib.Printer
import Mathlib.Data.List.Forall2

/-!
# Hostnames from device URIs (`lib/printer.go`, `GetHostname`)

`GetHostname` matches the `device-uri` tag against `rDeviceURIHostname`,
`(?i)^(?:socket|http|https|ipp|ipps|lpd)://([a-z][a-z0-9.-]*)`, and returns its group.

* `foldsTo r c`: the runes that `(?i)` lets stand for the pattern rune `r`, its orbit under
  Unicode simple case folding. Besides the two ASCII cases, `s` also folds with `ſ` (U+017F)
  and `k` with the Kelvin sign (U+212A). `isHostStart` and `isHostChar` are the two folded
  classes.
* `foldPrefix`, `matchHost`, `matchDeviceURI`, `findStringSubmatch`: the pattern compiled by
  hand. Go's leftmost-first alternation is `List.findSome?` over the schemes in the pattern's
  order, and the greedy star with nothing after it is `List.takeWhile`.
* `HostRun` and `HostMatch`: the decomposition of a device URI that the pattern accepts.
  `getHostname_eq_iff` says that `GetHostname` returns `(h, true)` exactly on it, and
  `("", false)` otherwise.
* `getHostname_userinfo`: the group stops at the first rune outside `[a-z0-9.-]`, so from
  `ipp://admin@printer.local/...` it reads the user name `admin` as the host.

A Go string may hold invalid UTF-8, which `regexp` reads as U+FFFD. A Lean `String` is
always valid, so the model reads the string's runes directly.
-/

namespace CupsConnector

variable {σ δ : Type}

/-! ### The pattern -/

/-- The alternatives of `rDeviceURIHostname`, in the pattern's order. -/
def deviceURISchemes : List String := ["socket", "http", "https", "ipp", "ipps", "lpd"]

/-- Whether `(?i)` lets the input rune `c` stand for the pattern rune `r`, which is lowercase
or not a letter. -/
def foldsTo (r c : Char) : Bool :=
  c == r || c == r.toUpper || (r == 's' && c == 'ſ') || (r == 'k' && c == 'K')

/-- `(?i)[a-z]`: an ASCII letter of either case, or one of the two runes outside ASCII that
fold into the range. -/
def isHostStart (c : Char) : Bool := c.isAlpha || c == 'ſ' || c == 'K'

/-- `(?i)[a-z0-9.-]`. -/
def isHostChar (c : Char) : Bool := isHostStart c || c.isDigit || c == '.' || c == '-'

/-- A `(?i)` literal: what follows `pat` in the input, reading rune by rune up to folding. -/
def foldPrefix : List Char → List Char → Option (List Char)
  | [], s => some s
  | _ :: _, [] => none
  | r :: rs, c :: cs => if foldsTo r c then foldPrefix rs cs else none

/-- The group `([a-z][a-z0-9.-]*)`. Nothing follows the star in the pattern, so the greedy star
takes the longest run of host runes. -/
def matchHost : List Char → Option (List Char)
  | c :: cs => if isHostStart c then some (c :: cs.takeWhile isHostChar) else none
  | [] => none

/-- The match of the pattern at the start of `uri` (the `^` anchor), as the whole match and the
group. The first alternative in the pattern's order with which the rest of the pattern
matches wins. -/
def matchDeviceURI (uri : List Char) : Option (List Char × List Char) :=
  deviceURISchemes.findSome? fun sch => do
    let rest ← foldPrefix (sch ++ "://").toList uri
    let host ← matchHost rest
    pure (uri.take (sch.length + 3 + host.length), host)

/-- `rDeviceURIHostname.FindStringSubmatch`: `nil` without a match, else the match and its one
group. -/
def findStringSubmatch (uri : String) : List String :=
  match matchDeviceURI uri.toList with
  | some (whole, host) => [String.mk whole, String.mk host]
  | none => []

/-- `Printer.GetHostname`. -/
def getHostname (p : Printer σ δ) : String × Bool :=
  match p.tags.lookup "device-uri" with
  | none => ("", false)
  | some deviceURI =>
    match findStringSubmatch deviceURI with
    | [_, host] => (host, true)
    | _ => ("", false)

/-! ### What the pattern accepts -/

/-- `pre` spells the scheme `sch` rune by rune, each rune one that `(?i)` folds to the
scheme's. -/
def Spells (sch : String) (pre : List Char) : Prop :=
  List.Forall₂ (fun r c => foldsTo r c = true) sch.toList pre

/-- `h` is the host the group reads at the start of `s`: it starts with a letter, and it
takes every host rune that follows. -/
def HostRun (s h : List Char) : Prop :=
  (∃ c t, h = c :: t ∧ isHostStart c = true ∧ ∀ x ∈ t, isHostChar x = true) ∧
    ∃ rest, s = h ++ rest ∧ ∀ x ∈ rest.head?, isHostChar x = false

/-- The decomposition of a device URI that the pattern reads: a spelling of one of the
schemes, `://`, and a rest that starts with the host `h`. -/
def HostMatch (uri h : List Char) : Prop :=
  ∃ sch ∈ deviceURISchemes, ∃ pre rest, Spells sch pre ∧ uri = pre ++ "://".toList ++ rest ∧
    HostRun rest h

/-! ### The matcher against the decomposition -/

theorem foldPrefix_eq_some {pat s rest : List Char} :
    foldPrefix pat s = some rest ↔
      ∃ pre, List.Forall₂ (fun r c => foldsTo r c = true) pat pre ∧ s = pre ++ rest := by
  induction pat generalizing s with
  | nil => simp [foldPrefix]
  | cons r rs ih =>
    constructor
    · intro h
      cases s with
      | nil => cases h
      | cons c cs =>
        simp only [foldPrefix] at h
        split at h
        · obtain ⟨pre, hpre, rfl⟩ := ih.1 h
          exact ⟨c :: pre, .cons ‹_› hpre, rfl⟩
        · cases h
    · rintro ⟨pre, hf, rfl⟩
      cases hf with
      | cons hrc hpre => simpa [foldPrefix, hrc] using ih.2 ⟨_, hpre, rfl⟩

theorem foldPrefix_append (a b s : List Char) :
    foldPrefix (a ++ b) s = (foldPrefix a s).bind (foldPrefix b) := by
  induction a generalizing s with
  | nil => rfl
  | cons r rs ih => cases s <;> simp [foldPrefix, ih, apply_ite (Option.bind · (foldPrefix b))]

/-- The separator `://` folds only to itself. -/
theorem foldPrefix_sep {s rest : List Char} :
    foldPrefix "://".toList s = some rest ↔ s = "://".toList ++ rest := by
  have hsep : List.Forall₂ (fun r c => foldsTo r c = true) "://".toList =
      (· = "://".toList) := by
    funext pre
    rcases pre with _ | ⟨c₁, _ | ⟨c₂, _ | ⟨c₃, _ | ⟨c₄, pre⟩⟩⟩⟩ <;>
      simp [foldsTo, List.forall₂_cons, show (':').toUpper = ':' from rfl,
        show ('/').toUpper = '/' from rfl]
  rw [foldPrefix_eq_some, hsep]
  simp

theorem takeWhile_append_of_stop {α : Type} {p : α → Bool} {a r : List α}
    (ha : ∀ x ∈ a, p x = true) (hr : ∀ x ∈ r.head?, p x = false) : (a ++ r).takeWhile p = a := by
  rw [List.takeWhile_append_of_pos ha]
  cases r with
  | nil => simp
  | cons x r => simp [List.takeWhile_cons, hr x rfl]

theorem isHostChar_of_isHostStart {c : Char} (h : isHostStart c = true) : isHostChar c = true := by
  simp [isHostChar, h]

/-- The host read at the start of `s` is the run of host runes there. -/
theorem HostRun.eq_takeWhile {s h : List Char} (hr : HostRun s h) :
    h = s.takeWhile isHostChar := by
  obtain ⟨⟨c, t, rfl, hc, ht⟩, rest, rfl, hrest⟩ := hr
  refine (takeWhile_append_of_stop ?_ hrest).symm
  simpa [isHostChar_of_isHostStart hc] using ht

theorem matchHost_eq_some {s h : List Char} : matchHost s = some h ↔ HostRun s h := by
  constructor
  · intro hm
    cases s with
    | nil => cases hm
    | cons c cs =>
      by_cases hc : isHostStart c
      · simp only [matchHost, hc, if_true, Option.some.injEq] at hm
        subst hm
        refine ⟨⟨c, _, rfl, hc, fun x hx => List.mem_takeWhile_imp hx⟩,
          cs.dropWhile isHostChar, by simp [List.takeWhile_append_dropWhile], ?_⟩
        have hd := List.head?_dropWhile_not isHostChar cs
        intro x hx
        rw [Option.mem_def.1 hx] at hd
        exact hd
      · simp [matchHost, hc] at hm
  · intro hr
    have htw := hr.eq_takeWhile
    obtain ⟨⟨c, t, rfl, hc, -⟩, rest, rfl, -⟩ := hr
    rw [List.cons_append, List.takeWhile_cons_of_pos (isHostChar_of_isHostStart hc),
      List.cons.injEq] at htw
    simp [matchHost, hc, ← htw.2]

theorem not_mem_of_forall₂_foldsTo {pat pre : List Char}
    (h : List.Forall₂ (fun r c => foldsTo r c = true) pat pre) {c : Char}
    (hc : ∀ r ∈ pat, foldsTo r c = false) : c ∉ pre := by
  induction h with
  | nil => simp
  | @cons r c' _ _ hrc _ ih =>
    simp only [List.mem_cons, not_or]
    refine ⟨?_, ih fun r' hr' => hc r' (List.mem_cons_of_mem _ hr')⟩
    rintro rfl
    simp [hc r (List.mem_cons_self _ _)] at hrc

/-- No scheme is spelled with a `:`, so a spelling ends where the separator starts. -/
theorem colon_not_mem_of_spells {sch : String} (hs : sch ∈ deviceURISchemes) {pre : List Char}
    (h : Spells sch pre) : ':' ∉ pre := by
  have hsch : ∀ s ∈ deviceURISchemes, ∀ r ∈ s.toList, foldsTo r ':' = false := by decide
  exact not_mem_of_forall₂_foldsTo h (hsch sch hs)

theorem eq_of_append_sep {α : Type} {s : α} {a b x y : List α} (ha : s ∉ a) (hb : s ∉ b)
    (h : a ++ s :: x = b ++ s :: y) : x = y := by
  induction a generalizing b with
  | nil =>
    cases b with
    | nil => simpa using h
    | cons c b => simp only [List.nil_append, List.cons_append, List.cons.injEq] at h; simp [h.1] at hb
  | cons c a ih =>
    cases b with
    | nil => simp only [List.nil_append, List.cons_append, List.cons.injEq] at h; simp [h.1] at ha
    | cons d b =>
      simp only [List.cons_append, List.cons.injEq] at h
      exact ih (fun hm => ha (List.mem_cons_of_mem _ hm)) (fun hm => hb (List.mem_cons_of_mem _ hm))
        h.2

/-- The pattern reads at most one host from a device URI. -/
theorem HostMatch.unique {uri h h' : List Char} (hm : HostMatch uri h) (hm' : HostMatch uri h') :
    h = h' := by
  obtain ⟨sch, hs, pre, rest, hsp, rfl, hr⟩ := hm
  obtain ⟨sch', hs', pre', rest', hsp', heq, hr'⟩ := hm'
  have : rest = rest' := by
    have := eq_of_append_sep (colon_not_mem_of_spells hs hsp) (colon_not_mem_of_spells hs' hsp')
      (by simpa using heq)
    simpa using this
  subst this
  rw [hr.eq_takeWhile, hr'.eq_takeWhile]

/-- One alternative of the pattern, the scheme `sch`, read on its own. -/
theorem matchScheme_eq_some {sch : String} {uri w h : List Char} :
    (do
      let rest ← foldPrefix (sch ++ "://").toList uri
      let host ← matchHost rest
      pure (uri.take (sch.length + 3 + host.length), host)) = some (w, h) ↔
      w = uri.take (sch.length + 3 + h.length) ∧
        ∃ pre rest, Spells sch pre ∧ uri = pre ++ "://".toList ++ rest ∧ HostRun rest h := by
  rw [show (sch ++ "://").toList = sch.toList ++ "://".toList from String.data_append _ _]
  simp only [foldPrefix_append, Option.bind_eq_bind, Option.bind_eq_some, foldPrefix_sep,
    matchHost_eq_some, Option.pure_def, Option.some.injEq, Prod.mk.injEq]
  simp only [foldPrefix_eq_some]
  constructor
  · rintro ⟨rest, ⟨mid, ⟨pre, hsp, rfl⟩, rfl⟩, host, hh, rfl, rfl⟩
    exact ⟨rfl, pre, rest, hsp, by simp, hh⟩
  · rintro ⟨rfl, pre, rest, hsp, rfl, hh⟩
    exact ⟨rest, ⟨_, ⟨pre, hsp, List.append_assoc _ _ _⟩, rfl⟩, h, hh, by simp, rfl⟩

theorem hostMatch_of_matchDeviceURI {uri w h : List Char} (hm : matchDeviceURI uri = some (w, h)) :
    HostMatch uri h := by
  obtain ⟨sch, hs, hsch⟩ := List.exists_of_findSome?_eq_some hm
  exact ⟨sch, hs, (matchScheme_eq_some.1 hsch).2⟩

theorem matchDeviceURI_of_hostMatch {uri h : List Char} (hm : HostMatch uri h) :
    ∃ w, matchDeviceURI uri = some (w, h) := by
  cases hf : matchDeviceURI uri with
  | none =>
    obtain ⟨sch, hs, hsch⟩ := hm
    have := List.findSome?_eq_none_iff.1 hf sch hs
    rw [matchScheme_eq_some.2 ⟨rfl, hsch⟩] at this
    cases this
  | some r =>
    obtain ⟨w, h'⟩ := r
    exact ⟨w, by rw [(hostMatch_of_matchDeviceURI hf).unique hm]⟩

/-- **`GetHostname`.** It returns `(h, true)` exactly when the `device-uri` tag is present and
the pattern reads the host `h` from it, and `("", false)` in every other case. -/
theorem getHostname_eq_iff (p : Printer σ δ) (h : String) (ok : Bool) :
    getHostname p = (h, ok) ↔
      (ok = true ∧ ∃ uri, p.tags.lookup "device-uri" = some uri ∧ HostMatch uri.toList h.toList) ∨
        (ok = false ∧ h = "" ∧
          ∀ uri, p.tags.lookup "device-uri" = some uri → ∀ h', ¬HostMatch uri.toList h') := by
  cases hl : p.tags.lookup "device-uri" with
  | none => simp [getHostname, hl, eq_comm, and_comm]
  | some uri =>
    simp only [Option.some.injEq, exists_eq_left', forall_eq']
    cases hm : matchDeviceURI uri.toList with
    | none =>
      have hno : ∀ h', ¬HostMatch uri.toList h' := fun h' hh => by
        obtain ⟨w, hw⟩ := matchDeviceURI_of_hostMatch hh
        rw [hm] at hw
        cases hw
      simp only [getHostname, findStringSubmatch, hl, hm, Prod.mk.injEq, hno, and_false, false_or,
        not_false_eq_true, implies_true, and_true]
      constructor <;> rintro ⟨rfl, rfl⟩ <;> exact ⟨rfl, rfl⟩
    | some r =>
      obtain ⟨w, host⟩ := r
      have hr := hostMatch_of_matchDeviceURI hm
      have hsome : ¬∀ h', ¬HostMatch uri.toList h' := fun hno => hno _ hr
      simp only [getHostname, findStringSubmatch, hl, hm, Prod.mk.injEq, hsome, and_false, or_false]
      constructor
      · rintro ⟨rfl, rfl⟩
        exact ⟨rfl, hr⟩
      · rintro ⟨rfl, hh⟩
        exact ⟨String.ext (hr.unique hh), rfl⟩

/-- A printer whose only tag is its device URI. -/
def deviceURIPrinter (uri : String) : Printer Unit Unit :=
  ⟨"", "p", "", "", "", "", "", "", "", "", "", none, none, "", [("device-uri", uri)], 0⟩

example : getHostname (deviceURIPrinter "IPP://printer.local:631/ipp/print") =
    ("printer.local", true) := by decide

example : getHostname (deviceURIPrinter "usb://Vendor/Model") = ("", false) := by decide

/-- A dotted-decimal host does not start with a letter, so `[a-z]` rejects it. -/
example : getHostname (deviceURIPrinter "ipp://192.168.0.10:631/ipp/print") = ("", false) := by
  decide

/-- **An authority with userinfo gives the user name.** The group stops at the `@`, so
`GetHostname` returns `admin` and not `printer.local`, the network hostname that its comment
promises. -/
theorem getHostname_userinfo :
    getHostname (deviceURIPrinter "ipp://admin@printer.local/ipp/print") = ("admin", true) := by
  decide

/-- The long s folds with `s`. -/
example : getHostname (deviceURIPrinter "ſocket://host:9100") = ("host", true) := by decide

end CupsConnector
