import FieldMapping.Proofs.Listing.PageSize

/-! Windows in exact numbers. A request is refused only for an end that it names and that
lies before its start. Every other window ends where the request says or one default page
away, but not past the greatest row number, and is then cut to the greatest size. Row
numbers are added and subtracted only where the result is exact, so nothing wraps around
at the last rows. -/

namespace FieldMapping

namespace Window

theorem start_add_size (w : Window) : w.start.toNat + w.size.toNat = w.stop.toNat := by
  have ordered := UInt64.le_iff_toNat_le.1 w.ordered
  rw [toNat_size]
  omega

theorem toNat_start_add (w : Window) {m : UInt64} (inside : m < w.size) :
    (w.start + m).toNat = w.start.toNat + m.toNat := by
  have size := w.start_add_size
  have less := UInt64.lt_iff_toNat_lt.1 inside
  have bound := w.stop.toNat_lt
  rw [UInt64.toNat_add]
  omega

@[simp] theorem start_clamp (w : Window) (most : Option UInt64) :
    (w.clamp most).start = w.start := by
  cases most with
  | none => rfl
  | some m =>
    rw [clamp]
    split <;> rfl

theorem toNat_stop_clamp (w : Window) (m : UInt64) :
    (w.clamp (some m)).stop.toNat = min w.stop.toNat (w.start.toNat + m.toNat) := by
  have size := w.start_add_size
  rw [clamp]
  split
  · next inside =>
    have less := UInt64.lt_iff_toNat_lt.1 inside
    rw [w.toNat_start_add inside]
    omega
  · next fits =>
    have most := UInt64.le_iff_toNat_le.1 (UInt64.not_lt.1 fits)
    omega

structure Unwrapped (w : Window) (most : Option UInt64) : Prop where
  size : w.start.toNat + w.size.toNat = w.stop.toNat
  cut : ∀ m, most = some m → m < w.size → (w.start + m).toNat = w.start.toNat + m.toNat

theorem unwrapped (w : Window) (most : Option UInt64) : w.Unwrapped most where
  size := w.start_add_size
  cut _ _ inside := w.toNat_start_add inside

end Window

namespace Request

def first (r : Request) (d : PageDefaults) : UInt64 := r.startRow.getD d.startRow

/-- Where a request ends before it is cut, in exact numbers: at the end that it names, or
else one default page from its start, as far as there are row numbers. -/
def reach (r : Request) (d : PageDefaults) : Nat :=
  match r.endRow with
  | some stop => stop.toNat
  | none => min ((r.first d).toNat + (d.endRow.toNat - d.startRow.toNat)) 18446744073709551615

def last (r : Request) (d : PageDefaults) : Nat :=
  match d.maxSize with
  | some m => min (r.reach d) ((r.first d).toNat + m.toNat)
  | none => r.reach d

/-- The window of a request in exact numbers. -/
structure Shows (r : Request) (d : PageDefaults) (w : Window) : Prop where
  start : w.start = r.first d
  stop : w.stop.toNat = r.last d
  ordered : w.start.toNat ≤ w.stop.toNat
  size : w.size.toNat = w.stop.toNat - w.start.toNat
  within : ∀ m, d.maxSize = some m → w.size.toNat ≤ m.toNat

theorem shows_clamp {r : Request} {d : PageDefaults} {asked : Window}
    (start : asked.start = r.first d) (stop : asked.stop.toNat = r.reach d) :
    r.Shows d (asked.clamp d.maxSize) where
  start := by rw [Window.start_clamp, start]
  stop := by
    unfold last
    cases d.maxSize with
    | none => exact stop
    | some m => exact (asked.toNat_stop_clamp m).trans (by rw [start, stop])
  ordered := UInt64.le_iff_toNat_le.1 (asked.clamp d.maxSize).ordered
  size := (asked.clamp d.maxSize).toNat_size
  within m most := UInt64.le_iff_toNat_le.1 (asked.within_clamp d.maxSize m most)

end Request

namespace Pager

@[simp] theorem startRow_of (d : PageDefaults) :
    (Pager.of d).defaults.startRow = d.startRow := by
  unfold Pager.of
  split <;> rfl

theorem toNat_size_of (d : PageDefaults) :
    (Pager.of d).defaults.size.toNat = d.endRow.toNat - d.startRow.toNat := by
  have page : (Pager.of d).defaults.size = (Pager.of d).defaultWindow.size :=
    if_pos (Pager.of d).ordered
  rw [page, size_defaultWindow, PageDefaults.size]
  split
  · next ordered => exact UInt64.toNat_sub_of_le _ _ ordered
  · next reversed =>
    have before := UInt64.lt_iff_toNat_lt.1 (UInt64.not_le.1 reversed)
    rw [UInt64.toNat_zero]
    omega

theorem window_of_le (p : Pager) (start stop : Option UInt64) {first last : UInt64}
    (ordered : first ≤ last) (isFirst : start.getD p.defaults.startRow = first)
    (isLast : stop.getD (saturatingAdd first p.defaults.size) = last) :
    p.window start stop = .ok (Window.clamp ⟨first, last, ordered⟩ p.defaults.maxSize) := by
  subst isFirst isLast
  exact dif_pos ordered

theorem window_cases (d : PageDefaults) (r : Request) :
    (∃ asked : Window, asked.start = r.first d ∧ asked.stop.toNat = r.reach d ∧
      (∀ stop, r.endRow = some stop → r.first d ≤ stop) ∧
      (Pager.of d).window r.startRow r.endRow = .ok (asked.clamp d.maxSize)) ∨
    ∃ stop, r.endRow = some stop ∧ stop < r.first d ∧ (Pager.of d).window r.startRow r.endRow =
      .error (.invalid "startRow" "startRow" (.startPastEnd (r.first d) stop)) := by
  have isFirst : r.startRow.getD (Pager.of d).defaults.startRow = r.first d := by
    rw [startRow_of]
    rfl
  rw [← maxSize_of d]
  cases named : r.endRow with
  | none =>
    left
    let last := saturatingAdd (r.first d) (Pager.of d).defaults.size
    have reach : last.toNat = r.reach d := by
      rw [toNat_saturatingAdd, toNat_size_of]
      simp only [Request.reach, named]
    have ordered : r.first d ≤ last := by
      have bound := (r.first d).toNat_lt
      rw [UInt64.le_iff_toNat_le, toNat_saturatingAdd]
      omega
    exact ⟨⟨r.first d, last, ordered⟩, rfl, reach, nofun, window_of_le _ _ _ ordered isFirst rfl⟩
  | some stop =>
    by_cases ordered : r.first d ≤ stop
    · left
      refine ⟨⟨r.first d, stop, ordered⟩, rfl, by rw [Request.reach, named], ?_,
        window_of_le _ _ _ ordered isFirst rfl⟩
      rintro _ ⟨⟩
      exact ordered
    · right
      refine ⟨stop, rfl, UInt64.not_le.1 ordered, ?_⟩
      unfold window
      simp only [isFirst, Option.getD_some]
      exact dif_neg ordered

theorem window_of_within (p : Pager) {w : Window} (fits : w.Within p.defaults.maxSize) :
    p.window (some w.start) (some w.stop) = .ok w := by
  rw [p.window_of_le _ _ w.ordered rfl rfl]
  exact congrArg Except.ok (Window.clamp_eq_self_iff.2 fits)

end Pager

theorem Layout.bounds_of_query {ρ : Type} {l : Layout ρ} {a : Listing} {q : Query}
    (asked : l.query a = .ok q) :
    q.offset = some a.window.start ∧ q.limit = some a.window.size := by
  obtain ⟨_, _, rfl⟩ := map_eq_ok_iff.1 asked
  exact ⟨rfl, rfl⟩

namespace PagedFactory
variable {ρ : Type}

theorem build_of_passes (x : PagedFactory ρ) {r : Request} {b : Arguments}
    (passes : r.terms.arguments x.scope = .ok b) :
    x.build r = (x.pager.window r.startRow r.endRow).map fun w => ⟨w, b⟩ := by
  cases valid : x.pager.window r.startRow r.endRow with
  | error e =>
    rw [build, Request.listing, valid]
    rfl
  | ok w =>
    rw [x.build_of_window valid, passes]
    rfl

theorem build_of_within {d : PageDefaults} (scope : Option (Layout ρ)) {w : Window}
    (fits : w.Within d.maxSize) {t : Terms} {b : Arguments} (passes : t.arguments scope = .ok b) :
    build ⟨Pager.of d, scope⟩ ⟨some w.start, some w.stop, t⟩ = .ok ⟨w, b⟩ := by
  rw [← Pager.maxSize_of d] at fits
  exact build_eq_ok_iff.2 ⟨Pager.window_of_within _ fits, passes⟩

theorem build_exact (d : PageDefaults) (scope : Option (Layout ρ)) (r : Request)
    (passes : ∃ b, r.terms.arguments scope = .ok b) :
    let x : PagedFactory ρ := ⟨Pager.of d, scope⟩
    ((∃ e, x.build r = .error e) ↔ ∃ stop, r.endRow = some stop ∧ stop < r.first d) ∧
    (∀ e, x.build r = .error e → ∃ stop, r.endRow = some stop ∧
      e = .invalid "startRow" "startRow" (.startPastEnd (r.first d) stop)) ∧
    ∀ a, x.build r = .ok a →
      r.Shows d a.window ∧
      (∃ asked : Window, asked.start = r.first d ∧ asked.stop.toNat = r.reach d ∧
        asked.Unwrapped d.maxSize ∧ a.window = asked.clamp d.maxSize) ∧
      (∀ (l : Layout ρ) (q : Query), l.query a = .ok q →
        q.offset = some a.window.start ∧ q.limit = some a.window.size) ∧
      ∀ t b, t.arguments scope = .ok b →
        x.build ⟨some a.window.start, some a.window.stop, t⟩ = .ok ⟨a.window, b⟩ := by
  intro x
  obtain ⟨b, passed⟩ := passes
  have built := x.build_of_passes passed
  rcases Pager.window_cases d r with ⟨asked, start, stop, inOrder, given⟩ |
    ⟨stop, named, early, refused⟩
  · rw [given] at built
    have never : ∀ e, x.build r ≠ .error e := fun e failed => nomatch built.symm.trans failed
    refine ⟨⟨?_, ?_⟩, fun e failed => absurd failed (never e), ?_⟩
    · rintro ⟨e, failed⟩
      exact absurd failed (never e)
    · rintro ⟨last, named, early⟩
      exact absurd (inOrder last named) (UInt64.not_le.2 early)
    · intro a ok
      cases built.symm.trans ok
      exact ⟨Request.shows_clamp start stop, ⟨asked, start, stop, asked.unwrapped _, rfl⟩,
        fun l q => Layout.bounds_of_query,
        fun t b => build_of_within scope (asked.within_clamp d.maxSize)⟩
  · rw [refused] at built
    refine ⟨⟨fun _ => ⟨stop, named, early⟩, fun _ => ⟨_, built⟩⟩, ?_, ?_⟩
    · intro e failed
      cases built.symm.trans failed
      exact ⟨stop, named, rfl⟩
    · intro a ok
      cases built.symm.trans ok

open Directory in
theorem build_exact_at_last_rows :
    let last : UInt64 := 18446744073709551615
    let d : PageDefaults := ⟨last - 60, last - 10, some 20⟩
    let x : PagedFactory StockRule := ⟨Pager.of d, none⟩
    let openEnded : Request := ⟨some (last - 8), none, ⟨none, none⟩⟩
    let wide : Request := ⟨none, some last, ⟨none, none⟩⟩
    let page : Listing := ⟨⟨last - 8, last, by decide⟩, Arguments.none⟩
    let cut : Listing := ⟨⟨last - 60, last - 40, by decide⟩, Arguments.none⟩
    (∃ b, openEnded.terms.arguments x.scope = .ok b) ∧ x.build openEnded = .ok page ∧
    openEnded.Shows d page.window ∧ page.window.size = 8 ∧
    (∃ b, wide.terms.arguments x.scope = .ok b) ∧ x.build wide = .ok cut ∧
    wide.Shows d cut.window ∧ x.build ⟨some (last - 60), some (last - 40), wide.terms⟩ = .ok cut := by
  intro last d x openEnded wide page cut
  have passes : ∃ b, openEnded.terms.arguments x.scope = .ok b := ⟨_, rfl⟩
  have toLast : saturatingAdd (last - 8) x.pager.defaults.size = last := by decide
  have given : x.pager.window (some (last - 8)) none = .ok page.window :=
    (x.pager.window_of_le (some (last - 8)) none page.window.ordered rfl toLast).trans
      (congrArg Except.ok (by decide))
  have built : x.build openEnded = .ok page := build_eq_ok_iff.2 ⟨given, rfl⟩
  let asked : Window := ⟨last - 60, last, by decide⟩
  have cutShort : x.pager.window none (some last) = .ok cut.window :=
    (x.pager.window_of_le none (some last) asked.ordered (Pager.startRow_of d) rfl).trans
      (congrArg Except.ok (by decide))
  have builtCut : x.build wide = .ok cut := build_eq_ok_iff.2 ⟨cutShort, rfl⟩
  obtain ⟨-, -, shown⟩ := build_exact d x.scope openEnded passes
  obtain ⟨-, -, shownCut⟩ := build_exact d x.scope wide passes
  obtain ⟨rows, -, -, -⟩ := shown page built
  obtain ⟨rowsCut, -, -, again⟩ := shownCut cut builtCut
  exact ⟨passes, built, rows, by decide, passes, builtCut, rowsCut, again _ _ rfl⟩

end PagedFactory

end FieldMapping
