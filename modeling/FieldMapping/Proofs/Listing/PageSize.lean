import FieldMapping.Directory.Rules
import FieldMapping.Proofs.Listing.Agreement

/-! The greatest page size. Every window that is made of a request is cut to it, also one
that has only defaults in it. The listing that a factory has ready for nobody's request is
not made that way: it shows the whole default window, so it is the listing of the blank
request exactly when the default size is no greater than the greatest one. -/

namespace FieldMapping

namespace Window

def Within (w : Window) (most : Option UInt64) : Prop := ∀ m, most = some m → w.size ≤ m

theorem within_clamp (w : Window) (most : Option UInt64) : (w.clamp most).Within most := by
  rintro m rfl
  rw [clamp]
  split
  · next cut =>
    have size : w.start + m - w.start = m := by
      rw [UInt64.add_comm, UInt64.add_sub_cancel]
    exact UInt64.le_of_eq size
  · next fits => exact UInt64.not_lt.1 fits

theorem clamp_eq_self_iff {w : Window} {most : Option UInt64} :
    w.clamp most = w ↔ w.Within most := by
  constructor
  · intro same
    have within := within_clamp w most
    rwa [same] at within
  · intro within
    cases most with
    | none => rfl
    | some m => exact dif_neg (UInt64.not_lt.2 (within m rfl))

end Window

namespace Pager

@[simp] theorem maxSize_of (d : PageDefaults) : (Pager.of d).defaults.maxSize = d.maxSize := by
  unfold Pager.of
  split <;> rfl

theorem size_defaultWindow (d : PageDefaults) : (Pager.of d).defaultWindow.size = d.size := by
  unfold Pager.of PageDefaults.size
  split
  · rfl
  · exact UInt64.sub_self d.startRow

theorem saturatingAdd_size (p : Pager) :
    saturatingAdd p.defaults.startRow p.defaults.size = p.defaults.endRow := by
  have size : p.defaults.size.toNat = p.defaults.endRow.toNat - p.defaults.startRow.toNat := by
    rw [PageDefaults.size, if_pos p.ordered, UInt64.toNat_sub_of_le _ _ p.ordered]
  have ordered := UInt64.le_iff_toNat_le.1 p.ordered
  have bound := p.defaults.endRow.toNat_lt
  rw [← UInt64.toNat_inj, toNat_saturatingAdd, size]
  omega

theorem window_none (p : Pager) :
    p.window none none = .ok (p.defaultWindow.clamp p.defaults.maxSize) := by
  unfold window
  simp only [Option.getD_none, saturatingAdd_size]
  exact dif_pos p.ordered

theorem within_of_window {p : Pager} {start stop : Option UInt64} {w : Window}
    (ok : p.window start stop = .ok w) : w.Within p.defaults.maxSize := by
  unfold window at ok
  dsimp only at ok
  split at ok
  · cases ok
    exact Window.within_clamp _ _
  · simp at ok

end Pager

def Request.blank : Request := ⟨none, none, ⟨none, none⟩⟩

namespace PagedFactory
variable {ρ : Type}

theorem build_blank (x : PagedFactory ρ) :
    x.build Request.blank =
      .ok ⟨x.fresh.window.clamp x.pager.defaults.maxSize, x.fresh.arguments⟩ := by
  rw [x.build_of_window x.pager.window_none]
  have nothing : Request.blank.terms.arguments x.scope = .ok Arguments.none := by
    cases x.scope <;> rfl
  rw [nothing]
  rfl

theorem fresh_eq_build_iff (d : PageDefaults) (scope : Option (Layout ρ)) :
    let x : PagedFactory ρ := ⟨Pager.of d, scope⟩
    x.build Request.blank = .ok ⟨x.fresh.window.clamp d.maxSize, x.fresh.arguments⟩ ∧
    (∀ r a, x.build r = .ok a → a.window.Within d.maxSize) ∧
    (x.build Request.blank = .ok x.fresh ↔ x.fresh.window.Within d.maxSize) ∧
    (x.fresh.window.Within d.maxSize ↔ ∀ m, d.maxSize = some m → d.size ≤ m) := by
  intro x
  have most : x.pager.defaults.maxSize = d.maxSize := Pager.maxSize_of d
  have blank := x.build_blank
  rw [most] at blank
  refine ⟨blank, fun r a built => ?_, ?_, ?_⟩
  · rw [← most]
    exact Pager.within_of_window (build_eq_ok_iff.1 built).1
  · have same : (⟨x.fresh.window.clamp d.maxSize, x.fresh.arguments⟩ : Listing) = x.fresh ↔
        x.fresh.window.clamp d.maxSize = x.fresh.window := by
      constructor
      · exact congrArg Listing.window
      · intro window
        rw [window]
    rw [blank, Except.ok.injEq, same, Window.clamp_eq_self_iff]
  · have size : x.fresh.window.size = d.size := Pager.size_defaultWindow d
    rw [Window.Within, size]

open Directory in
theorem fresh_eq_build_iff_at_last_rows :
    let last : UInt64 := 18446744073709551615
    let wide : PagedFactory StockRule := ⟨Pager.of ⟨last - 50, last, some 20⟩, none⟩
    let narrow : PagedFactory StockRule := ⟨Pager.of ⟨last - 10, last, some 20⟩, none⟩
    let listed : Listing := ⟨⟨last - 50, last - 30, by decide⟩, Arguments.none⟩
    wide.build Request.blank = .ok listed ∧ listed.window.Within (some 20) ∧
    narrow.build Request.blank = .ok narrow.fresh := by
  intro last wide narrow listed
  obtain ⟨-, within, -⟩ := fresh_eq_build_iff (ρ := StockRule) ⟨last - 50, last, some 20⟩ none
  obtain ⟨-, -, same, fits⟩ := fresh_eq_build_iff (ρ := StockRule) ⟨last - 10, last, some 20⟩ none
  have built : wide.build Request.blank = .ok listed :=
    wide.build_blank.trans (congrArg Except.ok (by decide))
  refine ⟨built, within _ _ built, same.2 (fits.2 ?_)⟩
  rintro m ⟨⟩
  decide

open Directory in
/-- Fifty rows are shown unasked where twenty are the most. -/
theorem fresh_wider_than_page :
    let x : PagedFactory StockRule := ⟨Pager.of ⟨0, 50, some 20⟩, none⟩
    x.build Request.blank ≠ .ok x.fresh ∧ ¬ x.fresh.window.Within (some 20) := by
  intro x
  constructor
  · rw [build_blank, ne_eq, Except.ok.injEq]
    decide
  · intro within
    exact absurd (within 20 rfl) (by decide)

end PagedFactory

end FieldMapping
