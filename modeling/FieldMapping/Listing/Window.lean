import FieldMapping.Filter.Error

/-! Windows of rows, in 64-bit row numbers. A window never ends before it starts.
The default window fills in what a request leaves out, and a greatest size cuts a
request's window short at its end. -/

namespace FieldMapping

structure PageDefaults where
  startRow : UInt64 := 0
  endRow : UInt64 := 100
  maxSize : Option UInt64 := none
deriving DecidableEq

/-- An end before the start counts as an empty page. -/
def PageDefaults.size (d : PageDefaults) : UInt64 :=
  if d.startRow ≤ d.endRow then d.endRow - d.startRow else 0

def saturatingAdd (a b : UInt64) : UInt64 :=
  .ofNat (min (a.toNat + b.toNat) 18446744073709551615)

theorem toNat_saturatingAdd (a b : UInt64) :
    (saturatingAdd a b).toNat = min (a.toNat + b.toNat) 18446744073709551615 := by
  unfold saturatingAdd
  rw [UInt64.toNat_ofNat']
  omega

structure Window where
  start : UInt64
  stop : UInt64
  ordered : start ≤ stop
deriving DecidableEq

namespace Window

def size (w : Window) : UInt64 := w.stop - w.start

theorem toNat_size (w : Window) : w.size.toNat = w.stop.toNat - w.start.toNat :=
  UInt64.toNat_sub_of_le _ _ w.ordered

def clamp (w : Window) (most : Option UInt64) : Window :=
  match most with
  | none => w
  | some m =>
    if h : m < w.size then
      ⟨w.start, w.start + m, by
        have hs := w.toNat_size
        have hw := w.stop.toNat_lt
        have hm : m.toNat < w.size.toNat := UInt64.lt_iff_toNat_lt.1 h
        rw [UInt64.le_iff_toNat_le, UInt64.toNat_add]
        omega⟩
    else w

end Window

structure Pager where
  defaults : PageDefaults
  ordered : defaults.startRow ≤ defaults.endRow
deriving DecidableEq

namespace Pager

/-- A default window that ends before it starts becomes an empty one at its start. -/
def of (d : PageDefaults) : Pager :=
  if h : d.startRow ≤ d.endRow then ⟨d, h⟩
  else ⟨{ d with endRow := d.startRow }, UInt64.le_refl _⟩

/-- The window of the defaults alone; the greatest size does not touch it. -/
def defaultWindow (p : Pager) : Window := ⟨p.defaults.startRow, p.defaults.endRow, p.ordered⟩

/-- Without an end the window has the default size, wherever it starts. -/
def window (p : Pager) (start stop : Option UInt64) : Except Filter.Error Window :=
  let first := start.getD p.defaults.startRow
  let last := stop.getD (saturatingAdd first p.defaults.size)
  if h : first ≤ last then .ok (Window.clamp ⟨first, last, h⟩ p.defaults.maxSize)
  else .error (.invalid "startRow" "startRow" (.startPastEnd first last))

end Pager

end FieldMapping
