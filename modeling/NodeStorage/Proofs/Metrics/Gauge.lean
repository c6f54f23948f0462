/-
**A gauge shows what it was set to.**

A number that is put into the series of a label is found there (`findSeries_putSeries`), and a gauge
shows the number that is found (`Gauge.get_of_findSeries`). A count that fits into 64 bits is shown
as it is (`wrapSigned_of_lt`).
-/

import Mathlib.Algebra.Group.Nat.Defs
import NodeStorage.Metrics.Gauge

namespace NodeStorage.Metrics

/-- **What was put into a series is found there.** -/
theorem findSeries_putSeries (key : String) (value : Int) (series : List (String × Int)) :
    findSeries key (putSeries key value series) = some value := by
  rw [findSeries]
  induction series with
  | nil => simp [putSeries]
  | cons entry rest ih =>
    obtain ⟨name, old⟩ := entry
    rw [putSeries]
    split
    · simp
    · split
      · simp
      · rename_i other
        have passed : (name == key) = false := by simpa using Ne.symm other
        simp only [List.find?_cons, passed, ih]

/-- A count that fits is shown as it is. -/
theorem wrapSigned_of_lt {count : Nat} (fits : count < 2 ^ 63) :
    wrapSigned count = count := by
  rw [wrapSigned]
  exact Int.bmod_eq_of_le (by omega) (by omega)

namespace Gauge

theorem get_of_findSeries {gauge : Gauge} {key : String} {value : Int}
    (there : findSeries key gauge.series = some value) : (gauge.get key).1 = value := by
  rw [get, there]

/-- **A gauge has the number that it was set to last.** -/
theorem findSeries_set (gauge : Gauge) (key : String) (count : Int) :
    findSeries key (gauge.set key count).series = some (wrapSigned count) :=
  findSeries_putSeries key (wrapSigned count) gauge.series

end Gauge

end NodeStorage.Metrics
