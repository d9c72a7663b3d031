import WindowsListing.Switch
import Mathlib.Data.List.Basic

/-!
# What switches leave behind

A run of switches is read off the switches alone, whatever their number and
order. A field is on when a switch for it occurs. Order by time wins over
order by size, and of several colors the last one stands.
-/

set_option autoImplicit false

namespace WindowsListing

/-- The field a switch turns on. The order and the color are no such fields. -/
def Switch.field? : Switch → Option (Request → Bool)
  | .long => some fun r => r.flags.long
  | .all => some fun r => r.flags.all
  | .almostAll => some fun r => r.flags.almostAll
  | .humanReadable => some fun r => r.flags.humanReadable
  | .onePerLine => some fun r => r.flags.onePerLine
  | .recursive => some fun r => r.flags.recursive
  | .directory => some fun r => r.flags.directory
  | .classify => some fun r => r.flags.classify
  | .showSize => some fun r => r.flags.showSize
  | .sortByTime => none
  | .sortBySize => none
  | .reverse => some fun r => r.flags.reverse
  | .unsorted => some fun r => r.flags.unsorted
  | .color _ => none
  | .explain => some fun r => r.explain
  | .teach => some fun r => r.teach
  | .native => some fun r => r.native
  | .rosetta => some fun r => r.rosetta
  | .tree => some fun r => r.tree
  | .help => some fun r => r.help
  | .version => some fun r => r.version
  | .powershell => some fun r => r.powershell
  | .cmd => some fun r => r.cmd
  | .verbose => some fun r => r.verbose

def Switch.color? : Switch → Option ColorChoice
  | .color choice => some choice
  | _ => none

theorem color?_eq_none_of_field? (s : Switch) (field : Request → Bool)
    (h : s.field? = some field) : s.color? = none := by
  cases s with
  | color choice => cases h
  | _ => rfl

theorem turnOn_field (r : Request) (s t : Switch) (field : Request → Bool)
    (h : s.field? = some field) : field (r.turnOn t) = (decide (t = s) || field r) := by
  cases s <;> cases h <;> cases t <;> rfl

theorem turnOnAll_field (r : Request) (s : Switch) (ss : List Switch) (field : Request → Bool)
    (h : s.field? = some field) :
    field (r.turnOnAll ss) = true ↔ field r = true ∨ s ∈ ss := by
  induction ss generalizing r with
  | nil => simp [Request.turnOnAll]
  | cons t ts ih =>
    have hstep := turnOn_field r s t field h
    have hrun := ih (r.turnOn t)
    rw [hstep] at hrun
    change field ((r.turnOn t).turnOnAll ts) = true ↔ _
    rw [hrun]
    simp only [Bool.or_eq_true, decide_eq_true_eq, List.mem_cons, eq_comm (a := t)]
    tauto

theorem turnOn_sortBy (r : Request) (t : Switch) :
    (r.turnOn t).flags.sortBy =
      if t = .sortByTime then .time
      else if t = .sortBySize then r.flags.sortBy.orSize
      else r.flags.sortBy := by
  cases t <;> rfl

theorem turnOnAll_time (r : Request) (ss : List Switch) :
    (r.turnOnAll ss).flags.sortBy = .time ↔ r.flags.sortBy = .time ∨ .sortByTime ∈ ss := by
  induction ss generalizing r with
  | nil => simp [Request.turnOnAll]
  | cons t ts ih =>
    have hstep : (r.turnOn t).flags.sortBy = .time ↔
        r.flags.sortBy = .time ∨ Switch.sortByTime = t := by
      rw [turnOn_sortBy]
      by_cases ht : t = .sortByTime
      · simp [ht]
      · by_cases hs : t = .sortBySize
        · cases hk : r.flags.sortBy <;> simp [hs, SortKey.orSize]
        · simp [ht, hs, Ne.symm ht]
    change ((r.turnOn t).turnOnAll ts).flags.sortBy = .time ↔ _
    rw [ih, hstep, List.mem_cons, or_assoc]

theorem turnOnAll_name (r : Request) (ss : List Switch) :
    (r.turnOnAll ss).flags.sortBy = .name ↔
      r.flags.sortBy = .name ∧ .sortByTime ∉ ss ∧ .sortBySize ∉ ss := by
  induction ss generalizing r with
  | nil => simp [Request.turnOnAll]
  | cons t ts ih =>
    have hstep : (r.turnOn t).flags.sortBy = .name ↔
        r.flags.sortBy = .name ∧ Switch.sortByTime ≠ t ∧ Switch.sortBySize ≠ t := by
      rw [turnOn_sortBy]
      by_cases ht : t = .sortByTime
      · simp [ht]
      · by_cases hs : t = .sortBySize
        · cases hk : r.flags.sortBy <;> simp [hs, SortKey.orSize]
        · simp [ht, hs, Ne.symm ht, Ne.symm hs]
    change ((r.turnOn t).turnOnAll ts).flags.sortBy = .name ↔ _
    rw [ih, hstep, List.mem_cons, List.mem_cons]
    tauto

theorem turnOn_color (r : Request) (t : Switch) :
    (r.turnOn t).flags.color = t.color?.getD r.flags.color := by
  cases t <;> rfl

theorem turnOnAll_color (r : Request) (ss : List Switch) :
    (r.turnOnAll ss).flags.color = (ss.filterMap Switch.color?).getLast?.getD r.flags.color := by
  induction ss generalizing r with
  | nil => rfl
  | cons t ts ih =>
    change ((r.turnOn t).turnOnAll ts).flags.color = _
    rw [ih, turnOn_color]
    cases ht : t.color? with
    | none => simp [ht]
    | some choice => cases hl : (ts.filterMap Switch.color?).getLast? <;>
        simp [ht, hl, List.getLast?_cons]

end WindowsListing
