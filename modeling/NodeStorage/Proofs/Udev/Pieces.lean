/-
**Lines are read whole, however their bytes arrive.**

A watch waits for a line and for its clock at the same time, so a tick interrupts the reading of a
line; the bytes that have arrived stay (`Reading.wake`). What a watch sees of its source depends on
the bytes in their order, and on when line feeds, failures and the end arrive. It does not depend on
how the bytes of a line are cut into pieces, nor on what happens between the pieces.

* `read` — what happens to a watch, given all that wakes it; `foldl_wake` — the loop does just that.
* `told` — it can be told from the bytes without their times (`carried`) and from the rest with its
  times (`marks`).
* `read_timeline` — so the watch of a monitor is the loop on its deliveries, its ticks and what its
  receiver does, ordered by time.
* `lines_read_whole` — all of this together (`LinesWhole`).
-/

import Mathlib.Data.List.Sort
import NodeStorage.Proofs.Udev.Signals

namespace NodeStorage.Udev

/-! ### The loop -/

/-- What wakes a watch: its source, its clock or its receiver. -/
inductive Wake where
  | delivery (delivery : Delivery)
  | moment (moment : Moment)

/-- A watch in the course of time, with the bytes that wait for the rest of their line. -/
structure Reading where
  course : Course
  waiting : List UInt8

/-- The watch wakes up once. Whatever is not a delivery leaves the waiting bytes as they are. -/
def Reading.wake (filter : Filter) (isEager : Bool) (time : Nat) (reading : Reading) :
    Wake → Reading
  | .delivery delivery =>
    let (got, left) := receive reading.waiting delivery
    ⟨got.foldl (fun course arrival =>
      course.advance filter isEager time (.happening (.arrival arrival))) reading.course, left⟩
  | .moment moment => { reading with course := reading.course.advance filter isEager time moment }

/-- The loop of a watch, from the beginning. -/
def Reading.run (filter : Filter) (isEager : Bool) (timeline : List (Nat × Wake)) : Reading :=
  timeline.foldl (fun reading (time, wake) => reading.wake filter isEager time wake)
    ⟨⟨Watch.start, [], none⟩, []⟩

/-- What happens to the watch, given the bytes that wait. -/
def read (waiting : List UInt8) : List (Nat × Wake) → List (Nat × Moment)
  | [] => []
  | (time, .delivery delivery) :: later =>
    let (got, left) := receive waiting delivery
    got.map (fun arrival => (time, .happening (.arrival arrival))) ++ read left later
  | (time, .moment moment) :: later => (time, moment) :: read waiting later

/-- **The loop lets happen what is read.** -/
theorem foldl_wake (filter : Filter) (isEager : Bool) (course : Course) (waiting : List UInt8)
    (timeline : List (Nat × Wake)) :
    (timeline.foldl (fun reading (time, wake) => Reading.wake filter isEager time reading wake)
        ⟨course, waiting⟩).course =
      (read waiting timeline).foldl
        (fun course (time, moment) => course.advance filter isEager time moment) course := by
  induction timeline generalizing course waiting with
  | nil => rfl
  | cons head later ih =>
    obtain ⟨time, delivery | moment⟩ := head
    · rw [List.foldl_cons, read, List.foldl_append, List.foldl_map]
      exact ih _ _
    · rw [List.foldl_cons, read, List.foldl_cons]
      exact ih _ _

/-! ### Lines -/

theorem cutLine_eq_none {bytes : List UInt8} (free : (10 : UInt8) ∉ bytes) :
    cutLine bytes = none := by
  induction bytes with
  | nil => rfl
  | cons byte rest ih =>
    obtain ⟨other, later⟩ := not_or.mp fun inside => free (List.mem_cons.mpr inside)
    rw [cutLine, if_neg (Ne.symm other), ih later]
    rfl

theorem cutLine_append {line : List UInt8} (free : (10 : UInt8) ∉ line) (rest : List UInt8) :
    cutLine (line ++ 10 :: rest) = some (line, rest) := by
  induction line with
  | nil => rfl
  | cons byte line ih =>
    obtain ⟨other, later⟩ := not_or.mp fun inside => free (List.mem_cons.mpr inside)
    rw [List.cons_append, cutLine, if_neg (Ne.symm other), ih later]
    rfl

/-- Bytes without a line feed wait. -/
theorem takeLines_of_free {bytes : List UInt8} (free : (10 : UInt8) ∉ bytes) :
    takeLines bytes = ([], bytes) := by
  rw [takeLines]
  split
  · rfl
  · rename_i line rest found
    rw [cutLine_eq_none free] at found
    cases found

/-- A line feed completes a line. -/
theorem takeLines_append {line : List UInt8} (free : (10 : UInt8) ∉ line) (rest : List UInt8) :
    takeLines (line ++ 10 :: rest) =
      (arrivalOf line true :: (takeLines rest).1, (takeLines rest).2) := by
  rw [takeLines]
  split
  · rename_i found
    rw [cutLine_append free] at found
    cases found
  · rename_i found
    rw [cutLine_append free] at found
    cases found
    rfl

/-! ### What matters -/

/-- A delivery in its parts: every byte by itself. -/
def Delivery.parts : Delivery → List Delivery
  | .bytes piece => piece.map fun byte => .bytes [byte]
  | .failure reason => [.failure reason]
  | .ended => [.ended]

/-- It completes something: it has a line feed, fails or ends. -/
def Delivery.completes : Delivery → Bool
  | .bytes piece => piece.contains 10
  | _ => true

/-- The bytes of a delivery. -/
def Delivery.text : Delivery → List UInt8
  | .bytes piece => piece
  | _ => []

/-- **What the source delivers**, in parts and without times. -/
def carried : List (Nat × Wake) → List Delivery
  | [] => []
  | (_, .delivery delivery) :: later => delivery.parts ++ carried later
  | (_, .moment _) :: later => carried later

/-- **All but the bytes within lines**, with times: line feeds, failures, ends, and what else wakes
the watch. -/
def marks : List (Nat × Wake) → List (Nat × Wake)
  | [] => []
  | (time, .delivery delivery) :: later =>
    (delivery.parts.filter Delivery.completes).map (fun part => (time, .delivery part)) ++
      marks later
  | (time, .moment moment) :: later => (time, .moment moment) :: marks later

/-- **The same lines at the same times**: the same bytes in the same order, with line feeds,
failures, ends and all else around the watch in the same order and at the same times. Where the
bytes within a line are cut, and when the pieces come, is left open. -/
structure SameLines (first second : List (Nat × Wake)) : Prop where
  carried : carried first = carried second
  marks : marks first = marks second

/-- The text in front of what completes something. -/
def textBefore (parts : List Delivery) : List UInt8 :=
  (parts.takeWhile fun part => !part.completes).flatMap Delivery.text

/-- What follows what completes something. -/
def partsAfter (parts : List Delivery) : List Delivery :=
  (parts.dropWhile fun part => !part.completes).tail

/-- The bytes that wait, in parts. -/
def waitingParts (waiting : List UInt8) : List Delivery :=
  (Delivery.bytes waiting).parts

/-- What happens to the watch, told from what matters. -/
def replay (parts : List Delivery) : List (Nat × Wake) → List (Nat × Moment)
  | [] => []
  | (time, .delivery delivery) :: later =>
    let (got, left) := receive (textBefore parts) delivery
    got.map (fun arrival => (time, .happening (.arrival arrival))) ++
      replay (waitingParts left ++ partsAfter parts) later
  | (time, .moment moment) :: later => (time, moment) :: replay parts later

theorem completes_of_free {byte : UInt8} (other : byte ≠ 10) :
    (Delivery.bytes [byte]).completes = false := by
  show [byte].contains 10 = false
  rw [List.contains_eq_mem, decide_eq_false_iff_not, List.mem_singleton]
  exact other.symm

theorem waitingParts_concat (waiting : List UInt8) (byte : UInt8) :
    waitingParts (waiting ++ [byte]) = waitingParts waiting ++ [.bytes [byte]] :=
  List.map_append

theorem textBefore_waiting {waiting : List UInt8} (free : (10 : UInt8) ∉ waiting)
    {part : Delivery} (completes : part.completes = true) (parts : List Delivery) :
    textBefore (waitingParts waiting ++ part :: parts) = waiting := by
  induction waiting with
  | nil =>
    unfold textBefore waitingParts
    rw [Delivery.parts, List.map_nil, List.nil_append, List.takeWhile_cons, completes]
    rfl
  | cons byte waiting ih =>
    have further := ih fun inside => free (List.mem_cons_of_mem _ inside)
    have other := completes_of_free (List.ne_of_not_mem_cons free).symm
    unfold textBefore waitingParts at further ⊢
    rw [Delivery.parts] at further ⊢
    rw [List.map_cons, List.cons_append, List.takeWhile_cons, other]
    exact congrArg (byte :: ·) further

theorem partsAfter_waiting {waiting : List UInt8} (free : (10 : UInt8) ∉ waiting)
    {part : Delivery} (completes : part.completes = true) (parts : List Delivery) :
    partsAfter (waitingParts waiting ++ part :: parts) = parts := by
  induction waiting with
  | nil =>
    unfold partsAfter waitingParts
    rw [Delivery.parts, List.map_nil, List.nil_append, List.dropWhile_cons, completes]
    rfl
  | cons byte waiting ih =>
    have further := ih fun inside => free (List.mem_cons_of_mem _ inside)
    have other := completes_of_free (List.ne_of_not_mem_cons free).symm
    unfold partsAfter waitingParts at further ⊢
    rw [Delivery.parts] at further ⊢
    rw [List.map_cons, List.cons_append, List.dropWhile_cons, other]
    exact further

theorem marks_text {time : Nat} {byte : UInt8} (other : byte ≠ 10) (piece : List UInt8)
    (later : List (Nat × Wake)) :
    marks ((time, .delivery (.bytes (byte :: piece))) :: later) =
      marks ((time, .delivery (.bytes piece)) :: later) := by
  rw [marks, marks, Delivery.parts, Delivery.parts, List.map_cons, List.filter_cons,
    completes_of_free other]
  rfl

/-- What completes something is told with the bytes that wait for it. -/
theorem replay_mark {waiting : List UInt8} (free : (10 : UInt8) ∉ waiting) {part : Delivery}
    (completes : part.completes = true) (time : Nat) (parts : List Delivery)
    (later : List (Nat × Wake)) :
    replay (waitingParts waiting ++ part :: parts) ((time, .delivery part) :: later) =
      (receive waiting part).1.map (fun arrival => (time, .happening (.arrival arrival))) ++
        replay (waitingParts (receive waiting part).2 ++ parts) later := by
  rw [replay, textBefore_waiting free completes, partsAfter_waiting free completes]

/-- A line feed completes the line that waits. -/
theorem receive_feed {waiting : List UInt8} (free : (10 : UInt8) ∉ waiting) :
    receive waiting (.bytes [10]) = ([arrivalOf waiting true], []) := by
  rw [receive, takeLines_append free, takeLines_of_free List.not_mem_nil]

theorem read_feed {waiting : List UInt8} (free : (10 : UInt8) ∉ waiting) (time : Nat)
    (piece : List UInt8) (later : List (Nat × Wake)) :
    read waiting ((time, .delivery (.bytes (10 :: piece))) :: later) =
      (time, .happening (.arrival (arrivalOf waiting true))) ::
        read [] ((time, .delivery (.bytes piece)) :: later) := by
  simp only [read, receive, takeLines_append free, List.nil_append, List.map_cons,
    List.cons_append]

/-- A byte of a line waits with those before it. -/
theorem read_text (waiting : List UInt8) (time : Nat) (byte : UInt8) (piece : List UInt8)
    (later : List (Nat × Wake)) :
    read waiting ((time, .delivery (.bytes (byte :: piece))) :: later) =
      read (waiting ++ [byte]) ((time, .delivery (.bytes piece)) :: later) := by
  simp only [read, receive, List.append_assoc, List.singleton_append]

/-- What comes later can be told from what matters, whatever waits. -/
def Told (later : List (Nat × Wake)) : Prop :=
  ∀ waiting, (10 : UInt8) ∉ waiting →
    read waiting later = replay (waitingParts waiting ++ carried later) (marks later)

/-- **A piece is told byte by byte.** -/
theorem told_piece {later : List (Nat × Wake)} (told : Told later) (time : Nat)
    (piece : List UInt8) : Told ((time, .delivery (.bytes piece)) :: later) := by
  induction piece with
  | nil =>
    intro waiting free
    rw [read, receive, List.append_nil, takeLines_of_free free]
    exact told waiting free
  | cons byte piece ih =>
    intro waiting free
    by_cases feed : byte = 10
    · subst feed
      have completes : (Delivery.bytes [10]).completes = true := rfl
      have mark := replay_mark free completes time
        (carried ((time, .delivery (.bytes piece)) :: later))
        (marks ((time, .delivery (.bytes piece)) :: later))
      rw [receive_feed free] at mark
      rw [read_feed free, ih [] List.not_mem_nil]
      exact mark.symm
    · have longer : (10 : UInt8) ∉ waiting ++ [byte] := by
        simp [free, Ne.symm feed]
      rw [read_text, ih _ longer, waitingParts_concat, marks_text feed, List.append_assoc]
      rfl

/-- So is what is no piece. -/
theorem told_mark {later : List (Nat × Wake)} (told : Told later) (time : Nat) {part : Delivery}
    (whole : part.parts = [part]) (completes : part.completes = true)
    (kept : ∀ waiting, (10 : UInt8) ∉ waiting → (10 : UInt8) ∉ (receive waiting part).2) :
    Told ((time, .delivery part) :: later) := by
  intro waiting free
  have carries : carried ((time, .delivery part) :: later) = part :: carried later := by
    rw [carried, whole, List.singleton_append]
  have marked : marks ((time, .delivery part) :: later) =
      (time, .delivery part) :: marks later := by
    rw [marks, whole, List.filter_cons_of_pos completes]
    rfl
  rw [carries, marked, replay_mark free completes, ← told _ (kept waiting free)]
  rfl

/-- **What happens can be told from what matters.** -/
theorem told (timeline : List (Nat × Wake)) : Told timeline := by
  induction timeline with
  | nil => exact fun _ _ => rfl
  | cons head later ih =>
    obtain ⟨time, delivery | moment⟩ := head
    · cases delivery with
      | bytes piece => exact told_piece ih time piece
      | failure reason => exact told_mark ih time rfl rfl fun _ free => free
      | ended =>
        refine told_mark ih time rfl rfl fun waiting _ => ?_
        rw [receive]
        split <;> exact List.not_mem_nil
    · intro waiting free
      rw [read, carried, marks, replay, ih waiting free]

/-- **The same lines at the same times let the same happen.** -/
theorem SameLines.read_eq {first second : List (Nat × Wake)} (same : SameLines first second) :
    read [] first = read [] second := by
  rw [told first [] List.not_mem_nil, told second [] List.not_mem_nil, same.carried, same.marks]

/-! ### Order by time -/

section Sorting

variable {α : Type} {le : α → α → Bool}

/-- What is first and is not from the left is from the right. -/
theorem merge_head {as bs cs : List α} {b c : α} (merged : List.merge as (b :: bs) le = c :: cs)
    (foreign : c ∉ as) : c = b ∧ List.merge as bs le = cs := by
  cases as with
  | nil =>
    rw [List.nil_merge] at merged ⊢
    cases merged
    exact ⟨rfl, rfl⟩
  | cons a as =>
    rw [List.cons_merge_cons] at merged
    split at merged
    · cases merged
      exact absurd List.mem_cons_self foreign
    · cases merged
      exact ⟨rfl, rfl⟩

/-- What goes before all of the left goes where what is merged turns. -/
theorem merge_cons {a : α} {as : List α} (first : ∀ other ∈ as, le a other = true)
    {before after : List α} (later : ∀ other ∈ after, le a other = true)
    (earlier : ∀ other ∈ before, le a other = false) {bs : List α}
    (merged : List.merge as bs le = before ++ after) :
    List.merge (a :: as) bs le = before ++ a :: after := by
  induction before generalizing bs with
  | nil =>
    cases bs with
    | nil =>
      rw [List.merge_right] at merged ⊢
      exact congrArg (a :: ·) merged
    | cons b bs =>
      have inside : b ∈ after := by
        rw [← List.nil_append after, ← merged]
        exact List.mem_merge.mpr (Or.inr List.mem_cons_self)
      rw [List.cons_merge_cons, if_pos (later b inside), merged]
      rfl
  | cons c before ih =>
    obtain ⟨notFirst, earlier⟩ := List.forall_mem_cons.mp earlier
    have foreign : c ∉ as := fun inside => by
      rw [first c inside] at notFirst
      cases notFirst
    cases bs with
    | nil =>
      rw [List.merge_right] at merged
      exact absurd (merged ▸ List.mem_cons_self) foreign
    | cons b bs =>
      obtain ⟨rfl, rest⟩ := merge_head merged foreign
      rw [List.cons_merge_cons, if_neg (by rw [notFirst]; decide), ih earlier rest]
      rfl

/-- **A sorted list in front is merged into the rest.** -/
theorem mergeSort_append (trans : ∀ a b c, le a b = true → le b c = true → le a c = true)
    (total : ∀ a b, (le a b || le b a) = true) {sorted : List α}
    (inOrder : sorted.Pairwise fun a b => le a b = true) (others : List α) :
    (sorted ++ others).mergeSort le = List.merge sorted (others.mergeSort le) le := by
  induction sorted with
  | nil => rw [List.nil_append, List.nil_merge]
  | cons a as ih =>
    obtain ⟨first, inOrder⟩ := List.pairwise_cons.mp inOrder
    obtain ⟨before, after, whole, rest, earlier⟩ := List.mergeSort_cons trans total a (as ++ others)
    have sorted := List.pairwise_mergeSort trans total (a :: as ++ others)
    rw [List.cons_append, whole] at sorted ⊢
    have later := (List.pairwise_cons.mp (List.pairwise_append.mp sorted).2.1).1
    refine (merge_cons first later (fun other member => ?_) ((ih inOrder).symm.trans rest)).symm
    exact (Bool.not_eq_true' _).mp (earlier other member)

/-- What is before the right goes first. -/
theorem merge_append {front as bs : List α} {b : α}
    (earlier : ∀ other ∈ front, le other b = true) :
    List.merge (front ++ as) (b :: bs) le = front ++ List.merge as (b :: bs) le := by
  induction front with
  | nil => rfl
  | cons a front ih =>
    obtain ⟨here, earlier⟩ := List.forall_mem_cons.mp earlier
    rw [List.cons_append, List.cons_merge_cons, if_pos here, ih earlier]
    rfl

/-- What is before the left goes first. -/
theorem merge_right_first {as bs : List α} {b : α} (later : ∀ other ∈ as, le other b = false) :
    List.merge as (b :: bs) le = b :: List.merge as bs le := by
  cases as with
  | nil => rw [List.nil_merge, List.nil_merge]
  | cons a as =>
    rw [List.cons_merge_cons, later a List.mem_cons_self]
    rfl

end Sorting

/-! ### Monitors -/

/-- Deliveries as what wakes a watch. -/
def wakes (deliveries : List (Nat × Delivery)) : List (Nat × Wake) :=
  deliveries.map fun (time, delivery) => (time, .delivery delivery)

/-- What happens to the watch by the arrivals alone. -/
theorem read_wakes (waiting : List UInt8) (deliveries : List (Nat × Delivery)) :
    read waiting (wakes deliveries) =
      (arrivals waiting deliveries).map fun (time, arrival) =>
        (time, .happening (.arrival arrival)) := by
  induction deliveries generalizing waiting with
  | nil => rfl
  | cons head later ih =>
    obtain ⟨time, delivery⟩ := head
    rw [arrivals, List.map_append, List.map_map, ← ih]
    rfl

/-- One thing is not later than another. -/
def notLater {α : Type} (left right : Nat × α) : Bool :=
  decide (left.1 ≤ right.1)

theorem notLater_iff {α : Type} {left right : Nat × α} :
    notLater left right = true ↔ left.1 ≤ right.1 :=
  decide_eq_true_iff

/-- The deliveries come in the order of their times. -/
def InOrder (deliveries : List (Nat × Delivery)) : Prop :=
  deliveries.Pairwise fun left right => left.1 ≤ right.1

/-- What else wakes a watch. -/
def others (moments : List (Nat × Moment)) : List (Nat × Wake) :=
  moments.map fun (time, moment) => (time, .moment moment)

theorem read_others (waiting : List UInt8) (moments : List (Nat × Moment)) :
    read waiting (others moments) = moments := by
  induction moments with
  | nil => rfl
  | cons head later ih => exact congrArg (head :: ·) ih

/-- What is read is read when something is delivered. -/
theorem exists_delivery_of_read {waiting : List UInt8} {deliveries : List (Nat × Delivery)}
    {found : Nat × Moment} (inside : found ∈ read waiting (wakes deliveries)) :
    ∃ delivery ∈ deliveries, delivery.1 = found.1 := by
  induction deliveries generalizing waiting with
  | nil => cases inside
  | cons head later ih =>
    obtain ⟨time, delivery⟩ := head
    rcases List.mem_append.mp inside with now | further
    · obtain ⟨arrival, -, rfl⟩ := List.mem_map.mp now
      exact ⟨_, List.mem_cons_self, rfl⟩
    · obtain ⟨other, member, same⟩ := ih further
      exact ⟨other, List.mem_cons_of_mem _ member, same⟩

/-- What is read comes in order, too. -/
theorem pairwise_read {deliveries : List (Nat × Delivery)} (inOrder : InOrder deliveries)
    (waiting : List UInt8) :
    (read waiting (wakes deliveries)).Pairwise fun left right => notLater left right = true := by
  induction deliveries generalizing waiting with
  | nil => exact .nil
  | cons head later ih =>
    obtain ⟨time, delivery⟩ := head
    obtain ⟨first, inOrder⟩ := List.pairwise_cons.mp inOrder
    refine List.pairwise_append.mpr ⟨?_, ih inOrder _, ?_⟩
    · refine List.pairwise_map.mpr (List.pairwise_of_forall fun _ _ => ?_)
      exact notLater_iff.mpr (Nat.le_refl time)
    · intro now member next member'
      obtain ⟨arrival, -, rfl⟩ := List.mem_map.mp member
      obtain ⟨other, inside, same⟩ := exists_delivery_of_read member'
      exact notLater_iff.mpr (same ▸ first other inside)

/-- **Reading commutes with putting other things between the deliveries.** -/
theorem read_merge {deliveries : List (Nat × Delivery)} (inOrder : InOrder deliveries)
    (waiting : List UInt8) (moments : List (Nat × Moment)) :
    read waiting (List.merge (wakes deliveries) (others moments) notLater) =
      List.merge (read waiting (wakes deliveries)) moments notLater := by
  induction deliveries generalizing waiting moments with
  | nil =>
    show read waiting (List.merge [] (others moments) notLater) = List.merge [] moments notLater
    rw [List.nil_merge, List.nil_merge, read_others]
  | cons head later ih =>
    obtain ⟨time, delivery⟩ := head
    obtain ⟨first, ordered⟩ := List.pairwise_cons.mp inOrder
    induction moments with
    | nil =>
      show read waiting (List.merge _ [] notLater) = List.merge _ [] notLater
      rw [List.merge_right, List.merge_right]
    | cons moment moments further =>
      obtain ⟨other, what⟩ := moment
      show read waiting (List.merge ((time, .delivery delivery) :: wakes later)
          ((other, .moment what) :: others moments) notLater) = _
      rw [List.cons_merge_cons]
      by_cases now : time ≤ other
      · rw [if_pos (notLater_iff.mpr now)]
        -- The delivery is read now, and the rest of it is merged with what comes then.
        have earlier : ∀ found ∈ (receive waiting delivery).1.map (fun arrival =>
            (time, Moment.happening (.arrival arrival))), notLater found (other, what) = true := by
          intro found member
          obtain ⟨arrival, -, rfl⟩ := List.mem_map.mp member
          exact notLater_iff.mpr now
        show _ ++ read (receive waiting delivery).2
            (List.merge (wakes later) (others ((other, what) :: moments)) notLater) =
          List.merge (_ ++ read (receive waiting delivery).2 (wakes later))
            ((other, what) :: moments) notLater
        rw [ih ordered]
        exact (merge_append earlier).symm
      · rw [if_neg (mt notLater_iff.mp now)]
        have after : ∀ found ∈ read waiting (wakes ((time, delivery) :: later)),
            notLater found (other, what) = false := by
          intro found member
          obtain ⟨origin, inside, same⟩ := exists_delivery_of_read member
          have notBefore : time ≤ found.1 := by
            rcases List.mem_cons.mp inside with rfl | inside
            · exact Nat.le_of_eq same
            · exact same ▸ first origin inside
          exact decide_eq_false fun before => now (Nat.le_trans notBefore before)
        rw [merge_right_first after, ← further]
        rfl

/-- When the source ends at the latest. -/
def endOf (deliveries : List (Nat × Delivery)) : Nat :=
  (deliveries.getLast?.map Prod.fst).getD 0

/-- What happens to a watch besides the deliveries. -/
def around (monitor : Monitor) (last : Nat) (receiver : Receiver) : List (Nat × Moment) :=
  ((tickTimes monitor.period last).map fun time => (time, .happening .tick)) ++
    receiverMoments receiver

/-- All that wakes the watch of a monitor, by time. -/
def timeline (monitor : Monitor) (deliveries : List (Nat × Delivery)) (receiver : Receiver) :
    List (Nat × Wake) :=
  (wakes (ended deliveries) ++
    others (around monitor (endOf deliveries) receiver)).mergeSort notLater

theorem endOf_ended (deliveries : List (Nat × Delivery)) :
    endOf (ended deliveries) = endOf deliveries := by
  unfold endOf ended
  rw [List.getLast?_concat]
  rfl

theorem moments_eq (monitor : Monitor) (deliveries : List (Nat × Delivery)) (receiver : Receiver) :
    moments monitor deliveries receiver =
      (read [] (wakes (ended deliveries)) ++
        around monitor (endOf deliveries) receiver).mergeSort notLater := by
  unfold around
  rw [read_wakes, ← endOf_ended, ← List.append_assoc]
  rfl

theorem inOrder_ended {deliveries : List (Nat × Delivery)} (inOrder : InOrder deliveries) :
    InOrder (ended deliveries) := by
  refine List.pairwise_append.mpr ⟨inOrder, List.pairwise_singleton _ _, ?_⟩
  intro delivery member finish member'
  obtain rfl := List.mem_singleton.mp member'
  show delivery.1 ≤ endOf deliveries
  rcases List.eq_nil_or_concat deliveries with rfl | ⟨before, final, rfl⟩
  · cases member
  · rw [List.concat_eq_append] at inOrder member ⊢
    unfold endOf
    rw [List.getLast?_concat]
    rcases List.mem_append.mp member with earlier | isLast
    · exact (List.pairwise_append.mp inOrder).2.2 _ earlier _ (List.mem_singleton_self _)
    · exact Nat.le_of_eq (congrArg Prod.fst (List.mem_singleton.mp isLast))

theorem notLater_trans {α : Type} (first second third : Nat × α)
    (before : notLater first second = true) (after : notLater second third = true) :
    notLater first third = true :=
  notLater_iff.mpr (Nat.le_trans (notLater_iff.mp before) (notLater_iff.mp after))

theorem notLater_total {α : Type} (left right : Nat × α) :
    (notLater left right || notLater right left) = true := by
  rw [Bool.or_eq_true, notLater_iff, notLater_iff]
  exact Nat.le_total left.1 right.1

/-- **What is read from the timeline of a monitor is what happens to its watch.** -/
theorem read_timeline {deliveries : List (Nat × Delivery)} (inOrder : InOrder deliveries)
    (monitor : Monitor) (receiver : Receiver) :
    read [] (timeline monitor deliveries receiver) = moments monitor deliveries receiver := by
  have ordered := inOrder_ended inOrder
  have sorted : (wakes (ended deliveries)).Pairwise
      fun left right => notLater left right = true :=
    List.pairwise_map.mpr (ordered.imp notLater_iff.mpr)
  have mapped := List.map_mergeSort (r := notLater) (s := notLater)
    (f := fun (moment : Nat × Moment) => (moment.1, Wake.moment moment.2))
    (l := around monitor (endOf deliveries) receiver) fun _ _ _ _ => rfl
  rw [moments_eq, timeline, mergeSort_append notLater_trans notLater_total sorted,
    mergeSort_append notLater_trans notLater_total (pairwise_read ordered []), others, ← mapped]
  exact read_merge ordered [] _

/-! ### Cutting a line -/

theorem carried_append (first second : List (Nat × Wake)) :
    carried (first ++ second) = carried first ++ carried second := by
  induction first with
  | nil => rfl
  | cons head later ih =>
    obtain ⟨time, delivery | moment⟩ := head
    · rw [List.cons_append, carried, carried, ih, List.append_assoc]
    · exact ih

theorem marks_append (first second : List (Nat × Wake)) :
    marks (first ++ second) = marks first ++ marks second := by
  induction first with
  | nil => rfl
  | cons head later ih =>
    obtain ⟨time, delivery | moment⟩ := head
    · rw [List.cons_append, marks, marks, ih, List.append_assoc]
    · exact congrArg (_ :: ·) ih

theorem carried_others (moments : List (Nat × Moment)) : carried (others moments) = [] := by
  induction moments with
  | nil => rfl
  | cons head later ih => exact ih

theorem carried_piece (time : Nat) (text rest : List UInt8) (later : List (Nat × Wake)) :
    carried ((time, .delivery (.bytes (text ++ rest))) :: later) =
      (Delivery.bytes text).parts ++ ((Delivery.bytes rest).parts ++ carried later) := by
  simp only [carried, Delivery.parts, List.map_append, List.append_assoc]

theorem marks_piece {text : List UInt8} (free : (10 : UInt8) ∉ text) (time : Nat)
    (rest : List UInt8) (later : List (Nat × Wake)) :
    marks ((time, .delivery (.bytes (text ++ rest))) :: later) =
      marks ((time, .delivery (.bytes rest)) :: later) := by
  induction text with
  | nil => rfl
  | cons byte text ih =>
    rw [List.cons_append, marks_text (List.ne_of_not_mem_cons free).symm]
    exact ih (List.not_mem_of_not_mem_cons free)

/-- Text without a line feed leaves no mark. -/
theorem marks_of_free {text : List UInt8} (free : (10 : UInt8) ∉ text) (time : Nat)
    (later : List (Nat × Wake)) :
    marks ((time, .delivery (.bytes text)) :: later) = marks later := by
  have alone := marks_piece free time [] later
  rw [List.append_nil] at alone
  exact alone

/-- **A line may be cut anywhere**, and anything may happen between its pieces. -/
theorem sameLines_cut {text : List UInt8} (free : (10 : UInt8) ∉ text)
    (before : List (Nat × Wake)) (soon time : Nat) (between : List (Nat × Moment))
    (rest : List UInt8) (later : List (Nat × Wake)) :
    SameLines
      (before ++ (soon, .delivery (.bytes text)) ::
        (others between ++ (time, .delivery (.bytes rest)) :: later))
      (before ++ (others between ++ (time, .delivery (.bytes (text ++ rest))) :: later)) where
  carried := by
    rw [carried_append, carried_append, carried_append, carried, carried_append, carried_others,
      carried_piece]
    rfl
  marks := by
    rw [marks_append, marks_append, marks_of_free free, marks_append, marks_append,
      marks_piece free]

/-! ### Feeds -/

theorem wakes_ended (deliveries : List (Nat × Delivery)) :
    wakes (ended deliveries) =
      wakes deliveries ++ [(endOf deliveries, .delivery .ended)] :=
  List.map_append

/-- Two feeds of the same lines end at the same time. -/
theorem SameLines.endOf_eq {first second : List (Nat × Delivery)}
    (same : SameLines (wakes (ended first)) (wakes (ended second))) :
    endOf first = endOf second := by
  have marked := same.marks
  rw [wakes_ended, wakes_ended, marks_append, marks_append] at marked
  have lasts := (List.append_inj' marked rfl).2
  exact congrArg Prod.fst (List.head_eq_of_cons_eq lasts)

/-- **The same happens to the watch of a monitor.** -/
theorem SameLines.moments_eq {first second : List (Nat × Delivery)}
    (same : SameLines (wakes (ended first)) (wakes (ended second))) (monitor : Monitor)
    (receiver : Receiver) :
    moments monitor first receiver = moments monitor second receiver := by
  rw [Udev.moments_eq, Udev.moments_eq, same.read_eq, same.endOf_eq]

/-- When signals are put into the channel. -/
def Course.signalTimes (filter : Filter) (isEager : Bool) :
    Course → List (Nat × Moment) → List Nat
  | _, [] => []
  | course, (time, .poll) :: later =>
    signalTimes filter isEager (course.advance filter isEager time .poll) later
  | course, (time, .happening happening) :: later =>
    let rest := signalTimes filter isEager
      (course.advance filter isEager time (.happening happening)) later
    if Occurrence.Puts filter ⟨course.watch, happening⟩ then time :: rest else rest

/-- When a monitor sends signals. -/
def Monitor.signalTimes (monitor : Monitor) (deliveries : List (Nat × Delivery))
    (receiver : Receiver) : List Nat :=
  Course.signalTimes monitor.filter receiver.isEager ⟨Watch.start, [], none⟩
    (moments monitor deliveries receiver)

/-! ### In short -/

/-- **Lines are read whole.** -/
structure LinesWhole (monitor : Monitor) (receiver : Receiver) : Prop where
  /-- Two feeds of the same lines at the same times lead to the same result at the same time, to
  the same notes of the receiver, and to signals at the same times. -/
  feeds : ∀ {first second}, SameLines (wakes (ended first)) (wakes (ended second)) →
    monitor.watch first receiver = monitor.watch second receiver ∧
      monitor.signalTimes first receiver = monitor.signalTimes second receiver
  /-- The watch is a loop that every tick interrupts in the middle of a line. -/
  loop : ∀ {deliveries}, InOrder deliveries →
    monitor.watch deliveries receiver =
      (Reading.run monitor.filter receiver.isEager (timeline monitor deliveries receiver)).course
  /-- In whatever order the loop is woken up: where the lines are the same, the same happens to the
  watch at the same times, and the loop leads to the same. -/
  orders : ∀ {first second}, SameLines first second →
    read [] first = read [] second ∧
      (Reading.run monitor.filter receiver.isEager first).course =
        (Reading.run monitor.filter receiver.isEager second).course
  /-- So a line whose first bytes come early, before ticks or after them, is read as if its bytes
  had come together. -/
  interrupted : ∀ {text}, (10 : UInt8) ∉ text → ∀ before soon time between rest later,
    (Reading.run monitor.filter receiver.isEager
        (before ++ (soon, .delivery (.bytes text)) ::
          (others between ++ (time, .delivery (.bytes rest)) :: later))).course =
      (Reading.run monitor.filter receiver.isEager
        (before ++ (others between ++
          (time, .delivery (.bytes (text ++ rest))) :: later))).course

/-- The loop leads where what is read leads. -/
theorem course_run (filter : Filter) (isEager : Bool) (timeline : List (Nat × Wake)) :
    (Reading.run filter isEager timeline).course =
      (read [] timeline).foldl
        (fun course (time, moment) => course.advance filter isEager time moment)
        ⟨Watch.start, [], none⟩ :=
  foldl_wake filter isEager _ [] timeline

/-- **Lines are read whole, however their bytes arrive**, by every monitor and with every
receiver. -/
theorem lines_read_whole (monitor : Monitor) (receiver : Receiver) :
    LinesWhole monitor receiver where
  feeds := by
    intro first second same
    have moments := same.moments_eq monitor receiver
    refine ⟨?_, ?_⟩
    · unfold Monitor.watch
      rw [moments]
    · unfold Monitor.signalTimes
      rw [moments]
  loop := by
    intro deliveries inOrder
    rw [course_run, read_timeline inOrder]
    rfl
  orders := by
    intro first second same
    rw [course_run, course_run, same.read_eq]
    exact ⟨rfl, rfl⟩
  interrupted := by
    intro text free before soon time between rest later
    rw [course_run, course_run, (sameLines_cut free before soon time between rest later).read_eq]

end NodeStorage.Udev
